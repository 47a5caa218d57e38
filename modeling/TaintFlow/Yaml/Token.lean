import TaintFlow.Yaml.Scalar

namespace TaintFlow.Yaml

inductive Token where
  | documentStart
  | documentEnd
  | versionDirective (major minor : Nat)
  | tagDirective (handle expansion : String)
  | blockSequence
  | blockMapping
  | blockEnd
  | flowSequence
  | flowSequenceEnd
  | flowMapping
  | flowMappingEnd
  | item
  | comma
  | key
  | value
  | reference (name : String)
  | anchor (name : String)
  | tag (handle suffix : String)
  | scalar (style : ScalarStyle) (text : String)
deriving DecidableEq, Repr

/-- Something that is a key if a colon follows, which must be soon and on the same line. -/
structure KeyCandidate where
  required : Bool
  position : Nat
  line : Nat
  column : Nat

def keyWidth : Nat := 1024

structure Scan where
  cursor : Cursor
  tokens : Array Token := #[]
  indents : List Nat := []
  keyAllowed : Bool := true
  candidate : Option KeyCandidate := none
  outer : List (Option KeyCandidate) := []

abbrev Scanning := StateT Scan Option

namespace Scanning

def push (t : Token) : Scanning Unit :=
  modify fun s ↦ { s with tokens := s.tokens.push t }

def insertAt (position : Nat) (t : Token) : Scanning Unit :=
  modify fun s ↦ { s with tokens := s.tokens.insertIdxIfInBounds position t }

def moveTo (c : Cursor) : Scanning Unit :=
  modify fun s ↦ { s with cursor := c }

def allowKey (b : Bool) : Scanning Unit :=
  modify fun s ↦ { s with keyAllowed := b }

def cursor : Scanning Cursor := return (← get).cursor

def inFlow : Scanning Bool := return !(← get).outer.isEmpty

def take (n : Nat) (t : Token) : Scanning Unit := do
  moveTo ((← cursor).skip n)
  push t

/-- Closes the block collections that stand deeper than `column`; flow collections close none. -/
def closeBlocks (column : Option Nat) : Scanning Unit := do
  unless ← inFlow do
    let s ← get
    let (closed, indents) := s.indents.span fun i ↦ column.all (· < i)
    set { s with tokens := s.tokens ++ closed.map fun _ ↦ Token.blockEnd, indents }

def openBlock (column : Nat) (insert : Scanning Unit) : Scanning Unit := do
  unless ← inFlow do
    if (← get).indents.head?.all (· < column) then
      modify fun s ↦ { s with indents := column :: s.indents }
      insert

def keepFresh (k : KeyCandidate) : Scanning (Option KeyCandidate) := do
  let c ← cursor
  if k.line < c.line ∨ k.column + keyWidth < c.column then
    guard (!k.required)
    return none
  return some k

def dropStale : Scanning Unit := do
  let s ← get
  let outer ← s.outer.mapM fun k ↦ return (← k.mapM keepFresh).join
  let candidate := (← s.candidate.mapM keepFresh).join
  set { s with candidate, outer }

def dropCandidate : Scanning Unit := do
  guard (!(← get).candidate.any (·.required))
  modify fun s ↦ { s with candidate := none }

def noteCandidate : Scanning Unit := do
  if (← get).keyAllowed then
    dropCandidate
    let s ← get
    let required := !(← inFlow) && s.indents.head? = some s.cursor.column
    let candidate : KeyCandidate :=
      { required, position := s.tokens.size, line := s.cursor.line, column := s.cursor.column }
    set { s with candidate := some candidate }

def skipGaps : Nat → Scanning Unit
  | 0 => failure
  | fuel + 1 => do
    let c ← cursor
    let c := if c.column = 0 ∧ c.rest.head? = some byteOrderMark then c.next else c
    let tabs := (← inFlow) || !(← get).keyAllowed
    let c := c.dropWhile fun ch ↦ ch = ' ' || (tabs && ch = '\t')
    let c := if c.rest.head? = some '#' then c.skipLine else c
    if c.rest.head?.any isBreak then
      moveTo c.next
      unless ← inFlow do allowKey true
      skipGaps fuel
    else moveTo c

def scanName (token : String → Token) : Scanning Unit := do
  let (name, c) := (← cursor).next.span isNameChar
  guard (!name.isEmpty)
  guard (atGap c.rest || c.rest.head?.any ("?:,]\x7d%@`".toList.contains ·))
  moveTo c
  push (token (String.ofList name))

def readPercent : Nat → ByteArray → Cursor → Option (ByteArray × Cursor)
  | 0, _, _ => none
  | fuel + 1, bytes, c =>
    if c.rest.head? = some '%' then do
      let (b, c) ← c.next.readHex 2
      readPercent fuel (bytes.push (UInt8.ofNat b)) c
    else some (bytes, c)

def isTagChar (brackets : Bool) (ch : Char) : Bool :=
  isNameChar ch || ";/?:@&=+$.!~*\x27()".toList.contains ch ||
    (brackets && ",[]".toList.contains ch)

/-- A tag, or a part of one. Commas and brackets belong to it only in angle brackets and in
directives. -/
def readTagText (brackets : Bool) : Nat → String → Cursor → Option (String × Cursor)
  | 0, _, _ => none
  | fuel + 1, done, c =>
    match c.rest.head? with
    | some '%' => do
      let (bytes, c) ← readPercent (c.rest.length + 1) .empty c
      readTagText brackets fuel (done ++ (← String.fromUTF8? bytes)) c
    | some ch =>
      if isTagChar brackets ch then readTagText brackets fuel (done.push ch) c.next
      else some (done, c)
    | none => some (done, c)

def readTag (brackets : Bool) (c : Cursor) : Option (String × Cursor) :=
  readTagText brackets (c.rest.length + 1) "" c

def readHandle (c : Cursor) : Option (String × Bool × Cursor) := do
  guard (c.rest.head? = some '!')
  let (name, c) := c.next.span isNameChar
  if c.rest.head? = some '!' then return (String.ofList ('!' :: name ++ ['!']), true, c.next)
  else return (String.ofList ('!' :: name), false, c)

/-- A tag: in angle brackets as it is, or behind a handle. A handle that is not closed is the
beginning of a tag with the handle `!`. -/
def scanTag : Scanning Unit := do
  let start ← cursor
  let (handle, suffix, c) ←
    match start.skipText? "!<" with
    | some c => do
      let (suffix, c) ← readTag true c
      guard (!suffix.isEmpty && c.rest.head? = some '>')
      pure ("", suffix, c.next)
    | none => do
      let (handle, closed, c) ← readHandle start
      let (text, c) ← readTag false c
      if closed then
        guard (!text.isEmpty)
        pure (handle, text, c)
      else
        let suffix := String.ofList (handle.toList.drop 1) ++ text
        pure (if suffix.isEmpty then ("", "!", c) else ("!", suffix, c))
  guard (atGap c.rest || ((← inFlow) && c.rest.head? = some ','))
  moveTo c
  push (.tag handle suffix)

def readVersionNumber (c : Cursor) : Option (Nat × Cursor) := do
  let (digits, c) := c.span Char.isDigit
  guard (!digits.isEmpty && digits.length ≤ 9)
  return (Json.digitsValue digits, c)

def readDirective (name : String) (c : Cursor) : Option (Token × Cursor) := do
  let c := c.skipBlanks
  if name = "YAML" then
    let (major, c) ← readVersionNumber c
    guard (c.rest.head? = some '.')
    let (minor, c) ← readVersionNumber c.next
    return (.versionDirective major minor, c)
  else
    guard (name = "TAG")
    let (handle, closed, c) ← readHandle c
    guard (closed || handle = "!")
    guard (c.rest.head?.any isBlank)
    let (expansion, c) ← readTag true c.skipBlanks
    guard (!expansion.isEmpty && atGap c.rest)
    return (.tagDirective handle expansion, c)

def scanDirective : Scanning Unit := do
  let (name, c) := (← cursor).next.span isNameChar
  guard (!name.isEmpty && atGap c.rest)
  let (token, c) ← readDirective (String.ofList name) c
  let c := c.skipBlanks
  let c := if c.rest.head? = some '#' then c.skipLine else c
  guard (c.rest.head?.all isBreak)
  moveTo c.next
  push token

def leaveBlocks : Scanning Unit := do
  closeBlocks none
  dropCandidate
  allowKey false

def enterFlow (t : Token) : Scanning Unit := do
  noteCandidate
  modify fun s ↦ { s with outer := s.candidate :: s.outer, candidate := none }
  allowKey true
  take 1 t

def leaveFlow (t : Token) : Scanning Unit := do
  dropCandidate
  if let k :: outer := (← get).outer then
    modify fun s ↦ { s with candidate := k, outer }
  allowKey false
  take 1 t

/-- A mark that opens a block collection where none is open at its column. -/
def openAt (t : Token) : Scanning Unit := do
  unless ← inFlow do
    guard (← get).keyAllowed
    openBlock (← cursor).column (push t)

def scanItem : Scanning Unit := do
  openAt .blockSequence
  dropCandidate
  allowKey true
  take 1 .item

def scanKey : Scanning Unit := do
  openAt .blockMapping
  dropCandidate
  allowKey !(← inFlow)
  take 1 .key

def scanValue : Scanning Unit := do
  match (← get).candidate with
  | some k =>
    insertAt k.position .key
    openBlock k.column (insertAt k.position .blockMapping)
    modify fun s ↦ { s with candidate := none }
    allowKey false
  | none =>
    openAt .blockMapping
    allowKey !(← inFlow)
  take 1 .value

def innerColumn : Scanning Nat :=
  return ((← get).indents.head?.map (· + 1)).getD 0

def scanBlock (style : ScalarStyle) : Scanning Unit := do
  dropCandidate
  allowKey true
  let (text, c) ← (← cursor).next.readBlock (style = .folded) (← innerColumn)
  moveTo c
  push (.scalar style text)

def scanQuoted (style : ScalarStyle) : Scanning Unit := do
  noteCandidate
  allowKey false
  let c := (← cursor).next
  let (text, c) ← if style = .singleQuoted then c.readSingleQuoted else c.readDoubleQuoted
  moveTo c
  push (.scalar style text)

def scanPlain : Scanning Unit := do
  noteCandidate
  allowKey false
  let (text, lineEnded, c) ← (← cursor).readPlain (← inFlow) (← innerColumn)
  moveTo c
  if lineEnded then allowKey true
  push (.scalar .plain text)

def beginsPlain (inFlow : Bool) (ch : Char) (rest : List Char) : Bool :=
  !(isBlankOrBreak ch || "-?:,[]\x7b\x7d#&*!|>\x27\"%@`".toList.contains ch) ||
    (ch = '-' && !rest.head?.any isBlank) ||
    (!inFlow && (ch = '?' || ch = ':') && !atGap rest)

def scanToken (ch : Char) (rest : List Char) : Scanning Unit := do
  let c ← cursor
  let inFlow ← inFlow
  if c.column = 0 ∧ ch = '%' then
    leaveBlocks
    scanDirective
  else if c.atMark "---" then
    leaveBlocks
    take 3 .documentStart
  else if c.atMark "..." then
    leaveBlocks
    take 3 .documentEnd
  else if ch = '[' then enterFlow .flowSequence
  else if ch = '\x7b' then enterFlow .flowMapping
  else if ch = ']' then leaveFlow .flowSequenceEnd
  else if ch = '\x7d' then leaveFlow .flowMappingEnd
  else if ch = ',' then
    dropCandidate
    allowKey true
    take 1 .comma
  else if ch = '-' ∧ atGap rest then scanItem
  else if ch = '?' ∧ (inFlow ∨ atGap rest) then scanKey
  else if ch = ':' ∧ (inFlow ∨ atGap rest) then scanValue
  else if ch = '*' then do
    noteCandidate
    allowKey false
    scanName .reference
  else if ch = '&' then do
    noteCandidate
    allowKey false
    scanName .anchor
  else if ch = '!' then do
    noteCandidate
    allowKey false
    scanTag
  else if ch = '|' ∧ !inFlow then scanBlock .literal
  else if ch = '>' ∧ !inFlow then scanBlock .folded
  else if ch = '\x27' then scanQuoted .singleQuoted
  else if ch = '"' then scanQuoted .doubleQuoted
  else do
    guard (beginsPlain inFlow ch rest)
    scanPlain

/-- Reads tokens to the end of the text; every token takes a character at least. -/
def scanAll : Nat → Scanning Unit
  | 0 => failure
  | fuel + 1 => do
    skipGaps ((← cursor).rest.length + 1)
    dropStale
    let c ← cursor
    closeBlocks (some c.column)
    match c.rest with
    | [] => leaveBlocks
    | ch :: rest => do
      scanToken ch rest
      scanAll fuel

end Scanning

namespace Token

def ofText? (text : String) : Option (List Token) := do
  guard (text.toList.all isAllowed)
  let chars := unifyBreaks text.toList
  let ((), s) ← (Scanning.scanAll (chars.length + 1)).run { cursor := { rest := chars } }
  return s.tokens.toList

end Token

end TaintFlow.Yaml
