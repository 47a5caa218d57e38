import TaintFlow.Pattern.Property
import TaintFlow.Unicode.CaseFold

namespace TaintFlow.Pattern

structure Flags where
  caseless : Bool := false
  multiLine : Bool := false
  dotAll : Bool := false
  crlf : Bool := false
  unicode : Bool := true
  verbose : Bool := false

structure Cursor where
  rest : List Char
  flags : Flags := {}
  names : List (List Char) := []

abbrev Reader := StateT Cursor Option

/-- A piece of a pattern, with how deep its groups, repetitions, classes and lists nest, and how
many bytes a machine for it takes. -/
structure Piece where
  pattern : Pattern
  depth : Nat := 0
  size : Nat := 0

structure Bracket where
  set : CharSet
  depth : Nat := 0
  size : Nat := 0

def Bracket.piece (b : Bracket) : Piece where
  pattern := .set b.set
  depth := b.depth
  size := b.size

def stateSize : Nat := 32

def rangeSize : Nat := 48

def wordSize : Nat := 50000

def propertySize : Nat := 8000

inductive Atom where
  | char (c : Char)
  | set (s : CharSet) (size : Nat)
  | look (l : Look)

def dropVerbose : Bool → List Char → List Char
  | _, [] => []
  | true, c :: cs => dropVerbose (c != '\n') cs
  | false, c :: cs =>
    if Unicode.isBlank c then dropVerbose false cs
    else if c = '#' then dropVerbose true cs
    else c :: cs

namespace Reader

def flags : Reader Flags := return (← get).flags

def setRest (rest : List Char) : Reader Unit :=
  modify fun s ↦ { s with rest := rest }

def rest : Reader (List Char) := return (← get).rest

def peek? : Reader (Option Char) := return (← rest).head?

def peek : Reader Char := do
  match ← peek? with
  | some c => return c
  | none => failure

def skipSpace : Reader Unit := do
  if (← flags).verbose then setRest (dropVerbose false (← rest))

def drop (n : Nat) : Reader Unit := do
  setRest ((← rest).drop n)

def advance : Reader Unit := do
  drop 1
  skipSpace

def accept (text : String) : Reader Bool := do
  let cs ← rest
  if text.toList.isPrefixOf cs then
    drop text.length
    return true
  else return false

def complement (negated : Bool) (s : CharSet) : Reader CharSet := do
  if !negated then return s
  if !(← flags).unicode then failure
  return fun c ↦ !s c

def fold (s : CharSet) : Reader CharSet := do
  let f ← flags
  if !f.caseless then return s
  if f.unicode then return Unicode.anyCase s
  return fun c ↦ s c || (c.toNat < 128 && (s c.toLower || s c.toUpper))

def charSet (c : Char) : Reader CharSet := do
  let f ← flags
  if !f.caseless then return (· == c)
  if f.unicode then
    let variants := Unicode.caseVariants c
    return fun d ↦ d == c || variants.contains d
  return fun d ↦ d == c || (c.toNat < 128 && d.toNat < 128 && d.toLower == c.toLower)

def hexNumber (digits : List Char) : Option Nat :=
  digits.foldlM (fun n c ↦ do
    let d ← if c.isDigit then some (c.toNat - 48)
      else if 'a' ≤ c && c ≤ 'f' then some (c.toNat - 87)
      else if 'A' ≤ c && c ≤ 'F' then some (c.toNat - 55) else none
    return 16 * n + d) 0

def hexChar (digits : List Char) : Reader Atom := do
  if digits.isEmpty then failure
  let n ← hexNumber digits
  unless n.isValidChar do failure
  if !(← flags).unicode && 128 ≤ n && n < 256 then failure
  return .char (Char.ofNat n)

def fixedHex : Nat → Reader (List Char)
  | 0 => return []
  | n + 1 => do
    let c ← peek
    unless isHexDigit c do failure
    advance
    return c :: (← fixedHex n)

def braced : Nat → Reader (List Char)
  | 0 => failure
  | fuel + 1 => do
    let c ← peek
    if c = '\x7d' then
      drop 1
      return []
    advance
    return c :: (← braced fuel)

def hexEscape (digits : Nat) : Reader Atom := do
  advance
  if (← peek) = '\x7b' then
    advance
    let inside ← braced (← rest).length
    skipSpace
    hexChar inside
  else
    hexChar (← fixedHex digits)

def property (negated : Bool) : Reader Atom := do
  if !(← flags).unicode then failure
  advance
  let c ← peek
  let name ←
    if c = '\x7b' then
      advance
      let inside ← braced (← rest).length
      pure (String.ofList inside)
    else if c = '\\' then failure
    else
      advance
      pure c.toString
  let s ← fold (← namedSet? name)
  return .set (← complement negated s) propertySize

def wordSet : Reader CharSet :=
  return if (← flags).unicode then Unicode.isWord else asciiWord

def letterClass (c : Char) : Reader Atom := do
  drop 1
  let unicode := (← flags).unicode
  let s : CharSet ← match c.toLower with
    | 'd' => pure (if unicode then Unicode.isDigit else Char.isDigit)
    | 's' => pure (if unicode then Unicode.isBlank else asciiBlank)
    | _ => wordSet
  let size := if !unicode then rangeSize else if c.toLower = 'w' then wordSize
    else propertySize
  return .set (← complement c.isUpper s) size

/-- A word boundary, after its letter: a name in braces may say which. Braces that hold no name are
left for a repetition. -/
def boundary : Reader Atom := do
  let isWord ← wordSet
  let cs ← rest
  match cs with
  | '\x7b' :: more =>
    let more := if (← flags).verbose then dropVerbose false more else more
    let isNameChar (c : Char) : Bool := c.isAlpha || c = '-'
    match more with
    | [] => failure
    | c :: _ =>
      if !isNameChar c then return .look (.wordBoundary isWord)
      setRest more
      let name ← braced more.length
      match String.ofList name with
      | "start" => return .look (.wordStart isWord)
      | "end" => return .look (.wordEnd isWord)
      | "start-half" => return .look (.noWordBefore isWord)
      | "end-half" => return .look (.noWordAfter isWord)
      | _ => failure
  | _ => return .look (.wordBoundary isWord)

/-- Any ASCII character that is no letter or digit may be escaped, angle brackets apart. -/
def isEscapable (c : Char) : Bool :=
  c.toNat < 128 && !c.isAlphanum && c != '<' && c != '>'

def escape : Reader Atom := do
  let c ← peek
  if c = 'x' then hexEscape 2
  else if c = 'u' then hexEscape 4
  else if c = 'U' then hexEscape 8
  else if c = 'p' then property false
  else if c = 'P' then property true
  else if "dswDSW".toList.contains c then letterClass c
  else
    drop 1
    if isEscapable c then return .char c
    match c with
    | 'a' => return .char (Char.ofNat 7)
    | 'f' => return .char (Char.ofNat 12)
    | 't' => return .char '\t'
    | 'n' => return .char '\n'
    | 'r' => return .char '\r'
    | 'v' => return .char (Char.ofNat 11)
    | 'A' => return .look .textStart
    | 'z' => return .look .textEnd
    | 'b' => boundary
    | 'B' => return .look (.insideOrOutside (← wordSet))
    | '<' => return .look (.wordStart (← wordSet))
    | '>' => return .look (.wordEnd (← wordSet))
    | _ => failure

def atom : Reader Atom := do
  let c ← peek
  drop 1
  if c = '\\' then escape else return .char c

def classChar (c : Char) : Reader Char := do
  if !(← flags).unicode && 128 ≤ c.toNat then failure
  return c

def Atom.toSet : Atom → Reader (CharSet × Nat)
  | .char c => do
    let c ← classChar c
    return ((· == c), rangeSize)
  | .set s size => return (s, size)
  | .look _ => failure

def classItem : Reader (CharSet × Nat) := do
  let first ← atom
  skipSpace
  let cs ← rest
  let next := if (← flags).verbose then dropVerbose false (cs.drop 1) else cs.drop 1
  match cs with
  | [] => failure
  | '-' :: _ =>
    if next.head? = some ']' || next.head? = some '-' then Atom.toSet first
    else
      setRest next
      let last ← atom
      match first, last with
      | .char lo, .char hi =>
        let lo ← classChar lo
        let hi ← classChar hi
        if hi < lo then failure
        return (fun c ↦ lo ≤ c && c ≤ hi, rangeSize)
      | _, _ => failure
  | _ => Atom.toSet first

def asciiClassHere? : Reader (Option CharSet) := do
  match ← rest with
  | '[' :: ':' :: more =>
    let (negated, more) := match more with
      | '^' :: more => (true, more)
      | more => (false, more)
    let name := more.takeWhile (· != ':')
    match more.drop name.length, asciiClass? (String.ofList name) with
    | ':' :: ']' :: after, some s =>
      let s ← fold s
      let s ← complement negated s
      setRest after
      return some s
    | _, _ => return none
  | _ => return none

def combine (operator : Char) (s t : CharSet) : CharSet := fun c ↦
  if operator = '&' then s c && t c
  else if operator = '-' then s c && !t c
  else s c != t c

/-- The part of a class read so far: what stands before the last operator with that operator, and
the union since. -/
structure ClassSoFar where
  before : Option (CharSet × Char) := none
  union : CharSet := fun _ ↦ false
  depth : Nat := 0
  size : Nat := 0

def ClassSoFar.add (acc : ClassSoFar) (s : CharSet) (size : Nat) : ClassSoFar :=
  { acc with union := let u := acc.union; fun c ↦ u c || s c, size := acc.size + size }

def ClassSoFar.close (acc : ClassSoFar) : Reader CharSet := do
  match acc.before with
  | none => return acc.union
  | some (s, operator) => return combine operator (← fold s) (← fold acc.union)

mutual

def classBody : Nat → Reader Bracket
  | 0 => failure
  | fuel + 1 => do
    skipSpace
    let negated := (← peek) = '^'
    if negated then advance
    let mut acc : ClassSoFar := {}
    let cs ← rest
    let hyphens := cs.takeWhile (· = '-')
    if hyphens.isEmpty then
      if (← peek) = ']' then
        advance
        acc := acc.add (· == ']') rangeSize
    else
      setRest (cs.drop hyphens.length)
      skipSpace
      acc := acc.add (· == '-') rangeSize
    let whole ← classItems fuel acc
    let s ← fold (← whole.close)
    return { set := ← complement negated s, depth := whole.depth + 1, size := whole.size }

def classItems : Nat → ClassSoFar → Reader ClassSoFar
  | 0, _ => failure
  | fuel + 1, acc => do
    skipSpace
    match ← rest with
    | [] => failure
    | ']' :: more =>
      setRest more
      return acc
    | '[' :: more =>
      match ← asciiClassHere? with
      | some s => classItems fuel (acc.add s rangeSize)
      | none =>
        setRest more
        let inner ← classBody fuel
        let acc := acc.add inner.set inner.size
        classItems fuel { acc with depth := max acc.depth inner.depth }
    | c :: d :: more =>
      if c = d && (c = '&' || c = '-' || c = '~') then
        setRest more
        let s ← acc.close
        classItems fuel { before := some (s, c), depth := acc.depth + 1, size := acc.size }
      else
        let (s, size) ← classItem
        classItems fuel (acc.add s size)
    | _ =>
      let (s, size) ← classItem
      classItems fuel (acc.add s size)

end

def setFlag (f : Flags) (on : Bool) : Char → Option Flags
  | 'i' => some { f with caseless := on }
  | 'm' => some { f with multiLine := on }
  | 's' => some { f with dotAll := on }
  | 'R' => some { f with crlf := on }
  | 'u' => some { f with unicode := on }
  | 'x' => some { f with verbose := on }
  | 'U' => some f
  | _ => none

/-- The flags after `marks`, a list of flag letters in which a hyphen turns off what follows it.
No mark may stand twice, and the hyphen not at the end. -/
def readFlags (f : Flags) (marks : List Char) : Option Flags := do
  if marks.eraseDups.length != marks.length || marks.getLast? = some '-' then none
  let on := marks.takeWhile (· != '-')
  let off := marks.drop (on.length + 1)
  let f ← on.foldlM (setFlag · true ·) f
  off.foldlM (setFlag · false ·) f

def isNameChar (first : Bool) (c : Char) : Bool :=
  c = '_' || if first then Unicode.isAlphabetic c
    else c = '.' || c = '[' || c = ']' || Unicode.isAlphanumeric c

def groupName : Reader Unit := do
  let cs ← rest
  let name := cs.takeWhile (· != '>')
  match name, cs.drop name.length with
  | first :: others, '>' :: more =>
    if !isNameChar true first || others.any (!isNameChar false ·) then failure
    if (← get).names.contains name then failure
    modify fun s ↦ { s with rest := more, names := name :: s.names }
  | _, _ => failure

def count : Reader Nat := do
  setRest ((← rest).dropWhile Unicode.isBlank)
  let rec digits : Nat → Reader (List Char)
    | 0 => return []
    | fuel + 1 => do
      match ← peek? with
      | some c =>
        if c.isDigit then
          advance
          return c :: (← digits fuel)
        else return []
      | none => return []
  let ds ← digits (← rest).length
  setRest ((← rest).dropWhile Unicode.isBlank)
  skipSpace
  if ds.isEmpty then failure
  let n := ds.foldl (fun n c ↦ 10 * n + (c.toNat - 48)) 0
  if UInt32.size ≤ n then failure
  return n

def bounds : Reader (Nat × Option Nat) := do
  advance
  let min ← count
  let max ←
    if (← peek) = ',' then
      advance
      if (← peek) = '\x7d' then pure none else some <$> count
    else pure (some min)
  if (← peek) != '\x7d' then failure
  advance
  if max.any (· < min) then failure
  return (min, max)

def repeatable : List (Option Piece) → Option (Piece × List (Option Piece))
  | some piece :: before => some (piece, before)
  | _ => none

/-- A mark after a repetition that makes it take as little as it can; that is no difference to
whether there is a match. -/
def skipLazy : Reader Unit := do
  if (← peek?) = some '?' then drop 1

/-- The pieces, last first, in a row. Flags stand among them as `none`. -/
def row (pieces : List (Option Piece)) : Piece :=
  let depth := (pieces.filterMap id).foldl (fun d p ↦ max d p.depth) 0
  { pattern := (pieces.filterMap id).foldl (fun q p ↦ match q with
      | .empty => p.pattern
      | q => .concat p.pattern q) .empty
    depth := depth + if pieces.length > 1 then 1 else 0
    size := (pieces.filterMap id).foldl (· + ·.size) 0 }

def choice (branches : List Piece) : Piece :=
  match branches with
  | [] => { pattern := .empty }
  | [p] => p
  | p :: ps => ps.foldl (fun q p ↦
      { pattern := .either p.pattern q.pattern, depth := max q.depth p.depth
        size := q.size + p.size })
      { p with depth := p.depth + 1, size := p.size + 2 * stateSize }

def pieceOfAtom : Atom → Reader Piece
  | .char c => return { pattern := .set (← charSet c), size := c.utf8Size * stateSize }
  | .set s size => return { pattern := .set s, size }
  | .look l => return { pattern := .look l, size := stateSize }

def dot : Reader Piece := do
  let f ← flags
  if !f.unicode then failure
  return {
    pattern := .set fun c ↦ f.dotAll || (c != '\n' && !(f.crlf && c = '\r'))
    size := 10 * stateSize }

def lineStart : Reader Piece := do
  let f ← flags
  pieceOfAtom <| .look <|
    if !f.multiLine then .textStart else if f.crlf then .crlfLineStart else .lineStart

def lineEnd : Reader Piece := do
  let f ← flags
  pieceOfAtom <| .look <|
    if !f.multiLine then .textEnd else if f.crlf then .crlfLineEnd else .lineEnd

def repeated (pieces : List (Option Piece)) (min : Nat) (max : Option Nat) :
    Reader (List (Option Piece)) := do
  let (piece, before) ← repeatable pieces
  skipLazy
  let copies := max.getD (Nat.max min 1)
  return some {
    pattern := .repeated piece.pattern min max
    depth := piece.depth + 1
    size := copies * piece.size + (copies - min + 1) * stateSize } :: before

mutual

/-- Branches up to the end of the text or of a group, which is left standing. `branches` and
`pieces` are those read so far, last first. -/
def branches : Nat → List Piece → List (Option Piece) → Reader Piece
  | 0, _, _ => failure
  | fuel + 1, done, pieces => do
    skipSpace
    match ← rest with
    | [] | ')' :: _ => return choice (row pieces :: done)
    | '|' :: more =>
      setRest more
      branches fuel (row pieces :: done) []
    | '(' :: more =>
      setRest more
      let piece ← group fuel
      branches fuel done (piece :: pieces)
    | '[' :: more =>
      setRest more
      let b ← classBody fuel
      branches fuel done (some b.piece :: pieces)
    | '?' :: more =>
      setRest more
      branches fuel done (← repeated pieces 0 (some 1))
    | '*' :: more =>
      setRest more
      branches fuel done (← repeated pieces 0 none)
    | '+' :: more =>
      setRest more
      branches fuel done (← repeated pieces 1 none)
    | '\x7b' :: _ =>
      let (min, max) ← bounds
      branches fuel done (← repeated pieces min max)
    | '.' :: more =>
      setRest more
      branches fuel done (some (← dot) :: pieces)
    | '^' :: more =>
      setRest more
      branches fuel done (some (← lineStart) :: pieces)
    | '$' :: more =>
      setRest more
      branches fuel done (some (← lineEnd) :: pieces)
    | _ =>
      let a ← atom
      branches fuel done (some (← pieceOfAtom a) :: pieces)

def group : Nat → Reader (Option Piece)
  | 0 => failure
  | fuel + 1 => do
    skipSpace
    let outer ← flags
    let cs ← rest
    if ["?=", "?!", "?<=", "?<!"].any (·.toList.isPrefixOf cs) then failure
    if (← accept "?P<") || (← accept "?<") then
      groupName
      inGroup fuel outer
    else if ← accept "?" then
      let cs ← rest
      let marks := cs.takeWhile fun c ↦ c != ':' && c != ')'
      let inner ← readFlags outer marks
      match cs.drop marks.length with
      | ')' :: more =>
        if marks.isEmpty then failure
        modify fun s ↦ { s with rest := more, flags := inner }
        return none
      | ':' :: more =>
        modify fun s ↦ { s with rest := more, flags := inner }
        inGroup fuel outer
      | _ => failure
    else inGroup fuel outer

def inGroup : Nat → Flags → Reader (Option Piece)
  | 0, _ => failure
  | fuel + 1, outer => do
    let piece ← branches fuel [] []
    match ← rest with
    | ')' :: more =>
      modify fun s ↦ { s with rest := more, flags := outer }
      return some { piece with depth := piece.depth + 1, size := piece.size + 2 * stateSize }
    | _ => failure

end

end Reader

/-- How deep a pattern may nest. -/
def depthLimit : Nat := 250

/-- How many bytes a machine for a pattern may take. -/
def sizeLimit : Nat := 10 * 1024 * 1024

def read? (text : String) : Option Pattern := do
  let cs := text.toList
  let (piece, cursor) ← (Reader.branches (3 * cs.length + 3) [] []).run { rest := cs }
  if cursor.rest.isEmpty && piece.depth ≤ depthLimit && piece.size ≤ sizeLimit then
    some piece.pattern
  else none

end TaintFlow.Pattern
