import TaintFlow.Json.Reader
import TaintFlow.Yaml.Cursor

namespace TaintFlow.Yaml

inductive ScalarStyle where
  | plain
  | singleQuoted
  | doubleQuoted
  | literal
  | folded
deriving DecidableEq, Repr

/-- Blanks and breaks within a scalar, latest first, for which it is not yet clear whether they
belong to its text. -/
structure Gap where
  blanks : List Char := []
  broken : Bool := false
  firstBreak : Option Char := none
  moreBreaks : List Char := []

namespace Gap

def fold (g : Gap) : List Char :=
  if !g.broken then g.blanks
  else if g.firstBreak = some '\n' then
    if g.moreBreaks.isEmpty then [' '] else g.moreBreaks
  else g.moreBreaks ++ g.firstBreak.toList

/-- Reads blanks and breaks. A tab may not stand in the indentation, which has `indent` columns. -/
def read (indent : Nat) : Nat → Gap → Cursor → Option (Gap × Cursor)
  | 0, _, _ => none
  | fuel + 1, g, c =>
    match c.rest with
    | [] => some (g, c)
    | ch :: _ =>
      if isBlank ch then
        if !g.broken then read indent fuel { g with blanks := ch :: g.blanks } c.next
        else if ch = '\t' ∧ c.column < indent then none
        else read indent fuel g c.next
      else if isBreak ch then
        let g :=
          if g.broken then { g with moreBreaks := ch :: g.moreBreaks }
          else { g with blanks := [], broken := true, firstBreak := some ch }
        read indent fuel g c.next
      else some (g, c)

end Gap

namespace Cursor

def readGap (indent : Nat) (g : Gap) (c : Cursor) : Option (Gap × Cursor) :=
  g.read indent (c.rest.length + 1) c

def readHex (digits : Nat) (c : Cursor) : Option (Nat × Cursor) := do
  let front := c.rest.take digits
  guard (front.length = digits)
  let n ← front.foldlM (fun n d ↦ return 16 * n + (← Json.hexDigit? d)) 0
  return (n, c.skip digits)

def charOf? (n : Nat) : Option Char :=
  if n.isValidChar then some (Char.ofNat n) else none

def readEscape (c : Cursor) : Option (Char × Cursor) := do
  let coded (digits : Nat) : Option (Char × Cursor) := do
    let (n, c) ← c.next.readHex digits
    return (← charOf? n, c)
  match c.rest.head? with
  | some '0' => return ('\x00', c.next)
  | some 'a' => return ('\x07', c.next)
  | some 'b' => return ('\x08', c.next)
  | some 't' | some '\t' => return ('\t', c.next)
  | some 'n' => return ('\n', c.next)
  | some 'v' => return ('\x0b', c.next)
  | some 'f' => return ('\x0c', c.next)
  | some 'r' => return ('\r', c.next)
  | some 'e' => return ('\x1b', c.next)
  | some ' ' => return (' ', c.next)
  | some '"' => return ('"', c.next)
  | some '/' => return ('/', c.next)
  | some '\\' => return ('\\', c.next)
  | some 'N' => return (nextLine, c.next)
  | some '_' => return ('\xa0', c.next)
  | some 'L' => return (lineSeparator, c.next)
  | some 'P' => return (paragraphSeparator, c.next)
  | some 'x' => coded 2
  | some 'u' => coded 4
  | some 'U' => coded 8
  | _ => none

def singleQuotedFrom : Nat → List Char → Cursor → Option (List Char × Cursor)
  | 0, _, _ => none
  | fuel + 1, done, c =>
    if c.atDocumentMark then none
    else match c.rest with
      | [] => none
      | '\x27' :: '\x27' :: _ => singleQuotedFrom fuel ('\x27' :: done) (c.skip 2)
      | '\x27' :: _ => some (done, c.next)
      | ch :: _ =>
        if isBlankOrBreak ch then do
          let (gap, c) ← c.readGap 0 {}
          singleQuotedFrom fuel (gap.fold ++ done) c
        else singleQuotedFrom fuel (ch :: done) c.next

def doubleQuotedFrom : Nat → List Char → Cursor → Option (List Char × Cursor)
  | 0, _, _ => none
  | fuel + 1, done, c =>
    if c.atDocumentMark then none
    else match c.rest with
      | [] => none
      | '"' :: _ => some (done, c.next)
      | '\\' :: rest =>
        if rest.head?.any isBreak then do
          let (gap, c) ← (c.skip 2).readGap 0 { broken := true }
          doubleQuotedFrom fuel (gap.fold ++ done) c
        else do
          let (ch, c) ← c.next.readEscape
          doubleQuotedFrom fuel (ch :: done) c
      | ch :: _ =>
        if isBlankOrBreak ch then do
          let (gap, c) ← c.readGap 0 {}
          doubleQuotedFrom fuel (gap.fold ++ done) c
        else doubleQuotedFrom fuel (ch :: done) c.next

def readSingleQuoted (c : Cursor) : Option (String × Cursor) := do
  let (text, c) ← singleQuotedFrom (c.rest.length + 1) [] c
  return (String.ofList text.reverse, c)

def readDoubleQuoted (c : Cursor) : Option (String × Cursor) := do
  let (text, c) ← doubleQuotedFrom (c.rest.length + 1) [] c
  return (String.ofList text.reverse, c)

def isFlowMark (ch : Char) : Bool :=
  ch = ',' || ch = '[' || ch = ']' || ch = '\x7b' || ch = '\x7d'

/-- How many characters of a plain scalar there are up to the next gap. A colon ends the scalar
before a gap, and brackets and commas end it inside a flow collection, where they must not stand
right after a colon. -/
def plainWord (inFlow : Bool) : List Char → Option Nat
  | [] => some 0
  | ch :: rest =>
    if isBlankOrBreak ch then some 0
    else if inFlow && ch = ':' && rest.head?.any (fun d ↦ d = '?' || isFlowMark d) then none
    else if ch = ':' && atGap rest then some 0
    else if inFlow && isFlowMark ch then some 0
    else (plainWord inFlow rest).map (· + 1)

/-- The rest of a plain scalar, after the text `done`, latest first, and `gap`: the whole text, the
gap behind it, and the place after that. -/
def plainFrom (inFlow : Bool) (indent : Nat) :
    Nat → List Char → Gap → Cursor → Option (List Char × Gap × Cursor)
  | 0, _, _, _ => none
  | fuel + 1, done, gap, c =>
    if c.atDocumentMark || c.rest.head? = some '#' then some (done, gap, c)
    else do
      let length ← plainWord inFlow c.rest
      let word := c.rest.take length
      let done := if length = 0 then done else word.reverse ++ gap.fold ++ done
      let gap := if length = 0 then gap else {}
      let c := c.skip length
      if c.rest.head?.any isBlankOrBreak then
        let (gap, c) ← c.readGap indent gap
        if !inFlow && c.column < indent then return (done, gap, c)
        plainFrom inFlow indent fuel done gap c
      else return (done, gap, c)

def readPlain (inFlow : Bool) (indent : Nat) (c : Cursor) : Option (String × Bool × Cursor) := do
  let (text, gap, c) ← plainFrom inFlow indent (c.rest.length + 1) [] {} c
  return (String.ofList text.reverse, gap.broken, c)

end Cursor

inductive Chomping where
  | strip
  | clip
  | keep
deriving DecidableEq, Repr

structure BlockHeader where
  chomping : Chomping := .clip
  indentation : Option Nat := none

namespace BlockHeader

def readChomping (h : BlockHeader) (c : Cursor) : BlockHeader × Cursor :=
  match c.rest.head? with
  | some '+' => ({ h with chomping := .keep }, c.next)
  | some '-' => ({ h with chomping := .strip }, c.next)
  | _ => (h, c)

def readIndentation (h : BlockHeader) (c : Cursor) : Option (BlockHeader × Cursor) :=
  match c.rest.head? with
  | some d =>
    if d = '0' then none
    else if d.isDigit then some ({ h with indentation := some (d.toNat - '0'.toNat) }, c.next)
    else some (h, c)
  | none => some (h, c)

def read (c : Cursor) : Option (BlockHeader × Cursor) := do
  let (h, c) ←
    if c.rest.head? = some '+' ∨ c.rest.head? = some '-' then
      let (h, c) := readChomping {} c
      readIndentation h c
    else do
      let (h, after) ← readIndentation {} c
      pure (if h.indentation.isSome then readChomping h after else (h, after))
  let c := c.skipBlanks
  let c := if c.rest.head? = some '#' then c.skipLine else c
  guard (c.rest.head?.all isBreak)
  return (h, c.next)

end BlockHeader

structure BlockText where
  text : List Char := []
  lastBreak : Option Char := none
  emptyLines : List Char := []
  spaced : Bool := false

namespace BlockText

/-- The text in front of the next line. Folding turns a break between lines that do not begin with
a blank into a blank, or drops it before empty lines. -/
def join (b : BlockText) (isFolded spaced : Bool) : List Char :=
  let between :=
    if isFolded && b.lastBreak = some '\n' && !b.spaced && !spaced then
      if b.emptyLines.isEmpty then [' '] else []
    else b.lastBreak.toList
  b.emptyLines ++ between ++ b.text

def chomp (b : BlockText) : Chomping → List Char
  | .strip => b.text
  | .clip => b.lastBreak.toList ++ b.text
  | .keep => b.emptyLines ++ b.lastBreak.toList ++ b.text

end BlockText

namespace Cursor

/-- Reads empty lines, whose breaks go before `breaks`, and the indentation of the line after them,
up to `indent` columns if that is given. Also gives the greatest column reached. -/
def indentationFrom (indent : Option Nat) :
    Nat → Nat → List Char → Cursor → Option (Nat × List Char × Cursor)
  | 0, _, _, _ => none
  | fuel + 1, deepest, breaks, c =>
    let isOpen := indent.all (c.column < ·)
    match c.rest with
    | [] => some (max deepest c.column, breaks, c)
    | ch :: _ =>
      if isOpen && ch = ' ' then indentationFrom indent fuel deepest breaks c.next
      else if isOpen && ch = '\t' then none
      else if isBreak ch then
        indentationFrom indent fuel (max deepest c.column) (ch :: breaks) c.next
      else some (max deepest c.column, breaks, c)

def readIndentation (indent : Option Nat) (c : Cursor) : Option (Nat × List Char × Cursor) :=
  indentationFrom indent (c.rest.length + 1) 0 [] c

def blockFrom (isFolded : Bool) (indent : Nat) :
    Nat → BlockText → Cursor → Option (BlockText × Cursor)
  | 0, _, _ => none
  | fuel + 1, b, c =>
    if c.column = indent && !c.atEnd then do
      let spaced := c.rest.head?.any isBlank
      let (line, c) := c.span (!isBreak ·)
      let text := line.reverse ++ b.join isFolded spaced
      let lastBreak := c.rest.head?
      let (_, emptyLines, c) ← c.next.readIndentation (some indent)
      blockFrom isFolded indent fuel { text, lastBreak, emptyLines, spaced } c
    else some (b, c)

/-- The text of a block scalar, after the mark that opens it. `least` is the least indentation that
its lines can have where the header gives none, and one more than that of the surroundings. -/
def readBlock (isFolded : Bool) (least : Nat) (c : Cursor) : Option (String × Cursor) := do
  let (header, c) ← BlockHeader.read c
  let given := header.indentation.map (least - 1 + ·)
  let (deepest, emptyLines, c) ← c.readIndentation given
  let indent := given.getD (max deepest (max least 1))
  let (b, c) ← blockFrom isFolded indent (c.rest.length + 1) { emptyLines } c
  return (String.ofList (b.chomp header.chomping).reverse, c)

end Cursor

end TaintFlow.Yaml
