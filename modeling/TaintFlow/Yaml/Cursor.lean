import TaintFlow.Yaml.Charset

namespace TaintFlow.Yaml

structure Cursor where
  rest : List Char
  line : Nat := 0
  column : Nat := 0

namespace Cursor

variable (c : Cursor)

def atEnd : Bool :=
  c.rest.isEmpty

def next : Cursor :=
  match c.rest with
  | [] => c
  | ch :: rest =>
    if isBreak ch then { rest, line := c.line + 1, column := 0 }
    else { c with rest, column := c.column + 1 }

def skip : Nat → Cursor → Cursor
  | 0, c => c
  | n + 1, c => skip n c.next

def span (p : Char → Bool) : List Char × Cursor :=
  let front := c.rest.takeWhile p
  (front, c.skip front.length)

def dropWhile (p : Char → Bool) : Cursor :=
  (c.span p).2

def skipBlanks : Cursor :=
  c.dropWhile isBlank

def skipLine : Cursor :=
  c.dropWhile (!isBreak ·)

def skipText? (text : String) : Option Cursor :=
  if text.toList.isPrefixOf c.rest then some (c.skip text.length) else none

/-- Whether a line begins here with `mark`, which stands alone. -/
def atMark (mark : String) : Bool :=
  c.column = 0 && match c.skipText? mark with
    | some c => atGap c.rest
    | none => false

def atDocumentMark : Bool :=
  c.atMark "---" || c.atMark "..."

end Cursor

end TaintFlow.Yaml
