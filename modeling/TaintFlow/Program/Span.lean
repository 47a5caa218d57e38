namespace TaintFlow

structure Location where
  file : String
  line : UInt32
  column : UInt32
deriving DecidableEq, Repr

instance : ToString Location where
  toString l := s!"{l.file}:{l.line}:{l.column}"

structure Span where
  startLine : UInt32 := 0
  startCol : UInt32 := 0
  endLine : UInt32 := 0
  endCol : UInt32 := 0
deriving DecidableEq, Repr, Inhabited

namespace Span

def zero : Span := ⟨0, 0, 0, 0⟩

def onLine (line startCol endCol : UInt32) : Span :=
  ⟨line, startCol, line, endCol⟩

def containsLine (s : Span) (line : UInt32) : Bool :=
  s.startLine ≤ line && line ≤ s.endLine

/-- Containment goes by lines; columns play no part. -/
def contains (outer inner : Span) : Bool :=
  outer.startLine ≤ inner.startLine && inner.endLine ≤ outer.endLine

def location (s : Span) (file : String) : Location :=
  ⟨file, s.startLine, s.startCol⟩

end Span

end TaintFlow
