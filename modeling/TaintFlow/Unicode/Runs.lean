namespace TaintFlow.Unicode

def hexDigit? (c : Char) : Option Nat :=
  if '0' ≤ c ∧ c ≤ '9' then some (c.toNat - '0'.toNat)
  else if 'a' ≤ c ∧ c ≤ 'f' then some (c.toNat - 'a'.toNat + 10)
  else none

def hexValue (digits : List Char) : Nat :=
  digits.foldl (fun n c ↦ 16 * n + (hexDigit? c).getD 0) 0

structure Runs (α : Type) where
  starts : Array (Nat × α)

namespace Runs

variable {α : Type}

/-- Reads entries such as `41Lu`, divided by blanks: a point in hexadecimal, then the value
that begins there. Values start with an upper case letter. -/
def ofLines (lines : List String) (read : String → α) : Runs α where
  starts := ((lines.flatMap (·.splitOn " ")).map fun entry ↦
    let digits := entry.toList.takeWhile (hexDigit? · |>.isSome)
    (hexValue digits, read (String.ofList (entry.toList.drop digits.length)))).toArray

/-- How many of the entries from `lo` up to `hi` start at or before `point`, counted from the
first entry of the table. -/
def countUpTo (starts : Array (Nat × α)) (point lo hi : Nat) : Nat :=
  if lo < hi then
    let mid := (lo + hi) / 2
    match starts[mid]? with
    | some (start, _) =>
      if start ≤ point then countUpTo starts point (mid + 1) hi
      else countUpTo starts point lo mid
    | none => lo
  else lo
termination_by hi - lo

def find? (runs : Runs α) (point : Nat) : Option α :=
  let count := countUpTo runs.starts point 0 runs.starts.size
  if count = 0 then none else runs.starts[count - 1]?.map (·.2)

end Runs

abbrev Ranges := List (Nat × Nat)

def Ranges.mem (ranges : Ranges) (point : Nat) : Bool :=
  ranges.any fun (lo, hi) ↦ lo ≤ point && point ≤ hi

end TaintFlow.Unicode
