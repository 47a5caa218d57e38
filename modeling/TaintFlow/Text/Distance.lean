namespace TaintFlow.Text

/-- The rest of the row for one more character `c` of the first text. `diagonal` and `left` are
the entries up left and left of the next one, `above` the rest of the row before. -/
def distanceCells (c : Char) : List Char → List Nat → Nat → Nat → List Nat
  | d :: target, up :: above, diagonal, left =>
    let cell := min (min (up + 1) (left + 1)) (diagonal + if c = d then 0 else 1)
    cell :: distanceCells c target above up cell
  | _, _, _, _ => []

def nextRow (c : Char) (target : List Char) : List Nat → List Nat
  | [] => []
  | corner :: above => (corner + 1) :: distanceCells c target above corner (corner + 1)

/-- Entry `j` of the last row is the distance from `source` to the first `j` characters of
`target`. -/
def distanceRow (source target : List Char) : List Nat :=
  source.foldl (fun row c ↦ nextRow c target row) (List.range (target.length + 1))

def distance (source target : String) : Nat :=
  (distanceRow source.toList target.toList).getLastD 0

def nearest? (name : String) (candidates : List String) : Option String :=
  candidates.foldl (fun best candidate ↦
    match best with
    | none => some candidate
    | some b => if distance name candidate < distance name b then some candidate else some b)
    none

end TaintFlow.Text
