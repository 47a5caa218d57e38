import Std.Data.HashMap

namespace TaintFlow

structure Grouping (κ ν : Type) [BEq κ] [Hashable κ] where
  table : Std.HashMap κ (List ν)

namespace Grouping

variable {κ ν : Type} [BEq κ] [Hashable κ]

def ofList (pairs : List (κ × ν)) : Grouping κ ν where
  table := pairs.foldr (fun (k, v) table ↦ table.insert k (v :: table.getD k [])) ∅

def get (g : Grouping κ ν) (k : κ) : List ν :=
  g.table.getD k []

def keys (g : Grouping κ ν) (le : κ → κ → Bool) : List κ :=
  g.table.keys.mergeSort le

section

variable [LawfulBEq κ] {pairs : List (κ × ν)} {k : κ} {v : ν}

theorem get_ofList : (ofList pairs).get k = (pairs.filter (·.1 == k)).map (·.2) := by
  induction pairs with
  | nil => simp [ofList, get]
  | cons pair rest ih =>
    simp only [ofList, get, List.foldr_cons] at ih ⊢
    rw [Std.HashMap.getD_insert]
    by_cases hk : pair.1 = k
    · subst hk
      simp [ih]
    · simp [hk, ih]

theorem mem_get_ofList : v ∈ (ofList pairs).get k ↔ (k, v) ∈ pairs := by
  simp [get_ofList]

/-- A value is found under a key as often as the two are paired. -/
theorem count_get_ofList [BEq ν] [LawfulBEq ν] :
    ((ofList pairs).get k).count v = pairs.count (k, v) := by
  rw [get_ofList]
  induction pairs with
  | nil => rfl
  | cons pair rest ih =>
    obtain ⟨k', v'⟩ := pair
    rw [List.count_cons, ← ih]
    by_cases hk : k' = k
    · by_cases hv : v' = v <;> simp [hk, hv]
    · simp [hk]

end

end Grouping

end TaintFlow
