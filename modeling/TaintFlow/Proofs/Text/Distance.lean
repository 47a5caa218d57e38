import TaintFlow.Taint.Registry
import Mathlib.Algebra.Ring.Nat
import Mathlib.Data.List.Induction
import Mathlib.Order.Bounds.Basic

namespace TaintFlow

namespace Text

inductive Edit : List Char → List Char → Prop
  | insert (front back : List Char) (d : Char) : Edit (front ++ back) (front ++ d :: back)
  | delete (front back : List Char) (c : Char) : Edit (front ++ c :: back) (front ++ back)
  | substitute (front back : List Char) (c d : Char) :
      Edit (front ++ c :: back) (front ++ d :: back)

inductive Edits : Nat → List Char → List Char → Prop
  | nil (cs : List Char) : Edits 0 cs cs
  | cons {n : Nat} {as bs cs : List Char} : Edit as bs → Edits n bs cs → Edits (n + 1) as cs

/-- What becomes of one character where two texts are written one above the other. -/
inductive Move where
  | keep (c : Char)
  | insert (d : Char)
  | delete (c : Char)
  | substitute (c d : Char)

namespace Move

def source : Move → List Char
  | keep c | delete c | substitute c _ => [c]
  | insert _ => []

def target : Move → List Char
  | keep d | insert d | substitute _ d => [d]
  | delete _ => []

def cost : Move → Nat
  | keep _ => 0
  | insert _ | delete _ | substitute _ _ => 1

end Move

/-- The texts can be written one above the other by moves of the given cost. -/
def Aligns (n : Nat) (as bs : List Char) : Prop :=
  ∃ moves : List Move, moves.flatMap Move.source = as ∧ moves.flatMap Move.target = bs ∧
    (moves.map Move.cost).sum = n

variable {n m : Nat} {as bs cs : List Char} {c d : Char}

theorem Edit.append_left (front : List Char) (h : Edit as bs) :
    Edit (front ++ as) (front ++ bs) := by
  cases h with
  | insert before back d =>
    rw [← List.append_assoc, ← List.append_assoc]
    exact .insert _ _ d
  | delete before back c =>
    rw [← List.append_assoc, ← List.append_assoc]
    exact .delete _ _ c
  | substitute before back c d =>
    rw [← List.append_assoc, ← List.append_assoc]
    exact .substitute _ _ c d

theorem Edits.append_left (front : List Char) (h : Edits n as bs) :
    Edits n (front ++ as) (front ++ bs) := by
  induction h with
  | nil cs => exact .nil _
  | cons he _ ih => exact .cons (he.append_left front) ih

theorem Aligns.edits (h : Aligns n as bs) : Edits n as bs := by
  obtain ⟨moves, rfl, rfl, rfl⟩ := h
  induction moves with
  | nil => exact .nil _
  | cons x moves ih =>
    have hrest := ih.append_left x.target
    rw [List.map_cons, List.sum_cons, Nat.add_comm]
    cases x with
    | keep c => exact hrest
    | insert d => exact .cons (.insert [] _ d) hrest
    | delete c => exact .cons (.delete [] _ c) hrest
    | substitute c d => exact .cons (.substitute [] _ c d) hrest

theorem Aligns.append {as' bs' : List Char} (h : Aligns n as bs) (h' : Aligns m as' bs') :
    Aligns (n + m) (as ++ as') (bs ++ bs') := by
  obtain ⟨moves, rfl, rfl, rfl⟩ := h
  obtain ⟨moves', rfl, rfl, rfl⟩ := h'
  exact ⟨moves ++ moves', by simp, by simp, by simp⟩

theorem aligns_move (x : Move) : Aligns x.cost x.source x.target :=
  ⟨[x], by simp, by simp, by simp⟩

theorem aligns_insertAll (cs : List Char) : Aligns cs.length [] cs := by
  induction cs with
  | nil => exact ⟨[], rfl, rfl, rfl⟩
  | cons c cs ih =>
    rw [List.length_cons, Nat.add_comm]
    exact (aligns_move (.insert c)).append ih

theorem aligns_deleteAll (cs : List Char) : Aligns cs.length cs [] := by
  induction cs with
  | nil => exact ⟨[], rfl, rfl, rfl⟩
  | cons c cs ih =>
    rw [List.length_cons, Nat.add_comm]
    exact (aligns_move (.delete c)).append ih

theorem aligns_self (cs : List Char) : Aligns 0 cs cs := by
  induction cs with
  | nil => exact ⟨[], rfl, rfl, rfl⟩
  | cons c cs ih => exact (aligns_move (.keep c)).append ih

theorem exists_aligns_single (c : Char) (cs : List Char) :
    ∃ k ≤ max 1 cs.length, Aligns k [c] cs := by
  cases cs with
  | nil => exact ⟨1, by simp, aligns_move (.delete c)⟩
  | cons d cs => exact ⟨1 + cs.length, by simp; omega,
      (aligns_move (.substitute c d)).append (aligns_insertAll cs)⟩

theorem exists_split {moves : List Move} (h : moves.flatMap Move.source = as ++ bs) :
    ∃ before after, moves = before ++ after ∧ before.flatMap Move.source = as ∧
      after.flatMap Move.source = bs := by
  induction moves generalizing as with
  | nil =>
    obtain ⟨rfl, rfl⟩ := List.append_eq_nil_iff.mp h.symm
    exact ⟨[], [], rfl, rfl, rfl⟩
  | cons x moves ih =>
    cases as with
    | nil => exact ⟨[], x :: moves, rfl, rfl, h⟩
    | cons a as =>
      rw [List.flatMap_cons] at h
      cases x with
      | insert d =>
        obtain ⟨before, after, rfl, hbefore, hafter⟩ := ih h
        exact ⟨.insert d :: before, after, rfl, hbefore, hafter⟩
      | keep c | delete c | substitute c d =>
        obtain ⟨rfl, hrest⟩ := List.cons.inj h
        obtain ⟨before, after, rfl, rfl, hafter⟩ := ih hrest
        exact ⟨_ :: before, after, rfl, rfl, hafter⟩

theorem Aligns.split (h : Aligns n (as ++ bs) cs) : ∃ i j cs₁ cs₂,
    n = i + j ∧ cs = cs₁ ++ cs₂ ∧ Aligns i as cs₁ ∧ Aligns j bs cs₂ := by
  obtain ⟨moves, hsource, rfl, rfl⟩ := h
  obtain ⟨before, after, rfl, hbefore, hafter⟩ := exists_split hsource
  exact ⟨_, _, _, _, by simp, by simp, ⟨before, hbefore, rfl, rfl⟩, ⟨after, hafter, rfl, rfl⟩⟩

theorem Aligns.length_le (h : Aligns n as bs) :
    as.length ≤ bs.length + n ∧ bs.length ≤ as.length + n := by
  obtain ⟨moves, rfl, rfl, rfl⟩ := h
  induction moves with
  | nil => simp
  | cons x moves ih =>
    have hx : x.source.length ≤ x.target.length + x.cost ∧
        x.target.length ≤ x.source.length + x.cost := by
      cases x <;> simp [Move.source, Move.target, Move.cost]
    simp only [List.flatMap_cons, List.length_append, List.map_cons, List.sum_cons]
    omega

/-- An edit more costs at most one more. -/
theorem Edit.exists_aligns (h : Edit as bs) (hn : Aligns n bs cs) :
    ∃ m ≤ n + 1, Aligns m as cs := by
  cases h with
  | delete front back c =>
    obtain ⟨i, j, cs₁, cs₂, rfl, rfl, hfront, hback⟩ := hn.split
    refine ⟨i + (1 + j), by omega, ?_⟩
    exact hfront.append ((aligns_move (.delete c)).append hback)
  | insert front back d =>
    obtain ⟨i, j, cs₁, cs₂, rfl, rfl, hfront, hrest⟩ := hn.split
    have hparts : Aligns j ([d] ++ back) cs₂ := hrest
    obtain ⟨k, l, cs₃, cs₄, rfl, rfl, hsingle, hback⟩ := hparts.split
    have hlength := hsingle.length_le.2
    rw [List.length_singleton] at hlength
    refine ⟨i + (cs₃.length + l), by omega, ?_⟩
    exact hfront.append ((aligns_insertAll cs₃).append hback)
  | substitute front back c d =>
    obtain ⟨i, j, cs₁, cs₂, rfl, rfl, hfront, hrest⟩ := hn.split
    have hparts : Aligns j ([d] ++ back) cs₂ := hrest
    obtain ⟨k, l, cs₃, cs₄, rfl, rfl, hsingle, hback⟩ := hparts.split
    have hlength := hsingle.length_le.2
    rw [List.length_singleton] at hlength
    obtain ⟨k', hk', hother⟩ := exists_aligns_single c cs₃
    refine ⟨i + (k' + l), by omega, ?_⟩
    exact hfront.append (hother.append hback)

theorem Edits.exists_aligns (h : Edits n as bs) : ∃ m ≤ n, Aligns m as bs := by
  induction h with
  | nil cs => exact ⟨0, Nat.le_refl 0, aligns_self cs⟩
  | cons he _ ih =>
    obtain ⟨m, hm, ha⟩ := ih
    obtain ⟨k, hk, ha⟩ := he.exists_aligns ha
    exact ⟨k, by omega, ha⟩

theorem isLeast_edits (h : IsLeast {m | Aligns m as bs} n) : IsLeast {m | Edits m as bs} n := by
  refine ⟨Aligns.edits h.1, ?_⟩
  intro m hm
  obtain ⟨k, hk, ha⟩ := Edits.exists_aligns hm
  exact (h.2 ha).trans hk

abbrev Least (as bs : List Char) (n : Nat) : Prop := IsLeast {m | Aligns m as bs} n

theorem least_nil_left (cs : List Char) : Least [] cs cs.length := by
  refine ⟨aligns_insertAll cs, ?_⟩
  intro n hn
  simpa using (Aligns.length_le hn).2

theorem least_nil_right (cs : List Char) : Least cs [] cs.length := by
  refine ⟨aligns_deleteAll cs, ?_⟩
  intro n hn
  simpa using (Aligns.length_le hn).1

theorem Aligns.last (h : Aligns n (as ++ [c]) (bs ++ [d])) :
    (∃ m, n = m + 1 ∧ Aligns m as (bs ++ [d])) ∨ (∃ m, n = m + 1 ∧ Aligns m (as ++ [c]) bs) ∨
      ∃ m, m + (if c = d then 0 else 1) ≤ n ∧ Aligns m as bs := by
  obtain ⟨moves, hsource, htarget, rfl⟩ := h
  rcases List.eq_nil_or_concat moves with rfl | ⟨moves, x, rfl⟩
  · exact absurd hsource.symm (by simp)
  · simp only [List.concat_eq_append, List.flatMap_append, List.flatMap_singleton, List.map_append,
      List.map_singleton, List.sum_append, List.sum_singleton] at hsource htarget ⊢
    cases x with
    | keep e =>
      obtain ⟨rfl, hc⟩ := List.append_inj' hsource rfl
      obtain ⟨rfl, hd⟩ := List.append_inj' htarget rfl
      cases hc
      cases hd
      exact .inr (.inr ⟨_, by simp, moves, rfl, rfl, rfl⟩)
    | insert e =>
      obtain ⟨rfl, -⟩ := List.append_inj' htarget rfl
      exact .inr (.inl ⟨_, rfl, moves, by simpa [Move.source] using hsource, rfl, rfl⟩)
    | delete e =>
      obtain ⟨rfl, -⟩ := List.append_inj' hsource rfl
      exact .inl ⟨_, rfl, moves, rfl, by simpa [Move.target] using htarget, rfl⟩
    | substitute e f =>
      obtain ⟨rfl, -⟩ := List.append_inj' hsource rfl
      obtain ⟨rfl, -⟩ := List.append_inj' htarget rfl
      refine .inr (.inr ⟨_, ?_, moves, rfl, rfl, rfl⟩)
      simp only [Move.cost]
      split <;> omega

theorem least_concat {up left diagonal : Nat} (hup : Least as (bs ++ [d]) up)
    (hleft : Least (as ++ [c]) bs left) (hdiagonal : Least as bs diagonal) :
    Least (as ++ [c]) (bs ++ [d])
      (min (min (up + 1) (left + 1)) (diagonal + if c = d then 0 else 1)) := by
  have hdelete : Aligns (up + 1) (as ++ [c]) (bs ++ [d]) := by
    have h := Aligns.append hup.1 (aligns_move (.delete c))
    rwa [Move.target, List.append_nil] at h
  have hinsert : Aligns (left + 1) (as ++ [c]) (bs ++ [d]) := by
    have h := Aligns.append hleft.1 (aligns_move (.insert d))
    rwa [Move.source, List.append_nil] at h
  have hmatch : Aligns (diagonal + if c = d then 0 else 1) (as ++ [c]) (bs ++ [d]) := by
    by_cases hc : c = d
    · subst hc
      rw [if_pos rfl]
      exact Aligns.append hdiagonal.1 (aligns_move (.keep c))
    · rw [if_neg hc]
      exact Aligns.append hdiagonal.1 (aligns_move (.substitute c d))
  constructor
  · generalize (if c = d then 0 else 1) = cost at hmatch ⊢
    rcases Nat.le_total (min (up + 1) (left + 1)) (diagonal + cost) with h | h
    · rw [Nat.min_eq_left h]
      rcases Nat.le_total (up + 1) (left + 1) with h | h
      · rw [Nat.min_eq_left h]
        exact hdelete
      · rw [Nat.min_eq_right h]
        exact hinsert
    · rw [Nat.min_eq_right h]
      exact hmatch
  · intro n hn
    rcases Aligns.last hn with ⟨m, rfl, h⟩ | ⟨m, rfl, h⟩ | ⟨m, hm, h⟩
    · have := hup.2 h
      omega
    · have := hleft.2 h
      omega
    · have := hdiagonal.2 h
      omega

/-- A row from some entry on: `row` has the costs for the texts that begin with `done` and go on
with the characters of `rest`, one by one. -/
inductive Row (source : List Char) : List Char → List Char → List Nat → Prop
  | nil (done : List Char) : Row source done [] []
  | cons {done rest : List Char} {d : Char} {cell : Nat} {row : List Nat} :
      Least source (done ++ [d]) cell → Row source (done ++ [d]) rest row →
        Row source done (d :: rest) (cell :: row)

theorem row_range (done rest : List Char) :
    Row [] done rest (List.range' (done.length + 1) rest.length) := by
  induction rest generalizing done with
  | nil => exact .nil done
  | cons d rest ih =>
    have hd := least_nil_left (done ++ [d])
    have hrest := ih (done ++ [d])
    rw [List.length_append, List.length_singleton] at hd hrest
    exact .cons hd hrest

theorem row_distanceCells {source done rest : List Char} {above : List Nat} {diagonal left : Nat}
    (hdiagonal : Least source done diagonal) (hleft : Least (source ++ [c]) done left)
    (habove : Row source done rest above) :
    Row (source ++ [c]) done rest (distanceCells c rest above diagonal left) := by
  induction habove generalizing diagonal left with
  | nil done => exact .nil done
  | cons hup _ ih =>
    have hcell := least_concat hup hleft hdiagonal
    exact .cons hcell (ih hup hcell)

def FullRow (source target : List Char) (row : List Nat) : Prop :=
  ∃ corner above, row = corner :: above ∧ Least source [] corner ∧ Row source [] target above

theorem fullRow_range (target : List Char) :
    FullRow [] target (List.range (target.length + 1)) := by
  refine ⟨0, List.range' 1 target.length, ?_, least_nil_left [], row_range [] target⟩
  rw [List.range_eq_range', List.range'_succ]

theorem FullRow.next {source target : List Char} {row : List Nat} (h : FullRow source target row) :
    FullRow (source ++ [c]) target (nextRow c target row) := by
  obtain ⟨corner, above, rfl, hcorner, habove⟩ := h
  have hleft : Least (source ++ [c]) [] (corner + 1) := by
    rw [hcorner.unique (least_nil_right source)]
    simpa using least_nil_right (source ++ [c])
  exact ⟨_, _, rfl, hleft, row_distanceCells hcorner hleft habove⟩

theorem fullRow_distanceRow (source target : List Char) :
    FullRow source target (distanceRow source target) := by
  induction source using List.reverseRecOn with
  | nil => exact fullRow_range target
  | append_singleton source c ih =>
    rw [distanceRow, List.foldl_append]
    exact ih.next

theorem Row.least_getLastD {source done rest : List Char} {row : List Nat} {last : Nat}
    (h : Row source done rest row) (hlast : Least source done last) :
    Least source (done ++ rest) ((last :: row).getLastD 0) := by
  induction h generalizing last with
  | nil done => simpa using hlast
  | cons hcell _ ih =>
    have hrest := ih hcell
    rw [List.getLastD_cons] at hrest ⊢
    rw [List.getLastD_cons]
    simpa using hrest

theorem isLeast_distance (source target : String) :
    IsLeast {n | Edits n source.toList target.toList} (distance source target) := by
  obtain ⟨corner, above, hrow, hcorner, habove⟩ :=
    fullRow_distanceRow source.toList target.toList
  rw [distance, hrow]
  exact isLeast_edits (habove.least_getLastD hcorner)

example : distance "kitten" "sitting" = 3 := by decide

def FirstNearest (name : String) (candidates : List String) (closest : String) : Prop :=
  ∃ n, IsLeast {m | Edits m name.toList closest.toList} n ∧
    ∃ before after, candidates = before ++ closest :: after ∧
      (∀ x ∈ before, ∀ m, Edits m name.toList x.toList → n < m) ∧
      ∀ x ∈ after, ∀ m, Edits m name.toList x.toList → n ≤ m

variable {name closest x : String} {candidates : List String}

theorem distance_le (h : Edits m name.toList x.toList) : distance name x ≤ m :=
  (isLeast_distance name x).2 h

theorem firstNearest_singleton (name x : String) : FirstNearest name [x] x :=
  ⟨_, isLeast_distance name x, [], [], rfl, by simp, by simp⟩

theorem FirstNearest.concat (h : FirstNearest name candidates closest) (x : String) :
    FirstNearest name (candidates ++ [x])
      (if distance name x < distance name closest then x else closest) := by
  obtain ⟨n, hn, before, after, rfl, hbefore, hafter⟩ := h
  obtain rfl := hn.unique (isLeast_distance name closest)
  by_cases hx : distance name x < distance name closest
  · rw [if_pos hx]
    refine ⟨_, isLeast_distance name x, before ++ closest :: after, [], rfl, ?_, by simp⟩
    intro y hy m hm
    have hclosest : distance name closest ≤ m := by
      rcases List.mem_append.mp hy with hy | hy
      · exact (hbefore y hy m hm).le
      · rcases List.mem_cons.mp hy with rfl | hy
        · exact distance_le hm
        · exact hafter y hy m hm
    omega
  · rw [if_neg hx]
    refine ⟨_, hn, before, after ++ [x], by simp, hbefore, ?_⟩
    intro y hy m hm
    rcases List.mem_append.mp hy with hy | hy
    · exact hafter y hy m hm
    · rw [List.mem_singleton.mp hy] at hm
      have := distance_le hm
      omega

theorem nearest?_concat (name x : String) (candidates : List String) :
    nearest? name (candidates ++ [x]) = match nearest? name candidates with
      | none => some x
      | some b => if distance name x < distance name b then some x else some b := by
  rw [nearest?, nearest?, List.foldl_append]
  rfl

theorem exists_nearest? (name : String) (h : candidates ≠ []) :
    ∃ closest, nearest? name candidates = some closest ∧ FirstNearest name candidates closest := by
  induction candidates using List.reverseRecOn with
  | nil => exact absurd rfl h
  | append_singleton candidates x ih =>
    rw [nearest?_concat]
    by_cases hc : candidates = []
    · subst hc
      exact ⟨x, rfl, firstNearest_singleton name x⟩
    · obtain ⟨closest, hclosest, hfirst⟩ := ih hc
      refine ⟨_, ?_, hfirst.concat x⟩
      rw [hclosest]
      dsimp only
      split <;> rfl

end Text

namespace Registry

variable {reg : Registry} {names : List String} {name : String}

theorem select_of_unknown (h : names.find? (fun n ↦ (reg.find? n).isNone) = some name) :
    reg.select names = .error (.unknownRuleAmong name reg.names) := by
  induction names with
  | nil => cases h
  | cons n names ih =>
    rw [select, List.mapM_cons]
    rw [List.find?_cons] at h
    cases hn : reg.find? n with
    | none =>
      rw [hn] at h
      cases h
      rfl
    | some r =>
      rw [hn] at h
      have hrest := ih h
      rw [select] at hrest
      simp only [hrest]
      rfl

/-- The distance is the least number of edits. Of the names asked for, the first that is unknown is
reported, and the first of the registered names nearest to it is suggested. -/
theorem select_suggests :
    (∀ source target, IsLeast {n | Text.Edits n source.toList target.toList}
      (Text.distance source target)) ∧
    ∀ (reg : Registry) (names : List String) (name : String), reg.rules ≠ [] →
      names.find? (fun n ↦ (reg.find? n).isNone) = some name →
        ∃ closest, Text.FirstNearest name reg.names closest ∧
          reg.select names = .error (.unknownRule name s!"Did you mean '{closest}'?") := by
  refine ⟨Text.isLeast_distance, ?_⟩
  intro reg names name hrules hunknown
  have hnames : reg.names ≠ [] := by simpa [Registry.names] using hrules
  obtain ⟨closest, hclosest, hfirst⟩ := Text.exists_nearest? name hnames
  refine ⟨closest, hfirst, ?_⟩
  rw [select_of_unknown hunknown, SettingsError.unknownRuleAmong, hclosest]

def loggingRegistry : Registry where
  rules := ["cleartext-transmission", "cleartext-logging"].map fun name ↦
    { name, isSource := fun _ _ ↦ false, sinkKind? := fun _ _ ↦ none }

/-- The second of the names is misspelt. -/
theorem select_suggests_logging :
    loggingRegistry.rules ≠ [] ∧
      ["cleartext-logging", "cleartext-loging"].find?
        (fun n ↦ (loggingRegistry.find? n).isNone) = some "cleartext-loging" ∧
      ∃ closest, Text.FirstNearest "cleartext-loging" loggingRegistry.names closest ∧
        loggingRegistry.select ["cleartext-logging", "cleartext-loging"] =
          .error (.unknownRule "cleartext-loging" s!"Did you mean '{closest}'?") := by
  have hrules : loggingRegistry.rules ≠ [] := by simp [loggingRegistry]
  have hunknown : ["cleartext-logging", "cleartext-loging"].find?
      (fun n ↦ (loggingRegistry.find? n).isNone) = some "cleartext-loging" := by decide
  exact ⟨hrules, hunknown, select_suggests.2 _ _ _ hrules hunknown⟩

end Registry

end TaintFlow
