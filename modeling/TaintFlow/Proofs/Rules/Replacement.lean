import Mathlib.Data.List.Basic
import TaintFlow.Pattern.Basic
import TaintFlow.Rules.NameTables

namespace TaintFlow

inductive Anchor where
  | textStart
  | textEnd
  | lastLineEnd
  | lineStart
  | lineEnd
deriving DecidableEq, Repr

inductive Regex where
  | empty
  | char (c : Char)
  | any
  | anchor (a : Anchor)
  | concat (r s : Regex)
  | star (r : Regex)
  | plus (r : Regex)
  | group (r : Regex)
deriving DecidableEq, Repr

section Matching

variable (isLineEnd : CharSet) (text : List Char)

def Anchor.holds (i : Nat) : Anchor → Bool
  | textStart => i = 0
  | textEnd => i = text.length
  | lastLineEnd => i = text.length || (i + 1 = text.length && text[i]?.any isLineEnd)
  | lineStart => i = 0 || text[i - 1]?.any isLineEnd
  | lineEnd => i = text.length || text[i]?.any isLineEnd

namespace Regex

/-- Where rounds of `step` from `i` may end, those after more rounds first. A round that takes
nothing is not begun. -/
def rounds (step : Nat → List Nat) : Nat → Nat → List Nat
  | 0, i => [i]
  | fuel + 1, i => ((step i).filter (i < ·)).flatMap (rounds step fuel) ++ [i]

/-- Where a match that begins at `i` may end, in the order in which they are tried. -/
def ends : Regex → Nat → List Nat
  | empty, i => [i]
  | char c, i => if text[i]? = some c then [i + 1] else []
  | any, i => if text[i]?.any (!isLineEnd ·) then [i + 1] else []
  | anchor a, i => if a.holds isLineEnd text i then [i] else []
  | concat r s, i => (ends r i).flatMap (ends s)
  | star r, i => rounds (ends r) text.length i
  | plus r, i => (ends r i).flatMap (rounds (ends r) text.length)
  | group r, i => ends r i

def matchesAt (r : Regex) : List Nat → Nat → List (Nat × Nat)
  | [], _ => []
  | i :: later, free =>
    if i < free then matchesAt r later free
    else match (r.ends isLineEnd text i).head? with
      | some j => (i, j) :: matchesAt r later j
      | none => matchesAt r later free

def replaced (r : Regex) (kind : ReplaceKind) : List (Nat × Nat) :=
  let found := r.matchesAt isLineEnd text (List.range (text.length + 1)) 0
  match kind with
  | .single => found.take 1
  | .global => found

/-- Every character is inside a replaced match. -/
def Rewrites (r : Regex) (kind : ReplaceKind) : Prop :=
  ∀ k < text.length, ∃ m ∈ r.replaced isLineEnd text kind, m.1 ≤ k ∧ k < m.2

def Takes (r : Regex) (i j : Nat) : Prop :=
  (r.ends isLineEnd text i).head? = some j

end Regex

end Matching

namespace Regex

def ofItems (items : List Regex) : Regex :=
  items.foldr concat empty

def isSpecial (c : Char) : Bool :=
  "\\^$.|?*+()[]\x7b\x7d".toList.contains c

def isRepeatable : Regex → Bool
  | char _ | any | group _ => true
  | _ => false

/-- Reads on after the items `done`, the last of them first, with those before each open group.
There is no choice, class, count or flag, and no repetition of a repetition. -/
def readFrom : List Char → List Regex → List (List Regex) → Option Regex
  | [], done, [] => some (ofItems done.reverse)
  | [], _, _ :: _ => none
  | '\\' :: 'A' :: cs, done, outer => readFrom cs (anchor .textStart :: done) outer
  | '\\' :: 'z' :: cs, done, outer => readFrom cs (anchor .textEnd :: done) outer
  | '\\' :: 'Z' :: cs, done, outer => readFrom cs (anchor .lastLineEnd :: done) outer
  | '^' :: cs, done, outer => readFrom cs (anchor .lineStart :: done) outer
  | '$' :: cs, done, outer => readFrom cs (anchor .lineEnd :: done) outer
  | '.' :: cs, done, outer => readFrom cs (any :: done) outer
  | '*' :: cs, r :: done, outer =>
    if r.isRepeatable then readFrom cs (star r :: done) outer else none
  | '+' :: cs, r :: done, outer =>
    if r.isRepeatable then readFrom cs (plus r :: done) outer else none
  | '(' :: '?' :: ':' :: cs, done, outer => readFrom cs [] (done :: outer)
  | '(' :: cs, done, outer => readFrom cs [] (done :: outer)
  | ')' :: cs, done, before :: outer =>
    readFrom cs (group (ofItems done.reverse) :: before) outer
  | c :: cs, done, outer => if isSpecial c then none else readFrom cs (char c :: done) outer

def read? (pattern : String) : Option Regex :=
  readFrom pattern.toList [] []

example : read? "\\A(.+) x$" =
    some (ofItems [anchor .textStart, group (ofItems [plus any]), char ' ', char 'x',
      anchor .lineEnd]) := by
  decide

variable {isLineEnd : CharSet} {text : List Char} {r s : Regex} {i j k : Nat}

section Ends

theorem mem_rounds {step : Nat → List Nat} {n : Nat}
    (hstep : ∀ i ≤ n, ∀ j ∈ step i, j ≤ n) (fuel : Nat) (hi : i ≤ n)
    (hj : j ∈ rounds step fuel i) : i ≤ j ∧ j ≤ n := by
  induction fuel generalizing i with
  | zero =>
    obtain rfl := List.mem_singleton.mp hj
    exact ⟨Nat.le_refl _, hi⟩
  | succ fuel ih =>
    rw [rounds, List.mem_append, List.mem_flatMap, List.mem_singleton] at hj
    obtain ⟨k, hk, hj⟩ | rfl := hj
    · obtain ⟨hk, hlt⟩ := List.mem_filter.mp hk
      obtain ⟨hkj, hjn⟩ := ih (hstep i hi k hk) hj
      have := of_decide_eq_true hlt
      exact ⟨by omega, hjn⟩
    · exact ⟨Nat.le_refl _, hi⟩

theorem rounds_eq {step : Nat → List Nat} {n : Nat}
    (hstep : ∀ i ≤ n, ∀ j ∈ step i, j ≤ n) {fuel fuel' : Nat} (hi : i ≤ n)
    (hf : n - i ≤ fuel) (hf' : n - i ≤ fuel') : rounds step fuel i = rounds step fuel' i := by
  have done {i : Nat} (hi : i ≤ n) (hn : n - i = 0) (fuel : Nat) : rounds step fuel i = [i] := by
    cases fuel with
    | zero => rfl
    | succ fuel =>
      have hnone : (step i).filter (i < ·) = [] := by
        rw [List.filter_eq_nil_iff]
        intro j hj
        have := hstep i hi j hj
        rw [decide_eq_true_eq]
        omega
      rw [rounds, hnone, List.flatMap_nil, List.nil_append]
  induction fuel generalizing i fuel' with
  | zero => rw [done hi (by omega), done hi (by omega)]
  | succ fuel ih =>
    cases fuel' with
    | zero => rw [done hi (by omega), done hi (by omega)]
    | succ fuel' =>
      have hrest : ∀ j ∈ (step i).filter (i < ·), rounds step fuel j = rounds step fuel' j := by
        intro j hj
        obtain ⟨hj, hlt⟩ := List.mem_filter.mp hj
        have := of_decide_eq_true hlt
        exact ih (hstep i hi j hj) (by omega) (by omega)
      rw [rounds, rounds, List.flatMap_congr hrest]

theorem mem_ends (hi : i ≤ text.length) (hj : j ∈ r.ends isLineEnd text i) :
    i ≤ j ∧ j ≤ text.length := by
  induction r generalizing i j with
  | empty =>
    obtain rfl := List.mem_singleton.mp hj
    exact ⟨Nat.le_refl _, hi⟩
  | char c =>
    rw [ends] at hj
    split at hj
    · next hc =>
      obtain rfl := List.mem_singleton.mp hj
      obtain ⟨hlt, -⟩ := List.getElem?_eq_some_iff.mp hc
      omega
    · cases hj
  | any =>
    rw [ends] at hj
    split at hj
    · next hc =>
      obtain rfl := List.mem_singleton.mp hj
      obtain ⟨c, hc, -⟩ := (Option.any_eq_true _ _).mp hc
      obtain ⟨hlt, -⟩ := List.getElem?_eq_some_iff.mp hc
      omega
    · cases hj
  | anchor a =>
    rw [ends] at hj
    split at hj
    · obtain rfl := List.mem_singleton.mp hj
      exact ⟨Nat.le_refl _, hi⟩
    · cases hj
  | concat r s ihr ihs =>
    obtain ⟨k, hk, hj⟩ := List.mem_flatMap.mp hj
    obtain ⟨hik, hk⟩ := ihr hi hk
    obtain ⟨hkj, hj⟩ := ihs hk hj
    exact ⟨by omega, hj⟩
  | star r ih => exact mem_rounds (fun i hi j hj ↦ (ih hi hj).2) _ hi hj
  | plus r ih =>
    obtain ⟨k, hk, hj⟩ := List.mem_flatMap.mp hj
    obtain ⟨hik, hk⟩ := ih hi hk
    obtain ⟨hkj, hj⟩ := mem_rounds (fun i hi j hj ↦ (ih hi hj).2) _ hk hj
    exact ⟨by omega, hj⟩
  | group r ih => exact ih hi hj

theorem ends_star (hi : i ≤ text.length) :
    (star r).ends isLineEnd text i =
      ((r.ends isLineEnd text i).filter (i < ·)).flatMap ((star r).ends isLineEnd text) ++ [i] := by
  have hstep : ∀ i ≤ text.length, ∀ j ∈ r.ends isLineEnd text i, j ≤ text.length :=
    fun i hi j hj ↦ (mem_ends hi hj).2
  calc (star r).ends isLineEnd text i
      = rounds (r.ends isLineEnd text) (text.length + 1) i :=
        rounds_eq hstep hi (by omega) (by omega)
    _ = _ := rfl

end Ends

section Takes

theorem Takes.concat (hr : r.Takes isLineEnd text i j) (hs : s.Takes isLineEnd text j k) :
    (r.concat s).Takes isLineEnd text i k := by
  obtain ⟨js, hjs⟩ := List.head?_eq_some_iff.mp hr
  obtain ⟨ks, hks⟩ := List.head?_eq_some_iff.mp hs
  rw [Takes, ends, hjs, List.flatMap_cons, hks, List.cons_append, List.head?_cons]

theorem ends_ofItems_append (rs ss : List Regex) (i : Nat) :
    (ofItems (rs ++ ss)).ends isLineEnd text i =
      ((ofItems rs).ends isLineEnd text i).flatMap ((ofItems ss).ends isLineEnd text) := by
  induction rs generalizing i with
  | nil => rw [List.nil_append, ofItems, ofItems, List.foldr_nil, ends, List.flatMap_singleton]
  | cons r rs ih =>
    calc (ofItems (r :: rs ++ ss)).ends isLineEnd text i
        = (r.ends isLineEnd text i).flatMap ((ofItems (rs ++ ss)).ends isLineEnd text) := rfl
      _ = (r.ends isLineEnd text i).flatMap fun j ↦
            ((ofItems rs).ends isLineEnd text j).flatMap ((ofItems ss).ends isLineEnd text) :=
        List.flatMap_congr fun j _ ↦ ih j
      _ = _ := List.flatMap_assoc.symm

theorem takes_ofItems_append {rs ss : List Regex} (hr : (ofItems rs).Takes isLineEnd text i j)
    (hs : (ofItems ss).Takes isLineEnd text j k) :
    (ofItems (rs ++ ss)).Takes isLineEnd text i k :=
  (congrArg List.head? (ends_ofItems_append rs ss i)).trans (hr.concat hs)

theorem ends_ofItems_singleton (r : Regex) (i : Nat) :
    (ofItems [r]).ends isLineEnd text i = r.ends isLineEnd text i :=
  List.flatMap_singleton' _

theorem takes_ofItems_anchors {anchors : List Anchor}
    (h : ∀ a ∈ anchors, a.holds isLineEnd text i = true) :
    (ofItems (anchors.map anchor)).Takes isLineEnd text i i := by
  induction anchors with
  | nil => rfl
  | cons a anchors ih =>
    have ha : (anchor a).Takes isLineEnd text i i := by
      rw [Takes, ends, if_pos (h a List.mem_cons_self), List.head?_cons]
    exact ha.concat (ih fun b hb ↦ h b (List.mem_cons_of_mem a hb))

variable (hline : ∀ c ∈ text, isLineEnd c = false)
include hline

theorem ends_any (hi : i < text.length) : Regex.any.ends isLineEnd text i = [i + 1] := by
  have hc := hline text[i] (List.getElem_mem hi)
  rw [ends, List.getElem?_eq_getElem hi, Option.any_some, hc, Bool.not_false, if_pos rfl]

theorem takes_any (hi : i < text.length) : Regex.any.Takes isLineEnd text i (i + 1) := by
  rw [Takes, ends_any hline hi, List.head?_cons]

theorem takes_star_any (hi : i ≤ text.length) :
    (star any).Takes isLineEnd text i text.length := by
  obtain ⟨left, hleft⟩ := Nat.exists_eq_add_of_le hi
  induction left generalizing i with
  | zero =>
    have hnone : Regex.any.ends isLineEnd text i = [] := by
      rw [ends, List.getElem?_eq_none (by omega), Option.any_none, if_neg Bool.false_ne_true]
    rw [Takes, ends_star hi, hnone, List.filter_nil, List.flatMap_nil, List.nil_append,
      List.head?_cons, hleft, Nat.add_zero]
  | succ left ih =>
    have hfilter : [i + 1].filter (i < ·) = [i + 1] := by simp
    obtain ⟨js, hjs⟩ := List.head?_eq_some_iff.mp (ih (i := i + 1) (by omega) (by omega))
    rw [Takes, ends_star hi, ends_any hline (by omega), hfilter, List.flatMap_singleton, hjs,
      List.cons_append, List.head?_cons]

theorem takes_plus_any (hi : i < text.length) :
    (plus any).Takes isLineEnd text i text.length :=
  (takes_any hline hi).concat (takes_star_any hline hi)

end Takes

section Matches

theorem rewrites_of_takes_all (h : r.Takes isLineEnd text 0 text.length) (kind : ReplaceKind) :
    r.Rewrites isLineEnd text kind := by
  intro k hk
  have hfirst : ∃ later, r.matchesAt isLineEnd text (List.range (text.length + 1)) 0 =
      (0, text.length) :: later := by
    rw [List.range_succ_eq_map, matchesAt, if_neg (Nat.lt_irrefl 0), h]
    exact ⟨_, rfl⟩
  obtain ⟨later, hlater⟩ := hfirst
  refine ⟨(0, text.length), ?_, Nat.zero_le k, hk⟩
  cases kind <;> simp [replaced, hlater]

theorem mem_matchesAt_of_takes_one (h : ∀ i < text.length, r.Takes isLineEnd text i (i + 1))
    {n start free : Nat} (hfree : free ≤ start) (hend : start + n = text.length)
    (hk : start ≤ k ∧ k < text.length) :
    (k, k + 1) ∈ r.matchesAt isLineEnd text (List.range' start (n + 1)) free := by
  -- On the characters that are left: each is a match, and the next one begins where it ends.
  induction n generalizing start free with
  | zero => omega
  | succ n ih =>
    rw [List.range'_succ, matchesAt, if_neg (by omega), h start (by omega)]
    obtain rfl | hlt := Nat.eq_or_lt_of_le hk.1
    · exact List.mem_cons_self
    · exact List.mem_cons_of_mem _ (ih (Nat.le_refl _) (by omega) ⟨hlt, hk.2⟩)

theorem rewrites_of_takes_one (h : ∀ i < text.length, r.Takes isLineEnd text i (i + 1)) :
    r.Rewrites isLineEnd text .global := by
  intro k hk
  refine ⟨(k, k + 1), ?_, Nat.le_refl k, Nat.lt_succ_self k⟩
  rw [replaced, List.range_eq_range']
  exact mem_matchesAt_of_takes_one h (Nat.le_refl 0) (Nat.zero_add _) ⟨Nat.zero_le k, hk⟩

theorem ends_ofItems_eq_nil {c : Char} {items : List Regex} (hc : char c ∈ items)
    (htext : c ∉ text) (i : Nat) : (ofItems items).ends isLineEnd text i = [] := by
  induction items generalizing i with
  | nil => cases hc
  | cons r rs ih =>
    change (r.ends isLineEnd text i).flatMap ((ofItems rs).ends isLineEnd text) = []
    rw [List.flatMap_eq_nil_iff]
    obtain rfl | hc := List.mem_cons.mp hc
    · intro j hj
      rw [ends] at hj
      split at hj
      · next hget => exact absurd (List.mem_of_getElem? hget) htext
      · cases hj
    · exact fun j _ ↦ ih hc j

theorem replaced_eq_nil (h : ∀ i, r.ends isLineEnd text i = []) (kind : ReplaceKind) :
    r.replaced isLineEnd text kind = [] := by
  have hnone (places : List Nat) (free : Nat) : r.matchesAt isLineEnd text places free = [] := by
    induction places with
    | nil => rfl
    | cons i places ih => rw [matchesAt, h, List.head?_nil, ih, ite_self]
  cases kind <;> simp [replaced, hnone]

end Matches

section Reading

def Reads (cs : List Char) (items : List Regex) : Prop :=
  ∀ rest done outer, readFrom (cs ++ rest) done outer = readFrom rest (items.reverse ++ done) outer

theorem reads_nil : Reads [] [] :=
  fun _ _ _ ↦ rfl

theorem Reads.append {cs ds : List Char} {rs ss : List Regex} (hr : Reads cs rs)
    (hs : Reads ds ss) : Reads (cs ++ ds) (rs ++ ss) := by
  intro rest done outer
  rw [List.append_assoc, hr, hs, List.reverse_append, List.append_assoc]

theorem Reads.read_ofItems {cs : List Char} {rs : List Regex} (hr : Reads cs rs) :
    readFrom cs [] [] = some (ofItems rs) := by
  have := hr [] [] []
  rwa [List.append_nil, List.append_nil, readFrom, List.reverse_reverse] at this

theorem reads_of_not_isSpecial {cs : List Char} (h : ∀ c ∈ cs, isSpecial c = false) :
    Reads cs (cs.map char) := by
  induction cs with
  | nil => exact reads_nil
  | cons c cs ih =>
    have hc := h c List.mem_cons_self
    have hone : Reads [c] [char c] := by
      intro rest done outer
      change readFrom (c :: rest) done outer = readFrom rest (char c :: done) outer
      rw [readFrom, hc, if_neg Bool.false_ne_true]
      all_goals
        intros
        subst_vars
        cases hc
    exact hone.append (ih fun d hd ↦ h d (List.mem_cons_of_mem c hd))

theorem Reads.group {cs : List Char} {rs : List Regex} (hr : Reads cs rs)
    (hcs : cs.head? ≠ some '?') :
    Reads ('(' :: (cs ++ [')'])) [Regex.group (ofItems rs)] := by
  intro rest done outer
  rw [List.cons_append, List.append_assoc, readFrom, hr, List.append_nil, List.singleton_append,
    readFrom, List.reverse_reverse]
  · rfl
  · intro ds h
    cases cs with
    | nil => cases h
    | cons c cs => exact hcs (congrArg some (List.cons.inj h).1)

theorem Reads.groupOnly {cs : List Char} {rs : List Regex} (hr : Reads cs rs) :
    Reads ('(' :: '?' :: ':' :: (cs ++ [')'])) [Regex.group (ofItems rs)] := by
  intro rest done outer
  simp only [List.cons_append, List.append_assoc]
  rw [readFrom, hr, List.append_nil, List.nil_append, readFrom, List.reverse_reverse]
  rfl

end Reading

end Regex

end TaintFlow
