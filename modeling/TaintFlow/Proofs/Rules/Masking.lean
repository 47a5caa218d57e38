import Mathlib.Data.List.TakeWhile
import TaintFlow.Proofs.Rules.Replacement
import TaintFlow.Rules.Masking

namespace TaintFlow

namespace Masking

open Regex (Reads ofItems)

theorem eq_append_of_without? {front cs rest : List Char} (h : without? front cs = some rest) :
    cs = front ++ rest := by
  rw [without?, Option.ite_none_right_eq_some, Option.some.injEq] at h
  obtain ⟨hfront, rfl⟩ := h
  exact (List.prefix_iff_eq_append.mp (List.isPrefixOf_iff_prefix.mp hfront)).symm

theorem eq_append_of_withoutEnd? {back cs rest : List Char} (h : withoutEnd? back cs = some rest) :
    cs = rest ++ back := by
  obtain ⟨rest, hrest, rfl⟩ := Option.map_eq_some_iff.mp h
  rw [← List.reverse_inj, eq_append_of_without? hrest, List.reverse_append, List.reverse_reverse]

theorem exists_eq_trim (cs : List Char) :
    ∃ lead trail, cs = lead ++ (trim cs ++ trail) ∧
      (∀ c ∈ lead, Unicode.isBlank c = true) ∧ ∀ c ∈ trail, Unicode.isBlank c = true := by
  refine ⟨cs.takeWhile Unicode.isBlank,
    ((cs.dropWhile Unicode.isBlank).reverse.takeWhile Unicode.isBlank).reverse, ?_, ?_, ?_⟩
  · rw [trim, ← List.reverse_append, List.takeWhile_append_dropWhile, List.reverse_reverse,
      List.takeWhile_append_dropWhile]
  · exact fun c hc ↦ List.mem_takeWhile_imp hc
  · exact fun c hc ↦ List.mem_takeWhile_imp (List.mem_reverse.mp hc)

structure Spells (among : List Anchor) (cs : List Char) (anchors : List Anchor) : Prop where
  reads : Reads cs (anchors.map .anchor)
  mem : ∀ a ∈ anchors, a ∈ among
  none : cs = [] → anchors = []

theorem spells_nil (among : List Anchor) : Spells among [] [] :=
  ⟨Regex.reads_nil, fun _ ha ↦ (List.not_mem_nil ha).elim, fun _ ↦ rfl⟩

theorem spells_one {among : List Anchor} {cs : List Char} {a : Anchor}
    (hread : Reads cs [.anchor a]) (ha : a ∈ among) (hcs : cs ≠ []) : Spells among cs [a] :=
  ⟨hread, fun _ hb ↦ List.mem_singleton.mp hb ▸ ha, fun h ↦ absurd h hcs⟩

theorem exists_dropStartAnchor (cs : List Char) :
    ∃ front anchors, cs = front ++ dropStartAnchor cs ∧
      Spells [.textStart, .lineStart] front anchors := by
  rw [dropStartAnchor]
  cases htext : without? ['\\', 'A'] cs with
  | some rest =>
    exact ⟨_, [.textStart], eq_append_of_without? htext,
      spells_one (fun _ _ _ ↦ rfl) (by decide) (by decide)⟩
  | none =>
    cases hline : without? ['^'] cs with
    | some rest =>
      exact ⟨_, [.lineStart], eq_append_of_without? hline,
        spells_one (fun _ _ _ ↦ rfl) (by decide) (by decide)⟩
    | none => exact ⟨[], [], rfl, spells_nil _⟩

theorem exists_dropEndAnchor (cs : List Char) :
    ∃ back anchors, cs = dropEndAnchor cs ++ back ∧
      Spells [.textEnd, .lastLineEnd, .lineEnd] back anchors := by
  rw [dropEndAnchor]
  cases hfound : ([['\\', 'z'], ['\\', 'Z'], ['$']] : List (List Char)).findSome?
      (withoutEnd? · cs) with
  | none => exact ⟨[], [], (List.append_nil cs).symm, spells_nil _⟩
  | some rest =>
    obtain ⟨back, hback, hrest⟩ := List.exists_of_findSome?_eq_some hfound
    refine ⟨back, ?_⟩
    have hcs := eq_append_of_withoutEnd? hrest
    simp only [List.mem_cons, List.not_mem_nil, or_false] at hback
    obtain rfl | rfl | rfl := hback
    · exact ⟨[.textEnd], hcs, spells_one (fun _ _ _ ↦ rfl) (by decide) (by decide)⟩
    · exact ⟨[.lastLineEnd], hcs, spells_one (fun _ _ _ ↦ rfl) (by decide) (by decide)⟩
    · exact ⟨[.lineEnd], hcs, spells_one (fun _ _ _ ↦ rfl) (by decide) (by decide)⟩

theorem dropGroup_cases (cs : List Char) :
    dropGroup cs = cs ∨ cs = '(' :: (dropGroup cs ++ [')']) ∨
      cs = '(' :: '?' :: ':' :: (dropGroup cs ++ [')']) := by
  rw [dropGroup]
  cases hopen : (without? ['(', '?', ':'] cs).orElse fun _ ↦ without? ['('] cs with
  | none => exact .inl rfl
  | some inner =>
    cases hclose : withoutEnd? [')'] inner with
    | none => exact .inl (congrArg (Option.getD · cs) hclose)
    | some core =>
      have hinner := eq_append_of_withoutEnd? hclose
      simp only [hclose, Option.getD_some, ← hinner]
      rw [Option.orElse_eq_or, Option.or_eq_some_iff] at hopen
      obtain hopen | ⟨-, hopen⟩ := hopen
      · exact .inr (.inr (eq_append_of_without? hopen))
      · exact .inr (.inl (eq_append_of_without? hopen))

theorem exists_reads_of_dropGroup {cs : List Char} {items : List Regex}
    (hread : Reads (dropGroup cs) items) (hhead : (dropGroup cs).head? ≠ some '?') :
    ∃ rs, Reads cs rs ∧ ∀ isLineEnd text i,
      (ofItems rs).ends isLineEnd text i = (ofItems items).ends isLineEnd text i := by
  have hgroup (isLineEnd : CharSet) (text : List Char) (i : Nat) :
      (ofItems [.group (ofItems items)]).ends isLineEnd text i =
        (ofItems items).ends isLineEnd text i :=
    Regex.ends_ofItems_singleton _ i
  obtain h | h | h := dropGroup_cases cs
  · exact ⟨items, h ▸ hread, fun _ _ _ ↦ rfl⟩
  · exact ⟨_, h ▸ hread.group hhead, hgroup⟩
  · exact ⟨_, h ▸ hread.groupOnly, hgroup⟩

section Anchored

variable {isLineEnd : CharSet} {text : List Char} {cs : List Char} {anchors : List Anchor}

theorem Spells.takes_start (h : Spells [.textStart, .lineStart] cs anchors) :
    (ofItems (anchors.map .anchor)).Takes isLineEnd text 0 0 := by
  refine Regex.takes_ofItems_anchors fun a ha ↦ ?_
  have ha := h.mem a ha
  simp only [List.mem_cons, List.not_mem_nil, or_false] at ha
  obtain rfl | rfl := ha <;> rfl

theorem Spells.takes_end (h : Spells [.textEnd, .lastLineEnd, .lineEnd] cs anchors) :
    (ofItems (anchors.map .anchor)).Takes isLineEnd text text.length text.length := by
  refine Regex.takes_ofItems_anchors fun a ha ↦ ?_
  have ha := h.mem a ha
  simp only [List.mem_cons, List.not_mem_nil, or_false] at ha
  obtain rfl | rfl | rfl := ha <;> simp [Anchor.holds]

theorem rewrites_anchored {front back : List Char} {starts stops : List Anchor} {rs : List Regex}
    (hstarts : Spells [.textStart, .lineStart] front starts)
    (hstops : Spells [.textEnd, .lastLineEnd, .lineEnd] back stops)
    (hall : text ≠ [] → (ofItems rs).Takes isLineEnd text 0 text.length) (kind : ReplaceKind) :
    (ofItems (starts.map .anchor ++ (rs ++ stops.map .anchor))).Rewrites isLineEnd text kind := by
  by_cases htext : text = []
  · subst htext
    exact fun k hk ↦ absurd hk (Nat.not_lt_zero k)
  · have hback := Regex.takes_ofItems_append (hall htext) hstops.takes_end
    exact Regex.rewrites_of_takes_all (Regex.takes_ofItems_append hstarts.takes_start hback) kind

end Anchored

theorem core_of_isFullMatch {pattern : String} {kind : ReplaceKind} {bare : List Char}
    (h : isFullMatch pattern kind = true)
    (hbare : dropEndAnchor (dropStartAnchor (trim pattern.toList)) = bare) :
    dropGroup bare = ['.', '+'] ∨ dropGroup bare = ['.', '*'] ∨
      dropGroup bare = ['.'] ∧ kind = .global ∧ bare.length = (trim pattern.toList).length := by
  simpa [isFullMatch, hbare, or_assoc, and_assoc, and_comm, and_left_comm] using h

/-- Without the white space around it, an accepted pattern replaces every character. -/
theorem exists_reads_of_isFullMatch {pattern : String} {kind : ReplaceKind}
    (h : isFullMatch pattern kind = true) :
    ∃ items, Reads (trim pattern.toList) items ∧ ∀ isLineEnd text,
      (∀ c ∈ text, isLineEnd c = false) → (ofItems items).Rewrites isLineEnd text kind := by
  obtain ⟨front, starts, hfront, hstarts⟩ := exists_dropStartAnchor (trim pattern.toList)
  obtain ⟨back, stops, hback, hstops⟩ :=
    exists_dropEndAnchor (dropStartAnchor (trim pattern.toList))
  generalize hbare : dropEndAnchor (dropStartAnchor (trim pattern.toList)) = bare at hback
  rw [hback] at hfront
  have hreads {rs : List Regex} (hrs : Reads bare rs) :
      Reads (trim pattern.toList) (starts.map .anchor ++ (rs ++ stops.map .anchor)) :=
    hfront ▸ hstarts.reads.append (hrs.append hstops.reads)
  have hall {item : Regex} (hread : Reads (dropGroup bare) [item])
      (hhead : (dropGroup bare).head? ≠ some '?')
      (htakes : ∀ isLineEnd text, (∀ c ∈ text, isLineEnd c = false) → text ≠ [] →
        item.Takes isLineEnd text 0 text.length) :
      ∃ items, Reads (trim pattern.toList) items ∧ ∀ isLineEnd text,
        (∀ c ∈ text, isLineEnd c = false) → (ofItems items).Rewrites isLineEnd text kind := by
    obtain ⟨rs, hrs, hends⟩ := exists_reads_of_dropGroup hread hhead
    refine ⟨_, hreads hrs, fun isLineEnd text hline ↦ ?_⟩
    refine rewrites_anchored hstarts hstops (fun htext ↦ ?_) kind
    rw [Regex.Takes, hends, Regex.ends_ofItems_singleton]
    exact htakes isLineEnd text hline htext
  obtain hplus | hstar | ⟨hone, rfl, hlength⟩ := core_of_isFullMatch h hbare
  · have hread : Reads (dropGroup bare) [.plus .any] := hplus ▸ fun _ _ _ ↦ rfl
    exact hall hread (by rw [hplus]; decide) fun isLineEnd text hline htext ↦
      Regex.takes_plus_any hline (List.length_pos_iff.mpr htext)
  · have hread : Reads (dropGroup bare) [.star .any] := hstar ▸ fun _ _ _ ↦ rfl
    exact hall hread (by rw [hstar]; decide) fun isLineEnd text hline _ ↦
      Regex.takes_star_any hline (Nat.zero_le _)
  · -- An anchor would make the pattern longer than what is left of it.
    have hlen := congrArg List.length hfront
    simp only [List.length_append] at hlen
    have hstarts := hstarts.none (List.length_eq_zero_iff.mp (by omega))
    have hstops := hstops.none (List.length_eq_zero_iff.mp (by omega))
    have hread : Reads (dropGroup bare) [.any] := hone ▸ fun _ _ _ ↦ rfl
    obtain ⟨rs, hrs, hends⟩ := exists_reads_of_dropGroup hread (by rw [hone]; decide)
    refine ⟨_, hreads hrs, fun isLineEnd text hline ↦ ?_⟩
    rw [hstarts, hstops, List.map_nil, List.nil_append, List.append_nil]
    refine Regex.rewrites_of_takes_one fun i hi ↦ ?_
    rw [Regex.Takes, hends, Regex.ends_ofItems_singleton]
    exact Regex.takes_any hline hi

theorem not_isSpecial_of_isBlank {c : Char} (hc : Unicode.isBlank c = true) :
    Regex.isSpecial c = false := by
  have hspecial : "\\^$.|?*+()[]\x7b\x7d".toList.all (!Unicode.isBlank ·) = true := by decide
  rw [Regex.isSpecial, List.contains_eq_mem, decide_eq_false_iff_not]
  intro hmem
  have := List.all_eq_true.mp hspecial c hmem
  rw [hc] at this
  cases this

/-- A pattern that is accepted replaces every character of a text without line ends, if it has no
white space around it. With white space around it, it replaces nothing of a text without any. -/
theorem rewrites_of_isFullMatch (pattern : String) (kind : ReplaceKind)
    (h : isFullMatch pattern kind = true) :
    ∃ r, Regex.read? pattern = some r ∧
      (trim pattern.toList = pattern.toList → ∀ isLineEnd text,
        (∀ c ∈ text, isLineEnd c = false) → r.Rewrites isLineEnd text kind) ∧
      (trim pattern.toList ≠ pattern.toList → ∀ isLineEnd text,
        (∀ c ∈ text, Unicode.isBlank c = false) → r.replaced isLineEnd text kind = []) := by
  obtain ⟨items, hitems, hrewrites⟩ := exists_reads_of_isFullMatch h
  obtain ⟨lead, trail, hpattern, hlead, htrail⟩ := exists_eq_trim pattern.toList
  have hblanks {cs : List Char} (hcs : ∀ c ∈ cs, Unicode.isBlank c = true) :
      Reads cs (cs.map .char) :=
    Regex.reads_of_not_isSpecial fun c hc ↦ not_isSpecial_of_isBlank (hcs c hc)
  have hread : Reads pattern.toList (lead.map .char ++ (items ++ trail.map .char)) := by
    rw [hpattern]
    exact (hblanks hlead).append (hitems.append (hblanks htrail))
  refine ⟨_, hread.read_ofItems, fun htrim ↦ ?_, fun htrim isLineEnd text hblank ↦ ?_⟩
  · have hlen := congrArg List.length hpattern
    rw [htrim, List.length_append, List.length_append] at hlen
    obtain rfl := List.length_eq_zero_iff.mp (show lead.length = 0 by omega)
    obtain rfl := List.length_eq_zero_iff.mp (show trail.length = 0 by omega)
    rw [List.map_nil, List.nil_append, List.append_nil]
    exact hrewrites
  · have hsome : ∃ c, (c ∈ lead ∨ c ∈ trail) ∧ Unicode.isBlank c = true := by
      cases lead with
      | cons c lead => exact ⟨c, .inl List.mem_cons_self, hlead c List.mem_cons_self⟩
      | nil =>
        cases trail with
        | cons c trail => exact ⟨c, .inr List.mem_cons_self, htrail c List.mem_cons_self⟩
        | nil =>
          rw [List.nil_append, List.append_nil] at hpattern
          exact absurd hpattern.symm htrim
    obtain ⟨c, hc, hcblank⟩ := hsome
    have hmem : Regex.char c ∈ lead.map .char ++ (items ++ trail.map .char) := by
      simp only [List.mem_append]
      exact hc.imp (List.mem_map_of_mem ·) fun hc ↦ .inr (List.mem_map_of_mem hc)
    have htext : c ∉ text := fun hc ↦
      Bool.false_ne_true ((hblank c hc).symm.trans hcblank)
    exact Regex.replaced_eq_nil (fun i ↦ Regex.ends_ofItems_eq_nil hmem htext i) kind

theorem rewrites_of_isFullMatch_anchored_group :
    isFullMatch "\\A(.+)\\Z" .single = true ∧ ∃ r, Regex.read? "\\A(.+)\\Z" = some r ∧
      ∀ isLineEnd text, (∀ c ∈ text, isLineEnd c = false) →
        r.Rewrites isLineEnd text .single := by
  have haccepted : isFullMatch "\\A(.+)\\Z" .single = true := by decide
  obtain ⟨r, hread, hrewrites, -⟩ := rewrites_of_isFullMatch _ _ haccepted
  exact ⟨haccepted, r, hread, hrewrites (by decide)⟩

theorem not_forall_isFullMatch_rewrites :
    ¬ ∀ pattern kind, isFullMatch pattern kind = true → ∀ r, Regex.read? pattern = some r →
      ∀ isLineEnd text, (∀ c ∈ text, isLineEnd c = false) → r.Rewrites isLineEnd text kind := by
  intro h
  obtain ⟨m, hm, -⟩ := h " .+" .global (by decide) (ofItems [.char ' ', .plus .any]) (by decide)
    (· = '\n') "secret".toList (by simp) 0 (by decide)
  exact List.not_mem_nil (show m ∈ [] from hm)

end Masking

end TaintFlow
