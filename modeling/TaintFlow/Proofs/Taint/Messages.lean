import TaintFlow.Taint.Finding
import Mathlib.Data.List.Basic

namespace TaintFlow

namespace Template

/-- A single character, or a placeholder and what it stands for. -/
inductive Piece where
  | char (c : Char)
  | placeholder (name value : String)

def Piece.source : Piece → List Char
  | .char c => [c]
  | .placeholder name _ => '\x7b' :: name.toList ++ ['\x7d']

def Piece.text : Piece → List Char
  | .char c => [c]
  | .placeholder _ value => value.toList

/-- The pieces make up the template `cs`, and every placeholder that occurs in it is one of them.
A value stands for a name as `stands` says. -/
structure Cut (stands : String → String → Prop) (cs : List Char) (pieces : List Piece) : Prop where
  source : pieces.flatMap Piece.source = cs
  known : ∀ name value, .placeholder name value ∈ pieces → stands name value
  complete : ∀ front back name value, stands name value →
    cs = front ++ (Piece.placeholder name value).source ++ back →
      ∃ before after, pieces = before ++ .placeholder name value :: after ∧
        before.flatMap Piece.source = front

structure WellFormed (stands : String → String → Prop) : Prop where
  plain : ∀ name value, stands name value → '\x7b' ∉ name.toList ∧ '\x7d' ∉ name.toList
  unique : ∀ name value value', stands name value → stands name value' → value = value'

variable {stands : String → String → Prop} {value? : String → Option String}
  {cs front back : List Char} {pieces : List Piece} {p : Piece} {c : Char} {name value : String}

theorem Piece.source_ne_nil (p : Piece) : p.source ≠ [] := by
  cases p <;> simp [source]

theorem eq_nil_of_source (h : pieces.flatMap Piece.source = []) : pieces = [] := by
  cases pieces with
  | nil => rfl
  | cons p pieces => exact absurd (List.append_eq_nil_iff.mp h).1 p.source_ne_nil

theorem Cut.of_cons (h : Cut stands (p.source ++ cs) (p :: pieces)) : Cut stands cs pieces := by
  refine ⟨List.append_cancel_left h.source,
    fun name value hp ↦ h.known name value (List.mem_cons_of_mem _ hp), ?_⟩
  intro front back name value hv hcs
  have hwhole : p.source ++ cs =
      (p.source ++ front) ++ (Piece.placeholder name value).source ++ back := by
    simp only [hcs, List.append_assoc]
  obtain ⟨before, after, hpieces, hfront⟩ := h.complete _ _ _ _ hv hwhole
  cases before with
  | nil => exact absurd (List.append_eq_nil_iff.mp hfront.symm).1 p.source_ne_nil
  | cons q before =>
    obtain ⟨rfl, rfl⟩ := List.cons.inj hpieces
    exact ⟨before, after, rfl, List.append_cancel_left hfront⟩

theorem Cut.eq_of_source
    (h : Cut stands ((Piece.placeholder name value).source ++ cs) (p :: pieces))
    (hv : stands name value) : p = .placeholder name value := by
  obtain ⟨before, after, hpieces, hfront⟩ := h.complete [] cs name value hv rfl
  rw [eq_nil_of_source hfront] at hpieces
  exact (List.cons.inj hpieces).1

theorem text_eq_source (h : '\x7d' ∉ pieces.flatMap Piece.source) :
    pieces.flatMap Piece.text = pieces.flatMap Piece.source := by
  induction pieces with
  | nil => rfl
  | cons p pieces ih =>
    rw [List.flatMap_cons, List.mem_append, not_or] at h
    cases p with
    | char c =>
      rw [List.flatMap_cons, List.flatMap_cons, ih h.2]
      rfl
    | placeholder name value =>
      have hclose : '\x7d' ∈ (Piece.placeholder name value).source := by simp [Piece.source]
      exact absurd hclose h.1

theorem fill_drop (n : Nat) : fill value? cs n = fill value? (cs.drop n) 0 := by
  induction cs generalizing n with
  | nil => simp [fill]
  | cons c cs ih =>
    cases n with
    | zero => rfl
    | succ n => exact ih n

theorem fill_char (h : c ≠ '\x7b') : fill value? (c :: cs) 0 = c :: fill value? cs 0 := by
  rw [fill, if_pos h]

theorem fill_unclosed (h : '\x7d' ∉ cs) : fill value? ('\x7b' :: cs) 0 = '\x7b' :: cs := by
  rw [fill, if_neg (by simp), if_pos h]

theorem fill_unknown (h : '\x7d' ∈ cs)
    (hv : value? (String.ofList (cs.takeWhile (· ≠ '\x7d'))) = none) :
    fill value? ('\x7b' :: cs) 0 = '\x7b' :: fill value? cs 0 := by
  rw [fill, if_neg (by simp), if_neg (by simpa using h)]
  simp only [hv]

theorem takeWhile_append_close (h : '\x7d' ∉ front) :
    (front ++ '\x7d' :: back).takeWhile (· ≠ '\x7d') = front := by
  have hfront : ∀ c ∈ front, decide (c ≠ '\x7d') = true := by
    intro c hc
    rw [decide_eq_true_eq]
    rintro rfl
    exact h hc
  rw [List.takeWhile_append_of_pos hfront]
  simp

theorem fill_placeholder (hn : '\x7d' ∉ name.toList) (hv : value? name = some value) :
    fill value? ((Piece.placeholder name value).source ++ cs) 0 =
      value.toList ++ fill value? cs 0 := by
  have hsource : (Piece.placeholder name value).source ++ cs =
      '\x7b' :: (name.toList ++ '\x7d' :: cs) := by simp [Piece.source]
  have hdrop : (name.toList ++ '\x7d' :: cs).drop (name.toList.length + 1) = cs := by simp
  rw [hsource, fill, if_neg (by simp), if_neg (by simp), takeWhile_append_close hn]
  simp only [String.ofList_toList, hv]
  rw [fill_drop, hdrop]

theorem exists_eq_source (h : '\x7d' ∈ cs) (value : String) : ∃ rest, '\x7b' :: cs =
    (Piece.placeholder (String.ofList (cs.takeWhile (· ≠ '\x7d'))) value).source ++ rest := by
  obtain ⟨name, rest, rfl, hname⟩ := List.eq_append_cons_of_mem h
  refine ⟨rest, ?_⟩
  rw [takeWhile_append_close hname, Piece.source, String.toList_ofList]
  simp

/-- The scanner gives the text of the pieces, however the template is cut. -/
theorem Cut.fill_eq (hs : WellFormed stands)
    (hvalue : ∀ name value, value? name = some value ↔ stands name value)
    (h : Cut stands cs pieces) : fill value? cs 0 = pieces.flatMap Piece.text := by
  induction pieces generalizing cs with
  | nil =>
    rw [← h.source]
    rfl
  | cons p pieces ih =>
    obtain rfl : p.source ++ pieces.flatMap Piece.source = cs := h.source
    have hrest := ih h.of_cons
    rw [List.flatMap_cons, ← hrest]
    cases p with
    | placeholder name value =>
      have hv : stands name value := h.known name value List.mem_cons_self
      exact fill_placeholder (hs.plain name value hv).2 ((hvalue name value).mpr hv)
    | char c =>
      change fill value? (c :: pieces.flatMap Piece.source) 0 = c :: fill value? _ 0
      by_cases hopen : c = '\x7b'
      · subst hopen
        by_cases hclose : '\x7d' ∈ pieces.flatMap Piece.source
        · apply fill_unknown hclose
          -- A known name would make the first piece a placeholder.
          refine Option.eq_none_iff_forall_ne_some.mpr fun value hv ↦ ?_
          obtain ⟨rest, hrest⟩ := exists_eq_source hclose value
          change Cut stands ('\x7b' :: pieces.flatMap Piece.source) _ at h
          rw [hrest] at h
          cases h.eq_of_source ((hvalue _ _).mp hv)
        · rw [fill_unclosed hclose, hrest, text_eq_source hclose]
      · exact fill_char hopen

theorem Cut.char (h : Cut stands cs pieces)
    (hno : ∀ name value rest, stands name value →
      c :: cs ≠ (Piece.placeholder name value).source ++ rest) :
    Cut stands (c :: cs) (.char c :: pieces) := by
  refine ⟨congrArg _ h.source, ?_, ?_⟩
  · intro name value hp
    rcases List.mem_cons.mp hp with hp | hp
    · cases hp
    · exact h.known name value hp
  · intro front back name value hv hcs
    cases front with
    | nil => exact absurd hcs (hno name value back hv)
    | cons d front =>
      obtain ⟨rfl, hrest⟩ := List.cons.inj hcs
      obtain ⟨before, after, rfl, rfl⟩ := h.complete front back name value hv hrest
      exact ⟨.char c :: before, after, rfl, rfl⟩

theorem eq_or_append_of_source {other otherValue : String} (hs : WellFormed stands)
    (hv : stands name value) (ho : stands other otherValue)
    (h : (Piece.placeholder name value).source ++ cs =
      front ++ (Piece.placeholder other otherValue).source ++ back) :
    front = [] ∧ name = other ∨
      ∃ rest, front = (Piece.placeholder name value).source ++ rest ∧
        cs = rest ++ (Piece.placeholder other otherValue).source ++ back := by
  cases front with
  | nil =>
    left
    refine ⟨rfl, ?_⟩
    have hnames : name.toList ++ '\x7d' :: cs = other.toList ++ '\x7d' :: back := by
      simpa [Piece.source] using h
    have htake := congrArg (List.takeWhile (· ≠ '\x7d')) hnames
    rw [takeWhile_append_close (hs.plain _ _ hv).2,
      takeWhile_append_close (hs.plain _ _ ho).2] at htake
    exact String.toList_inj.mp htake
  | cons d front =>
    right
    have hrest : d = '\x7b' ∧ name.toList ++ '\x7d' :: cs =
        front ++ '\x7b' :: (other.toList ++ '\x7d' :: back) := by
      simpa [Piece.source, eq_comm] using h
    obtain ⟨rfl, hrest⟩ := hrest
    rcases List.append_eq_append_iff.mp hrest with ⟨more, hfront, hmore⟩ | ⟨more, hname, hmore⟩
    · cases more with
      | nil => cases hmore
      | cons e more =>
        obtain ⟨rfl, rfl⟩ := List.cons.inj hmore
        exact ⟨more, by simp [Piece.source, hfront], by simp [Piece.source]⟩
    · cases more with
      | nil => cases hmore
      | cons e more =>
        -- The brace that opens the other one would be in the name.
        obtain ⟨rfl, -⟩ := List.cons.inj hmore
        exact absurd (by simp [hname]) (hs.plain name value hv).1

theorem Cut.placeholder (hs : WellFormed stands) (hv : stands name value)
    (h : Cut stands cs pieces) : Cut stands ((Piece.placeholder name value).source ++ cs)
      (.placeholder name value :: pieces) := by
  refine ⟨congrArg _ h.source, ?_, ?_⟩
  · intro other value' hp
    rcases List.mem_cons.mp hp with hp | hp
    · cases hp
      exact hv
    · exact h.known other value' hp
  · intro front back other value' ho hcs
    rcases eq_or_append_of_source hs hv ho hcs with ⟨rfl, rfl⟩ | ⟨rest, rfl, hrest⟩
    · obtain rfl := hs.unique _ _ _ hv ho
      exact ⟨[], pieces, rfl, rfl⟩
    · obtain ⟨before, after, rfl, rfl⟩ := h.complete rest back other value' ho hrest
      exact ⟨.placeholder name value :: before, after, rfl, rfl⟩

theorem exists_cut (hs : WellFormed stands) (cs : List Char) : ∃ pieces, Cut stands cs pieces := by
  induction hlength : cs.length using Nat.strongRecOn generalizing cs with
  | ind n ih =>
    by_cases hp : ∃ name value rest, stands name value ∧
        cs = (Piece.placeholder name value).source ++ rest
    · obtain ⟨name, value, rest, hv, rfl⟩ := hp
      have hlt : rest.length < n := by
        rw [← hlength, List.length_append]
        have := List.length_pos_iff.mpr (Piece.placeholder name value).source_ne_nil
        omega
      obtain ⟨pieces, h⟩ := ih rest.length hlt rest rfl
      exact ⟨_, h.placeholder hs hv⟩
    · cases cs with
      | nil => exact ⟨[], rfl, by simp, by simp [Piece.source]⟩
      | cons c cs =>
        have hlt : cs.length < n := by
          rw [← hlength]
          exact Nat.lt_succ_self _
        obtain ⟨pieces, h⟩ := ih cs.length hlt cs rfl
        exact ⟨_, h.char fun name value rest hv hcs ↦ hp ⟨name, value, rest, hv, hcs⟩⟩

/-- A placeholder in a token that is none is filled in, and one in a value is not. -/
example : fill (fun name ↦ [("sink", "\x7brule\x7d"), ("rule", "logging")].lookup name)
    "\x7bat \x7bsink\x7d\x7d \x7brule\x7d \x7bsink".toList 0 =
      "\x7bat \x7brule\x7d\x7d logging \x7bsink".toList := by decide

end Template

namespace Finding

variable (f : Finding) (g : FlowGraph)

inductive Stands : String → String → Prop
  | source : Stands "source" (g.describe f.source)
  | sink : Stands "sink" (g.describe f.sink)
  | sourceLocation : Stands "source_location" (locationText g f.source)
  | sinkLocation : Stands "sink_location" (locationText g f.sink)
  | sinkKind : Stands "sink_kind" (toString f.sinkKind)
  | rule : Stands "rule" f.rule

theorem lookup_placeholders_iff (name value : String) :
    (f.placeholders g).lookup name = some value ↔ f.Stands g name value := by
  constructor
  · intro h
    obtain ⟨before, after, hsplit, -⟩ := List.lookup_eq_some_iff.mp h
    have hmem : (name, value) ∈ f.placeholders g := by simp [hsplit]
    simp only [placeholders, List.mem_cons, Prod.mk.injEq, List.not_mem_nil, or_false] at hmem
    rcases hmem with ⟨rfl, rfl⟩ | ⟨rfl, rfl⟩ | ⟨rfl, rfl⟩ | ⟨rfl, rfl⟩ | ⟨rfl, rfl⟩ | ⟨rfl, rfl⟩
    · exact .source
    · exact .sink
    · exact .sourceLocation
    · exact .sinkLocation
    · exact .sinkKind
    · exact .rule
  · intro h
    cases h <;> rfl

theorem wellFormed_stands : Template.WellFormed (f.Stands g) where
  plain := by
    intro name value h
    cases h <;> decide
  unique := by
    intro name value value' h h'
    rw [← lookup_placeholders_iff] at h h'
    exact Option.some.inj (h.symm.trans h')

/-- The message is the one that has the values in place of the placeholders, where every placeholder
that occurs in the template is a piece of it. -/
theorem render_eq_iff (template message : String) :
    f.render g template = message ↔
      ∃ pieces, Template.Cut (f.Stands g) template.toList pieces ∧
        message.toList = pieces.flatMap Template.Piece.text := by
  have hs := f.wellFormed_stands g
  have hvalue := f.lookup_placeholders_iff g
  rw [render, ← String.toList_inj, String.toList_ofList]
  constructor
  · intro h
    obtain ⟨pieces, hcut⟩ := Template.exists_cut hs template.toList
    exact ⟨pieces, hcut, by rw [← h, hcut.fill_eq hs hvalue]⟩
  · rintro ⟨pieces, hcut, h⟩
    rw [h, hcut.fill_eq hs hvalue]

end Finding

end TaintFlow
