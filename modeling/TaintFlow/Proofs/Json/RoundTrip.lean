import TaintFlow.Json.Printer
import TaintFlow.Json.Reader
import Mathlib.Data.List.Basic
import Mathlib.Tactic.ByContra
import Mathlib.Tactic.IntervalCases
import Mathlib.Tactic.SplitIfs

namespace TaintFlow.Json

variable {c : Char} {cs rest : List Char} {n fuel : Nat} {s : String} {j : Json}

theorem toList_toString (n : Nat) : (toString n).toList = Nat.toDigits 10 n := by
  rw [Nat.toString_eq_ofList_toDigits, String.toList_ofList]

theorem isDigit_of_mem_toString (h : c ∈ (toString n).toList) : c.isDigit := by
  rw [toList_toString] at h
  exact Nat.isDigit_of_mem_toDigits (by decide) (by decide) h

theorem digitsValue_toString (n : Nat) : digitsValue (toString n).toList = n := by
  have h := Nat.ofDigitChars_ten_toDigits (n := n)
  rwa [Nat.ofDigitChars_eq_foldl, ← toList_toString] at h

theorem head?_toString (h : 0 < n) : (toString n).toList.head? ≠ some '0' := by
  rw [toList_toString]
  induction n using Nat.strong_induction_on with
  | _ n ih =>
    by_cases hn : n < 10
    · rw [Nat.toDigits_of_lt_base hn]
      interval_cases n <;> decide
    · have hquot := ih (n / 10) (by omega) (by omega)
      rw [Nat.toDigits_of_base_le (by decide) (by omega), List.head?_append_of_ne_nil]
      · exact hquot
      · exact Nat.toDigits_ne_nil

theorem exists_toString_eq_cons (n : Nat) :
    ∃ c cs, (toString n).toList = c :: cs ∧ c.isDigit ∧ (c = '0' → cs = []) := by
  cases h : (toString n).toList with
  | nil =>
    rw [toList_toString] at h
    exact absurd h Nat.toDigits_ne_nil
  | cons c cs =>
    refine ⟨c, cs, rfl, isDigit_of_mem_toString (h ▸ List.mem_cons_self), ?_⟩
    rintro rfl
    rcases Nat.eq_zero_or_pos n with rfl | hpos
    · have hzero : (toString 0).toList = ['0'] := by decide
      rw [hzero] at h
      cases h
      rfl
    · exact absurd (by rw [h]; rfl) (head?_toString hpos)

def EndsNumber (rest : List Char) : Prop :=
  ∀ c ∈ rest.head?, c.isDigit = false ∧ c ≠ '.' ∧ c ≠ 'e' ∧ c ≠ 'E'

theorem readDigits_append (h : ∀ c ∈ cs, c.isDigit) (hend : ∀ c ∈ rest.head?, c.isDigit = false) :
    readDigits (cs ++ rest) = (cs, rest) := by
  unfold readDigits
  rw [List.takeWhile_append_of_pos h, List.dropWhile_append_of_pos h]
  cases rest with
  | nil => simp
  | cons c rest => simp [hend c rfl]

theorem EndsNumber.readFraction (h : EndsNumber rest) :
    Json.readFraction rest = some ([], rest) := by
  cases rest with
  | nil => rfl
  | cons c rest =>
    obtain ⟨-, hpoint, -, -⟩ := h c rfl
    unfold Json.readFraction
    split
    · rename_i heq
      cases heq
      exact absurd rfl hpoint
    · rfl

theorem EndsNumber.readExponent (h : EndsNumber rest) :
    Json.readExponent rest = some ([], rest) := by
  cases rest with
  | nil => rfl
  | cons c rest =>
    obtain ⟨-, -, hlower, hupper⟩ := h c rfl
    simp [Json.readExponent, hlower, hupper]

theorem readNumber_toString (n : Nat) (h : EndsNumber rest) :
    readNumber ((toString n).toList ++ rest) = some (.natural n, rest) := by
  obtain ⟨c, cs, hcons, hdigit, hzero⟩ := exists_toString_eq_cons n
  have hunsigned : readSign (c :: cs ++ rest) = ([], c :: cs ++ rest) := by
    unfold readSign
    split
    · rename_i heq
      cases heq
      exact absurd hdigit (by decide)
    · rfl
  have hdigits : readDigits (c :: cs ++ rest) = (c :: cs, rest) := by
    rw [← hcons]
    exact readDigits_append (fun _ ↦ isDigit_of_mem_toString) fun c hc ↦ (h c hc).1
  have hpad : ¬ (c = '0' ∧ 1 < (c :: cs).length) := by
    rintro ⟨hc, hlong⟩
    simp [hzero hc] at hlong
  have hvalue := digitsValue_toString n
  rw [hcons] at hvalue ⊢
  simp only [readNumber, hunsigned, hdigits]
  simp_all [h.readFraction, h.readExponent]

theorem hexDigit?_hexDigit (h : n < 16) : hexDigit? (hexDigit n) = some n := by
  interval_cases n <;> decide

theorem readUnit_unicodeEscape (h : n < 65536) (rest : List Char) :
    readUnit ((unicodeEscape n).drop 2 ++ rest) = some (n, rest) := by
  have hdigits : n = ((n / 4096 % 16 * 16 + n / 256 % 16) * 16 + n / 16 % 16) * 16 + n % 16 := by
    omega
  simp only [unicodeEscape, List.drop, List.cons_append, List.nil_append, readUnit]
  rw [hexDigit?_hexDigit (Nat.mod_lt _ (by decide)), hexDigit?_hexDigit (Nat.mod_lt _ (by decide)),
    hexDigit?_hexDigit (Nat.mod_lt _ (by decide)), hexDigit?_hexDigit (Nat.mod_lt _ (by decide))]
  simp only [Option.bind_eq_bind, Option.bind_some, Option.pure_def, ← hdigits]

theorem readEscape_unicodeEscape (h : n < 32) (rest : List Char) :
    readEscape ((unicodeEscape n).drop 1 ++ rest) = some (some (Char.ofNat n), rest) := by
  have hunit := readUnit_unicodeEscape (show n < 65536 by omega) rest
  have hhigh : isHighSurrogate n = false := by simp [isHighSurrogate]; omega
  have hlow : isLowSurrogate n = false := by simp [isLowSurrogate]; omega
  simp only [unicodeEscape, List.drop, List.cons_append, List.nil_append] at hunit ⊢
  simp [readEscape, hunit, hhigh, hlow]

theorem readChars_escapeChar (done : List Char) :
    readChars (fuel + 1) (escapeChar c ++ rest) (some done) =
      readChars fuel rest (some (c :: done)) := by
  unfold escapeChar
  split_ifs with hquote hback hline hreturn htab hb hf hcontrol
  · subst hquote; rfl
  · subst hback; rfl
  · subst hline; rfl
  · subst hreturn; rfl
  · subst htab; rfl
  · have hc : c = Char.ofNat 8 := by rw [← hb, Char.ofNat_toNat]
    subst hc; rfl
  · have hc : c = Char.ofNat 12 := by rw [← hf, Char.ofNat_toNat]
    subst hc; rfl
  · have hescape := readEscape_unicodeEscape hcontrol rest
    simp only [unicodeEscape, List.drop, List.cons_append, List.nil_append] at hescape ⊢
    simp [readChars, hescape, Char.ofNat_toNat]
  · simp [readChars, hcontrol]

theorem length_le_length_flatMap_escapeChar (cs : List Char) :
    cs.length ≤ (cs.flatMap escapeChar).length := by
  induction cs with
  | nil => exact Nat.le_refl 0
  | cons c cs ih =>
    have hpos : 0 < (escapeChar c).length := by
      unfold escapeChar unicodeEscape
      split_ifs <;> simp
    simp only [List.flatMap_cons, List.length_append, List.length_cons]
    omega

theorem readChars_flatMap_escapeChar (h : cs.length < fuel) (done : List Char) :
    readChars fuel (cs.flatMap escapeChar ++ '"' :: rest) (some done) =
      some (some (cs.reverse ++ done), rest) := by
  induction cs generalizing fuel done with
  | nil =>
    obtain ⟨fuel, rfl⟩ := Nat.exists_eq_succ_of_ne_zero (Nat.ne_of_gt h)
    rfl
  | cons c cs ih =>
    rw [List.length_cons] at h
    obtain ⟨fuel, rfl⟩ := Nat.exists_eq_succ_of_ne_zero (Nat.ne_of_gt (Nat.zero_lt_of_lt h))
    rw [List.flatMap_cons, List.append_assoc, Nat.succ_eq_add_one, readChars_escapeChar,
      ih (by omega), List.reverse_cons, List.append_assoc]
    rfl

theorem toList_quote (s : String) :
    (quote escapeChar s).toList = '"' :: s.toList.flatMap escapeChar ++ ['"'] := by
  simp [quote]

theorem readString_flatMap_escapeChar (s : String) (rest : List Char) :
    readString (s.toList.flatMap escapeChar ++ '"' :: rest) = some (some s, rest) := by
  have hfuel : s.toList.length <
      (s.toList.flatMap escapeChar ++ '"' :: rest).length + 1 := by
    have hlen := length_le_length_flatMap_escapeChar s.toList
    rw [List.length_append]
    omega
  unfold readString
  rw [readChars_flatMap_escapeChar hfuel]
  simp

/-- A value without decimals and broken strings, whose texts do not show what they write. -/
inductive Plain : Json → Prop where
  | null : Plain .null
  | bool (b : Bool) : Plain (.bool b)
  | natural (n : Nat) : Plain (.natural n)
  | string (s : String) : Plain (.string s)
  | array {items : List Json} (h : ∀ j ∈ items, Plain j) : Plain (.array items)
  | object {members : List (String × Json)} (h : ∀ m ∈ members, Plain m.2) :
    Plain (.object members)

def AllBlank (cs : List Char) : Prop := ∀ c ∈ cs, isBlank c = true

theorem skipBlank_cons (h : isBlank c = false) : skipBlank (c :: cs) = c :: cs := by
  simp [skipBlank, h]

theorem AllBlank.skipBlank_append (h : AllBlank cs) (rest : List Char) :
    skipBlank (cs ++ rest) = skipBlank rest :=
  List.dropWhile_append_of_pos h

theorem AllBlank.readValue_append (h : AllBlank cs) :
    readValue fuel (cs ++ rest) = readValue fuel rest := by
  cases fuel with
  | zero => simp only [readValue]
  | succ fuel => simp only [readValue, h.skipBlank_append]

theorem AllBlank.readItems_append (h : AllBlank cs) :
    readItems fuel (cs ++ rest) = readItems fuel rest := by
  cases fuel with
  | zero => simp only [readItems]
  | succ fuel => simp only [readItems, h.readValue_append]

theorem AllBlank.readMembers_append (h : AllBlank cs) :
    readMembers fuel (cs ++ rest) = readMembers fuel rest := by
  cases fuel with
  | zero => simp only [readMembers]
  | succ fuel => simp only [readMembers, h.skipBlank_append]

theorem allBlank_indent (depth : Nat) : AllBlank (indent depth).toList := by
  intro c hc
  simp only [indent, String.toList_append, String.toList_ofList, List.mem_append,
    List.mem_replicate] at hc
  rcases hc with hc | ⟨-, rfl⟩
  · have hline : c = '\n' := by simpa using hc
    subst hline
    rfl
  · rfl

theorem endsNumber_nil : EndsNumber [] := by
  intro c hc
  cases hc

theorem endsNumber_cons (h : c.isDigit = false ∧ c ≠ '.' ∧ c ≠ 'e' ∧ c ≠ 'E') :
    EndsNumber (c :: rest) := by
  intro d hd
  cases hd
  exact h

theorem endsNumber_indent (depth : Nat) : EndsNumber ((indent depth).toList ++ rest) := by
  have hline : (indent depth).toList = '\n' :: List.replicate (2 * depth) ' ' := by
    simp [indent]
  rw [hline]
  exact endsNumber_cons (by decide)

theorem isBlank_of_isDigit (h : c.isDigit) : isBlank c = false := by
  unfold isBlank
  by_contra hc
  simp only [Bool.not_eq_false, Bool.or_eq_true, decide_eq_true_eq] at hc
  rcases hc with ((rfl | rfl) | rfl) | rfl <;> exact absurd h (by decide)

theorem readValue_of_isDigit (h : c.isDigit) :
    readValue (fuel + 1) (c :: cs) = readNumber (c :: cs) := by
  rw [readValue, skipBlank_cons (isBlank_of_isDigit h)]
  split
  all_goals first
    | rfl
    | (rename_i heq; cases heq; exact absurd h (by decide))

theorem Plain.head?_prettyAt (h : Plain j) (depth : Nat) :
    ∃ c, (prettyAt depth j).toList.head? = some c ∧ isBlank c = false ∧ c ≠ ']' := by
  cases h with
  | null => exact ⟨'n', by simp [prettyAt], rfl, by decide⟩
  | bool b =>
    cases b with
    | true => exact ⟨'t', by simp [prettyAt], rfl, by decide⟩
    | false => exact ⟨'f', by simp [prettyAt], rfl, by decide⟩
  | natural n =>
    obtain ⟨c, cs, hcons, hdigit, -⟩ := exists_toString_eq_cons n
    refine ⟨c, ?_, isBlank_of_isDigit hdigit, ?_⟩
    · rw [prettyAt, hcons, List.head?_cons]
    · rintro rfl
      exact absurd hdigit (by decide)
  | string s => exact ⟨'"', by simp [prettyAt, toList_quote], rfl, by decide⟩
  | @array items _ =>
    cases items with
    | nil => exact ⟨'[', by simp [prettyAt], rfl, by decide⟩
    | cons item items => exact ⟨'[', by simp [prettyAt], rfl, by decide⟩
  | @object members _ =>
    cases members with
    | nil => exact ⟨'\x7b', by simp [prettyAt], rfl, by decide⟩
    | cons m members => exact ⟨'\x7b', by simp [prettyAt], rfl, by decide⟩

/-- A value is read back from its text, at any depth and whatever follows. -/
def ReadsBack (j : Json) : Prop :=
  ∀ depth fuel rest, (prettyAt depth j).toList.length ≤ fuel → EndsNumber rest →
    readValue (fuel + 1) ((prettyAt depth j).toList ++ rest) = some (j, rest)

theorem readWord_append (word : String) (value : Json) (rest : List Char) :
    readWord word value (word.toList ++ rest) = some (value, rest) := by
  have hprefix : word.toList.isPrefixOf (word.toList ++ rest) = true :=
    List.isPrefixOf_iff_prefix.mpr (List.prefix_append _ _)
  have hdrop : (word.toList ++ rest).drop word.length = rest := by
    rw [← String.length_toList, List.drop_left]
  rw [readWord, if_pos hprefix, hdrop]

theorem readsBack_null : ReadsBack .null := by
  intro depth fuel rest _ _
  have hword := readWord_append "null" .null rest
  simpa [prettyAt, readValue, skipBlank_cons, isBlank] using hword

theorem readsBack_bool (b : Bool) : ReadsBack (.bool b) := by
  intro depth fuel rest _ _
  cases b with
  | true =>
    have hword := readWord_append "true" (.bool true) rest
    simpa [prettyAt, readValue, skipBlank_cons, isBlank] using hword
  | false =>
    have hword := readWord_append "false" (.bool false) rest
    simpa [prettyAt, readValue, skipBlank_cons, isBlank] using hword

theorem readsBack_natural (n : Nat) : ReadsBack (.natural n) := by
  intro depth fuel rest _ hrest
  obtain ⟨c, cs, hcons, hdigit, -⟩ := exists_toString_eq_cons n
  have hnumber := readNumber_toString n hrest
  rw [prettyAt]
  rw [hcons] at hnumber ⊢
  rw [List.cons_append, readValue_of_isDigit hdigit]
  exact hnumber

theorem readsBack_string (s : String) : ReadsBack (.string s) := by
  intro depth fuel rest _ _
  have hstring := readString_flatMap_escapeChar s rest
  rw [prettyAt, toList_quote, List.cons_append, List.cons_append, List.append_assoc,
    List.singleton_append]
  simp [readValue, skipBlank_cons, isBlank, hstring]

section Array

variable {tail : List Char} {depth outer : Nat} {item : Json} {items : List Json}

theorem readItems_last (h : readValue fuel cs = some (item, tail))
    (hend : skipBlank tail = ']' :: rest) : readItems (fuel + 1) cs = some ([item], rest) := by
  simp [readItems, h, hend]

theorem readItems_more (h : readValue fuel cs = some (item, ',' :: tail))
    (hitems : readItems fuel tail = some (items, rest)) :
    readItems (fuel + 1) cs = some (item :: items, rest) := by
  simp [readItems, h, skipBlank_cons, isBlank, hitems]

theorem endsNumber_prettyItems (depth outer : Nat) (items : List Json) (rest : List Char) :
    EndsNumber ((prettyItems depth items).toList ++ ((indent outer).toList ++ rest)) := by
  cases items with
  | nil => simpa [prettyItems] using endsNumber_indent outer
  | cons item items =>
    simp only [prettyItems, String.toList_append, List.append_assoc]
    exact endsNumber_cons (c := ',') (by decide)

theorem toList_prettyItems_cons :
    (prettyItems depth (item :: items)).toList = ',' :: ((indent depth).toList ++
      ((prettyAt depth item).toList ++ (prettyItems depth items).toList)) := by
  simp [prettyItems]

theorem readItems_pretty (h : ∀ j ∈ item :: items, ReadsBack j)
    (hfuel : (prettyAt depth item).toList.length + (prettyItems depth items).toList.length ≤ fuel) :
    readItems (fuel + 2) ((prettyAt depth item).toList ++ ((prettyItems depth items).toList ++
      ((indent outer).toList ++ ']' :: rest))) = some (item :: items, rest) := by
  have hitem := h item List.mem_cons_self depth fuel _ (by omega)
    (endsNumber_prettyItems depth outer items (']' :: rest))
  induction items generalizing item fuel with
  | nil =>
    refine readItems_last hitem ?_
    have hend := (allBlank_indent outer).skipBlank_append (']' :: rest)
    rw [skipBlank_cons rfl] at hend
    simpa [prettyItems] using hend
  | cons next items ih =>
    rw [toList_prettyItems_cons] at hfuel hitem ⊢
    simp only [List.length_cons, List.length_append] at hfuel
    simp only [List.cons_append, List.append_assoc] at hitem ⊢
    obtain ⟨fuel, rfl⟩ : ∃ f, fuel = f + 1 := ⟨fuel - 1, by omega⟩
    have hrest : ∀ j ∈ next :: items, ReadsBack j := fun j hj ↦ h j (List.mem_cons_of_mem _ hj)
    have hnext := hrest next List.mem_cons_self depth fuel _ (by omega)
      (endsNumber_prettyItems depth outer items (']' :: rest))
    refine readItems_more hitem ?_
    rw [(allBlank_indent depth).readItems_append]
    exact ih hrest (by omega) hnext

theorem readValue_array {c : Char} (hc : cs.head? = some c) (hblank : isBlank c = false)
    (hopen : c ≠ ']') (h : AllBlank tail) (hitems : readItems fuel cs = some (items, rest)) :
    readValue (fuel + 1) ('[' :: (tail ++ cs)) = some (.array items, rest) := by
  obtain ⟨cs, rfl⟩ : ∃ more, cs = c :: more := by
    cases cs with
    | nil => cases hc
    | cons d more =>
      cases hc
      exact ⟨more, rfl⟩
  have hskip : skipBlank (tail ++ c :: cs) = c :: cs := by
    rw [h.skipBlank_append, skipBlank_cons hblank]
  simp [readValue, skipBlank_cons, isBlank, hskip, hopen, hitems]

theorem toList_prettyAt_array :
    (prettyAt depth (.array (item :: items))).toList = '[' :: ((indent (depth + 1)).toList ++
      ((prettyAt (depth + 1) item).toList ++ ((prettyItems (depth + 1) items).toList ++
        ((indent depth).toList ++ [']'])))) := by
  simp [prettyAt]

theorem readsBack_array (hp : ∀ j ∈ items, Plain j) (h : ∀ j ∈ items, ReadsBack j) :
    ReadsBack (.array items) := by
  intro depth fuel rest hfuel _
  cases items with
  | nil => simp [prettyAt, readValue, skipBlank_cons, isBlank]
  | cons item items =>
    rw [toList_prettyAt_array] at hfuel ⊢
    simp only [List.length_cons, List.length_append] at hfuel
    obtain ⟨fuel, rfl⟩ : ∃ f, fuel = f + 2 := ⟨fuel - 2, by omega⟩
    obtain ⟨c, hc, hblank, hopen⟩ := (hp item List.mem_cons_self).head?_prettyAt (depth + 1)
    simp only [List.cons_append, List.append_assoc, List.nil_append]
    refine readValue_array ?_ hblank hopen (allBlank_indent _) (readItems_pretty h (by omega))
    rw [List.head?_append, hc, Option.some_or]

end Array

section Object

variable {tail : List Char} {depth outer : Nat} {name : String} {value : Json}
  {members : List (String × Json)}

def named (name : String) (cs : List Char) : List Char :=
  '"' :: (name.toList.flatMap escapeChar ++ '"' :: ':' :: ' ' :: cs)

theorem named_append : named name cs ++ rest = named name (cs ++ rest) := by
  simp [named]

theorem readValue_space : readValue fuel (' ' :: cs) = readValue fuel cs := by
  have hblank : AllBlank [' '] := by simp [AllBlank, isBlank]
  exact hblank.readValue_append

theorem readMembers_last (h : readValue fuel cs = some (value, tail))
    (hend : skipBlank tail = '\x7d' :: rest) :
    readMembers (fuel + 1) (named name cs) = some ([(name, value)], rest) := by
  have hname := readString_flatMap_escapeChar name (':' :: ' ' :: cs)
  simp [readMembers, named, skipBlank_cons, isBlank, hname, readValue_space, h, hend]

theorem readMembers_more (h : readValue fuel cs = some (value, ',' :: tail))
    (hmembers : readMembers fuel tail = some (members, rest)) :
    readMembers (fuel + 1) (named name cs) = some ((name, value) :: members, rest) := by
  have hname := readString_flatMap_escapeChar name (':' :: ' ' :: cs)
  simp [readMembers, named, skipBlank_cons, isBlank, hname, readValue_space, h, hmembers]

theorem endsNumber_prettyMembers (depth outer : Nat) (members : List (String × Json))
    (rest : List Char) :
    EndsNumber ((prettyMembers depth members).toList ++ ((indent outer).toList ++ rest)) := by
  cases members with
  | nil => simpa [prettyMembers] using endsNumber_indent outer
  | cons m members =>
    simp only [prettyMembers, String.toList_append, List.append_assoc]
    exact endsNumber_cons (c := ',') (by decide)

theorem toList_prettyMembers_cons :
    (prettyMembers depth ((name, value) :: members)).toList = ',' :: ((indent depth).toList ++
      named name ((prettyAt depth value).toList ++ (prettyMembers depth members).toList)) := by
  simp [prettyMembers, named, toList_quote]

theorem readMembers_pretty (h : ∀ m ∈ (name, value) :: members, ReadsBack m.2)
    (hfuel : (prettyAt depth value).toList.length + (prettyMembers depth members).toList.length ≤
      fuel) :
    readMembers (fuel + 2) (named name ((prettyAt depth value).toList ++
      ((prettyMembers depth members).toList ++ ((indent outer).toList ++ '\x7d' :: rest)))) =
        some ((name, value) :: members, rest) := by
  have hback : ReadsBack value := h (name, value) List.mem_cons_self
  have hvalue := hback depth fuel _ (by omega)
    (endsNumber_prettyMembers depth outer members ('\x7d' :: rest))
  induction members generalizing name value fuel with
  | nil =>
    refine readMembers_last hvalue ?_
    have hend := (allBlank_indent outer).skipBlank_append ('\x7d' :: rest)
    rw [skipBlank_cons rfl] at hend
    simpa [prettyMembers] using hend
  | cons next members ih =>
    obtain ⟨nextName, next⟩ := next
    rw [toList_prettyMembers_cons] at hfuel hvalue ⊢
    simp only [List.length_cons, List.length_append, named] at hfuel
    simp only [List.cons_append, List.append_assoc, named_append] at hvalue ⊢
    obtain ⟨fuel, rfl⟩ : ∃ f, fuel = f + 1 := ⟨fuel - 1, by omega⟩
    have hrest : ∀ m ∈ (nextName, next) :: members, ReadsBack m.2 :=
      fun m hm ↦ h m (List.mem_cons_of_mem _ hm)
    have hnext : ReadsBack next := hrest (nextName, next) List.mem_cons_self
    refine readMembers_more hvalue ?_
    rw [(allBlank_indent depth).readMembers_append]
    exact ih hrest (by omega) hnext (hnext depth fuel _ (by omega)
      (endsNumber_prettyMembers depth outer members ('\x7d' :: rest)))

theorem readValue_object (h : AllBlank tail)
    (hmembers : readMembers fuel (named name cs) = some (members, rest)) :
    readValue (fuel + 1) ('\x7b' :: (tail ++ named name cs)) = some (.object members, rest) := by
  have hskip : skipBlank (tail ++ named name cs) = named name cs := by
    rw [h.skipBlank_append, named, skipBlank_cons rfl]
  rw [named] at hskip hmembers ⊢
  simp [readValue, skipBlank_cons, isBlank, hskip, hmembers]

theorem toList_prettyAt_object :
    (prettyAt depth (.object ((name, value) :: members))).toList =
      '\x7b' :: ((indent (depth + 1)).toList ++ named name ((prettyAt (depth + 1) value).toList ++
        ((prettyMembers (depth + 1) members).toList ++ ((indent depth).toList ++ ['\x7d'])))) := by
  simp [prettyAt, named, toList_quote]

theorem readsBack_object (h : ∀ m ∈ members, ReadsBack m.2) : ReadsBack (.object members) := by
  intro depth fuel rest hfuel _
  cases members with
  | nil => simp [prettyAt, readValue, skipBlank_cons, isBlank]
  | cons m members =>
    obtain ⟨name, value⟩ := m
    rw [toList_prettyAt_object] at hfuel ⊢
    simp only [List.length_cons, List.length_append, named] at hfuel
    obtain ⟨fuel, rfl⟩ : ∃ f, fuel = f + 2 := ⟨fuel - 2, by omega⟩
    simp only [List.cons_append, List.append_assoc, List.nil_append, named_append]
    exact readValue_object (allBlank_indent _) (readMembers_pretty h (by omega))

end Object

theorem Plain.readsBack (h : Plain j) : ReadsBack j := by
  induction h with
  | null => exact readsBack_null
  | bool b => exact readsBack_bool b
  | natural n => exact readsBack_natural n
  | string s => exact readsBack_string s
  | array hp ih => exact readsBack_array hp ih
  | object _ ih => exact readsBack_object ih

theorem Plain.read?_pretty (h : Plain j) : read? j.pretty = some j := by
  have hvalue := h.readsBack 0 j.pretty.toList.length [] (Nat.le_refl _) endsNumber_nil
  rw [List.append_nil] at hvalue
  unfold read?
  have hread : readValue (j.pretty.toList.length + 1) j.pretty.toList = some (j, []) := hvalue
  simp [hread, skipBlank]

end TaintFlow.Json
