import TaintFlow.Yaml.Printer
import TaintFlow.Yaml.Record
import TaintFlow.Proofs.Json.Codec

namespace TaintFlow.Yaml

variable {α β : Type} {n : Nat} {c : Char} {cs : List Char}

/-- The text that a value is printed as is a document with the nodes of the value. -/
def Value.ReadsBack (v : Value) : Prop :=
  Document.ofText? v.print = some ⟨some v.toNode⟩

theorem hexDigit?_of_isDigit (h : c.isDigit) : Json.hexDigit? c = some (c.toNat - '0'.toNat) := by
  have hrange : '0' ≤ c ∧ c ≤ '9' := by
    simpa [Char.isDigit, Char.le_def] using h
  rw [Json.hexDigit?, if_pos hrange]

theorem foldlM_hexDigit? (h : ∀ c ∈ cs, c.isDigit) (n : Nat) :
    cs.foldlM (fun n c ↦ do
      let d ← Json.hexDigit? c
      if d < 10 then some (10 * n + d) else none) n =
    some (cs.foldl (fun n c ↦ 10 * n + (c.toNat - '0'.toNat)) n) := by
  induction cs generalizing n with
  | nil => rfl
  | cons c cs ih =>
    have hdigit : c.isDigit := h c List.mem_cons_self
    have hlt : c.toNat - '0'.toNat < 10 := by
      have hle : c.toNat ≤ '9'.toNat := by
        simp only [Char.isDigit, Bool.and_eq_true, decide_eq_true_eq] at hdigit
        exact hdigit.2
      have hnine : '9'.toNat = 57 := rfl
      have hzero : '0'.toNat = 48 := rfl
      omega
    rw [List.foldlM_cons, hexDigit?_of_isDigit hdigit]
    simp only [Option.bind_eq_bind, Option.bind_some, if_pos hlt]
    exact ih (fun d hd ↦ h d (List.mem_cons_of_mem c hd)) _

namespace Plain

theorem digits?_toString (n : Nat) : digits? 10 (toString n).toList = some n := by
  obtain ⟨c, cs, hcons, -, -⟩ := Json.exists_toString_eq_cons n
  have hvalue := Json.digitsValue_toString n
  have hread := foldlM_hexDigit? (fun _ ↦ Json.isDigit_of_mem_toString (n := n)) 0
  rw [hcons] at hvalue hread ⊢
  rw [digits?, if_neg (by simp), hread]
  exact congrArg some hvalue

theorem unsigned?_toString (n : Nat) : unsigned? (toString n).toList = some n := by
  obtain ⟨c, cs, hcons, hdigit, hzero⟩ := Json.exists_toString_eq_cons n
  have hdigits := digits?_toString n
  have hpadded : isPadded (toString n).toList = false := by
    rw [hcons]
    by_cases hc : c = '0'
    · simp [isPadded, hzero hc]
    · simp [isPadded, hc]
  rw [hcons] at hdigits hpadded ⊢
  unfold unsigned?
  split
  · rename_i heq
    cases heq
    exact absurd (hzero rfl) (by simp)
  · rename_i heq
    cases heq
    exact absurd (hzero rfl) (by simp)
  · rename_i heq
    cases heq
    exact absurd (hzero rfl) (by simp)
  · rw [hpadded]
    exact hdigits

theorem natural?_toString (n : Nat) : natural? (toString n) = some n := by
  obtain ⟨c, cs, hcons, hdigit, -⟩ := Json.exists_toString_eq_cons n
  have hunsigned := unsigned?_toString n
  rw [hcons] at hunsigned
  rw [natural?, hcons]
  split
  · rename_i heq
    cases heq
    exact absurd hdigit (by decide)
  · exact hunsigned

end Plain

theorem mapM_of_forall {f : α → Option β} {g : α → β} {as : List α}
    (h : ∀ a ∈ as, f a = some (g a)) : as.mapM f = some (as.map g) := by
  induction as with
  | nil => rfl
  | cons a as ih =>
    have hrest := ih fun b hb ↦ h b (List.mem_cons_of_mem a hb)
    rw [List.mapM_cons, h a List.mem_cons_self, hrest]
    rfl

theorem Value.toNodes_eq_map (vs : List Value) : toNodes vs = vs.map toNode := by
  induction vs with
  | nil => simp only [toNodes, List.map_nil]
  | cons v vs ih => simp only [toNodes, List.map_cons, ih]

theorem Value.toEntries_eq_map (fields : List (String × Value)) :
    toEntries fields = fields.map fun f ↦ ((string f.1).toNode, f.2.toNode) := by
  induction fields with
  | nil => simp only [toEntries, List.map_nil]
  | cons f fields ih =>
    obtain ⟨name, v⟩ := f
    simp only [toEntries, List.map_cons, ih]

variable {d : Document} {v : Value} {s : String} {as : List α}
variable {encode : α → Value} {decode : Node → Option α}

namespace Document

@[simp] theorem follow_toNode (d : Document) (v : Value) : d.follow v.toNode = some v.toNode := by
  cases v <;> simp only [Value.toNode, Value.scalar, follow]

@[simp] theorem string?_toNode (d : Document) (s : String) :
    d.string? (Value.string s).toNode = some s := by
  rw [string?, follow_toNode]
  simp only [Value.toNode, Option.bind_eq_bind, Option.bind_some, Option.pure_def]

@[simp] theorem variant?_toNode (d : Document) (s : String) :
    d.variant? (Value.string s).toNode = some s := by
  rw [variant?, follow_toNode]
  simp only [Value.toNode, Option.bind_eq_bind, Option.bind_some, Option.map_none, Option.pure_def]

@[simp] theorem bool?_toNode (d : Document) (b : Bool) :
    d.bool? (Value.bool b).toNode = some b := by
  rw [bool?, follow_toNode]
  simp only [Value.toNode, Value.scalar, Option.bind_eq_bind, Option.bind_some]
  cases b <;> rfl

theorem below?_toNode {bound : Nat} (h : n < bound) :
    d.below? bound (Value.natural n).toNode = some n := by
  have hpermits : NodeProps.permits {} .plain "int" = true := rfl
  rw [below?, follow_toNode]
  simp only [Value.toNode, Value.scalar, Option.bind_eq_bind, Option.bind_some, if_pos hpermits,
    Plain.natural?_toString]
  exact Option.filter_some_pos (decide_eq_true h)

theorem isPlainNull_toString (n : Nat) : isPlainNull .plain (toString n) = false := by
  obtain ⟨c, cs, hcons, hdigit, -⟩ := Json.exists_toString_eq_cons n
  have hne (s : String) (hs : s.toList.head?.any Char.isDigit = false) : toString n ≠ s := by
    rintro rfl
    rw [hcons] at hs
    exact absurd (hdigit.symm.trans hs) (by decide)
  have hempty : (toString n).isEmpty = false := by
    rw [← Bool.not_eq_true, String.isEmpty_iff]
    exact hne "" rfl
  have hnull : Plain.isNull (toString n) = false := by
    simp only [Plain.isNull, hne "null" rfl, hne "Null" rfl, hne "NULL" rfl, hne "~" rfl]
    rfl
  rw [isPlainNull, hempty, hnull]
  rfl

theorem isPlainNull_style (s : String) : isPlainNull (Text.style s) s = false := by
  by_cases hnull : (s.isEmpty || Plain.isNull s) = true
  · have hspecial : Plain.isSpecial s = true := by
      simp only [Plain.isSpecial, hnull, Bool.true_or]
    have hstyle : Text.style s ≠ .plain := by
      simp only [Text.style, hspecial, Bool.not_true, Bool.false_and, Bool.false_eq_true, if_false]
      split_ifs <;> simp
    simp [isPlainNull, hstyle]
  · simp [isPlainNull, Bool.eq_false_of_not_eq_true hnull]

@[simp] theorem nullable_null : d.nullable decode Value.null.toNode = some none := by
  rw [nullable, follow_toNode]
  simp only [Value.toNode, Value.scalar, Option.bind_eq_bind, Option.bind_some]
  rfl

theorem nullable_scalar {style : ScalarStyle} (h : isPlainNull style s = false) :
    d.nullable decode (.scalar {} style s) = (decode (.scalar {} style s)).map some := by
  simp only [nullable, follow, Option.bind_eq_bind, Option.bind_some]
  cases style with
  | plain =>
    have htext : (s.isEmpty || Plain.isNull s) = false := by simpa [isPlainNull] using h
    simp only [htext, Option.isNone_none, if_true, Bool.false_eq_true, if_false]
    exact Option.map_eq_bind.symm
  | _ => exact Option.map_eq_bind.symm

theorem nullable_toNode (h : v ≠ .null) :
    d.nullable decode v.toNode = (decode v.toNode).map some := by
  cases v with
  | null => exact absurd rfl h
  | bool b =>
    simp only [Value.toNode, Value.scalar]
    cases b <;> exact nullable_scalar rfl
  | natural n =>
    simp only [Value.toNode, Value.scalar]
    exact nullable_scalar (isPlainNull_toString n)
  | string s =>
    simp only [Value.toNode]
    exact nullable_scalar (isPlainNull_style s)
  | list items =>
    simp only [nullable, Value.toNode, follow, Option.bind_eq_bind, Option.bind_some]
    exact Option.map_eq_bind.symm
  | record fields =>
    simp only [nullable, Value.toNode, follow, Option.bind_eq_bind, Option.bind_some]
    exact Option.map_eq_bind.symm

theorem list?_toNode (h : ∀ a ∈ as, decode (encode a).toNode = some a) :
    d.list? decode (Value.list (as.map encode)).toNode = some as := by
  have hitems : ((as.map encode).map Value.toNode).mapM decode = some as := by
    have hmap := mapM_of_forall h
    rw [List.map_id'] at hmap
    rw [List.map_map, List.mapM_map]
    exact hmap
  rw [list?, follow_toNode]
  simp only [Value.toNode, Option.bind_eq_bind, Option.bind_some, Value.toNodes_eq_map, hitems]

theorem list?_string_toNode (d : Document) (texts : List String) :
    d.list? d.string? (Value.list (texts.map .string)).toNode = some texts :=
  list?_toNode fun s _ ↦ string?_toNode d s

end Document

variable {fields : List (String × Value)} {table : List (String × Option Value)}
variable {names : List String} {name : String} {o : Option Value}

def present (table : List (String × Option Value)) : List (String × Value) :=
  table.filterMap fun (name, o) ↦ o.map (name, ·)

def presentNodes (table : List (String × Option Value)) : List (String × Node) :=
  (present table).map fun f ↦ (f.1, f.2.toNode)

theorem present_eq_filterMap_id (table : List (String × Option Value)) :
    present table = (table.map fun f ↦ f.2.map (f.1, ·)).filterMap id := by
  rw [List.filterMap_map]
  rfl

theorem map_fst_present_sublist (table : List (String × Option Value)) :
    ((present table).map (·.1)).Sublist (table.map (·.1)) := by
  induction table with
  | nil => exact .refl []
  | cons entry table ih =>
    obtain ⟨name, _ | v⟩ := entry
    · exact ih.cons name
    · exact ih.cons_cons name

theorem lookup_present_of_notMem (h : name ∉ table.map (·.1)) :
    (present table).lookup name = none := by
  refine List.lookup_eq_none_iff.mpr fun f hf ↦ bne_iff_ne.mpr ?_
  rintro rfl
  exact h ((map_fst_present_sublist table).subset (List.mem_map_of_mem hf))

theorem lookup_present (hn : (table.map (·.1)).Nodup) (h : (name, o) ∈ table) :
    (present table).lookup name = o := by
  induction table with
  | nil => cases h
  | cons entry table ih =>
    obtain ⟨hnew, hrest⟩ := List.nodup_cons.mp hn
    obtain heq | hmem := List.mem_cons.mp h
    · subst heq
      cases o with
      | none =>
        have hskip : present ((name, none) :: table) = present table := rfl
        rw [hskip]
        exact lookup_present_of_notMem hnew
      | some v => exact List.lookup_cons_self
    · have hname : name ∈ table.map (·.1) := List.mem_map_of_mem hmem
      obtain ⟨other, _ | v⟩ := entry
      · exact ih hrest hmem
      · have hne : (name == other) = false := beq_false_of_ne fun heq ↦ hnew (heq ▸ hname)
        have hskip : (present ((other, some v) :: table)).lookup name =
            (present table).lookup name := by
          simp [present, List.lookup_cons, hne]
        rw [hskip, ih hrest hmem]

theorem lookup_presentNodes (hn : (table.map (·.1)).Nodup) (h : (name, o) ∈ table) :
    (presentNodes table).lookup name = o.map Value.toNode := by
  have hlookup (fields : List (String × Value)) :
      (fields.map fun f ↦ (f.1, f.2.toNode)).lookup name =
        (fields.lookup name).map Value.toNode := by
    induction fields with
    | nil => rfl
    | cons f fields ih =>
      obtain ⟨other, v⟩ := f
      rw [List.map_cons, List.lookup_cons, List.lookup_cons, ih]
      cases name == other <;> rfl
  rw [presentNodes, hlookup, lookup_present hn h]

namespace Document

theorem fields?_toNode (hnames : ∀ f ∈ fields, f.1 ∈ names) (hn : (fields.map (·.1)).Nodup) :
    d.fields? names (Value.record fields).toNode =
      some (fields.map fun f ↦ (f.1, f.2.toNode)) := by
  have hentries : (fields.map fun f ↦ ((Value.string f.1).toNode, f.2.toNode)).mapM
      (fun entry ↦ (d.string? entry.1).bind fun name ↦ pure (name, entry.2)) =
      some (fields.map fun f ↦ (f.1, f.2.toNode)) := by
    rw [List.mapM_map]
    exact mapM_of_forall fun f _ ↦ by simp
  have hall : (fields.map fun f ↦ (f.1, f.2.toNode)).all (fun f ↦ names.contains f.1) = true := by
    simpa using hnames
  have hdups : ((fields.map fun f ↦ (f.1, f.2.toNode)).map (·.1)).eraseDups.length =
      (fields.map fun f ↦ (f.1, f.2.toNode)).length := by
    have hfst : (fields.map fun f ↦ (f.1, f.2.toNode)).map (·.1) = fields.map (·.1) :=
      List.map_map ..
    rw [hfst, Json.eraseDups_of_nodup hn, List.length_map, List.length_map]
  rw [fields?, follow_toNode]
  simp only [Value.toNode.eq_6, Value.toEntries_eq_map, Option.bind_eq_bind, Option.bind_some]
  rw [hentries]
  simp only [Option.bind_some, hall, hdups]
  rfl

/-- A record that is written with those fields of a table that have a value is read as them. -/
theorem fields?_present (h : table.map (·.1) = names) (hn : names.Nodup) :
    d.fields? names (Value.record (present table)).toNode = some (presentNodes table) := by
  have hsub := map_fst_present_sublist table
  rw [h] at hsub
  apply fields?_toNode
  · intro f hf
    exact hsub.subset (List.mem_map_of_mem hf)
  · exact hsub.nodup hn

theorem optional_present (hn : (table.map (·.1)).Nodup) (h : (name, o) ∈ table) (absent : α)
    (decode : Node → Option α) :
    optional (presentNodes table) name absent decode =
      (o.map fun v ↦ decode v.toNode).getD (some absent) := by
  rw [optional, lookup_presentNodes hn h]
  cases o <;> rfl

theorem optional_nullable_present {a : Option α} (hn : (table.map (·.1)).Nodup)
    (h : (name, a.map encode) ∈ table) (hnull : ∀ b, encode b ≠ .null)
    (hdecode : ∀ b ∈ a, decode (encode b).toNode = some b) :
    optional (presentNodes table) name none (d.nullable decode) = some a := by
  rw [optional_present hn h]
  cases a with
  | none => rfl
  | some b =>
    rw [Option.map_some, Option.map_some, Option.getD_some, nullable_toNode (hnull b),
      hdecode b rfl, Option.map_some]

end Document

end TaintFlow.Yaml
