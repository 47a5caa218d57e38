import TaintFlow.Json.Record
import TaintFlow.Proofs.Json.RoundTrip
import Mathlib.Data.List.Nodup

namespace TaintFlow.Json

variable {α β : Type}

/-- What is written is plain, and is read as the value that was written. -/
structure Codec (encode : α → Json) (decode : Json → Option α) : Prop where
  plain : ∀ a, (encode a).Plain
  decode_encode : ∀ a, decode (encode a) = some a

namespace Codec

variable {encode : α → Json} {decode : Json → Option α}

theorem string : Codec .string string? :=
  ⟨.string, fun _ ↦ rfl⟩

theorem bool : Codec .bool bool? :=
  ⟨.bool, fun _ ↦ rfl⟩

theorem uint32 : Codec (fun n : UInt32 ↦ .natural n.toNat) uint32? where
  plain n := .natural _
  decode_encode n := by
    simp [uint32?, below?, n.toNat_lt_size]

theorem uint64 : Codec (fun n : UInt64 ↦ .natural n.toNat) uint64? where
  plain n := .natural _
  decode_encode n := by
    simp [uint64?, below?, n.toNat_lt_size]

theorem wrap (h : Codec encode decode) {unwrap : β → α} {mk : α → β}
    (hmk : ∀ b, mk (unwrap b) = b) :
    Codec (fun b ↦ encode (unwrap b)) (fun j ↦ (decode j).map mk) where
  plain b := h.plain _
  decode_encode b := by
    rw [h.decode_encode, Option.map_some, hmk]

theorem list (h : Codec encode decode) : Codec (ofList encode) (list? decode) where
  plain as := by
    refine .array fun j hj ↦ ?_
    obtain ⟨a, -, rfl⟩ := List.mem_map.mp hj
    exact h.plain a
  decode_encode as := by
    have hitems : (as.map encode).mapM decode = some as := by
      induction as with
      | nil => rfl
      | cons a as ih =>
        rw [List.map_cons, List.mapM_cons, h.decode_encode, ih]
        rfl
    exact hitems

theorem option (h : Codec encode decode) (hnull : ∀ a, encode a ≠ .null) :
    Codec (ofOption encode) (nullable decode) where
  plain a := by
    cases a with
    | none => exact .null
    | some a => exact h.plain a
  decode_encode a := by
    cases a with
    | none => rfl
    | some a =>
      have hsome : nullable decode (encode a) = (decode (encode a)).map some := by
        unfold nullable
        split
        · rename_i heq
          exact absurd heq (hnull a)
        · rfl
      rw [ofOption, hsome, h.decode_encode, Option.map_some]

end Codec

theorem eraseDups_of_nodup [DecidableEq α] {as : List α} (h : as.Nodup) : as.eraseDups = as := by
  induction as with
  | nil => rfl
  | cons a as ih =>
    obtain ⟨hnew, hrest⟩ := List.nodup_cons.mp h
    have hkept : as.filter (fun b ↦ !b == a) = as := by
      refine List.filter_eq_self.mpr fun b hb ↦ ?_
      have hne : b ≠ a := fun heq ↦ hnew (heq ▸ hb)
      simp [hne]
    rw [List.eraseDups_cons, hkept, ih hrest]

variable {members : List (String × Json)} {names : List String} {name other : String} {j : Json}

@[simp] theorem fields?_object (closed : Bool) (h : members.map (·.1) = names) (hn : names.Nodup) :
    fields? names closed (.object members) = some ⟨members, false⟩ := by
  have hknown : members.filter (fun m ↦ names.contains m.1) = members := by
    refine List.filter_eq_self.mpr fun m hm ↦ ?_
    rw [List.contains_iff_mem, ← h]
    exact List.mem_map_of_mem hm
  have hdups : (members.map (·.1)).eraseDups.length = members.length := by
    rw [h, eraseDups_of_nodup hn, ← h, List.length_map]
  simp only [fields?, hknown, hdups]
  simp

namespace Fields

@[simp] theorem get?_cons_self (positional : Bool) :
    (Fields.mk ((name, j) :: members) positional).get? name = some j := by
  simp [get?]

@[simp] theorem get?_cons_of_ne (h : other ≠ name) (positional : Bool) :
    (Fields.mk ((other, j) :: members) positional).get? name =
      (Fields.mk members positional).get? name := by
  simp [get?, h]

end Fields

@[simp] theorem plain_object_iff : (Json.object members).Plain ↔ ∀ m ∈ members, m.2.Plain := by
  constructor
  · intro h
    cases h with
    | object h => exact h
  · exact .object

@[simp] theorem plain_tagged_iff (tag : String) : (tagged tag j).Plain ↔ j.Plain := by
  simp [tagged]

attribute [simp] Plain.null Plain.bool Plain.natural Plain.string

end TaintFlow.Json
