import SupportProxy.Keydb.Record
import Mathlib.Tactic.SplitIfs

/-! # What an update leaves alone

The members of `struct KeyEntry` tile its 168 bytes. An update preserves a record outside of
the members it names when it keeps the other members and the bytes of a newer schema. -/

namespace SupportProxy.Keydb

open ByteLayout

/-- The record, zero-extended to the size of the struct. -/
def widened (data : List UInt8) : List UInt8 := data ++ List.replicate (entrySize - data.length) 0

/-- Only bytes of these members change, in the record zero-extended. -/
structure Preserves (names : List Field) (before after : List UInt8) : Prop where
  length : after.length = max entrySize before.length
  same : ∀ index, (∀ field ∈ names, index < field.offset ∨ field.offset + field.width ≤ index) →
    after[index]? = (widened before)[index]?

namespace Field

/-- Every field lies inside of the record. -/
theorem inside_all : ∀ field ∈ all, field.offset + field.width ≤ entrySize := by decide

/-- No two fields share a byte. -/
theorem apart_all : ∀ field ∈ all, ∀ other ∈ all, field ≠ other →
    field.offset + field.width ≤ other.offset ∨ other.offset + other.width ≤ field.offset := by
  decide

private theorem exists_covering {index : Nat} (inside : index < entrySize) :
    ∃ field ∈ all, field.offset ≤ index ∧ index < field.offset + field.width := by
  simp only [all, List.mem_cons, List.not_mem_nil, or_false, exists_eq_or_imp, exists_eq_left,
    magic, timestamp, secretKey, port1, connections, count1, count2, name, flags,
    logRetentionDays, fcSysid, reserved]
  rw [entrySize] at inside
  omega

@[simp] theorem bytes_length {field : Field} (member : field ∈ all) (data : List UInt8) :
    (field.bytes data).length = field.width :=
  slice_length (by rw [extend_length]; exact inside_all field member)

private theorem bytes_getElem? {field : Field} {index : Nat} (data : List UInt8)
    (from_ : field.offset ≤ index) (below : index < field.offset + field.width) :
    (field.bytes data)[index - field.offset]? = (extend entrySize data)[index]? :=
  slice_getElem? _ from_ below

end Field

private theorem widened_eq (data : List UInt8) :
    widened data = extend entrySize data ++ data.drop entrySize := by
  rw [widened, extend]
  by_cases short : data.length ≤ entrySize
  · rw [List.take_of_length_le short, List.drop_eq_nil_of_le short, List.append_nil]
  · have none_missing : entrySize - data.length = 0 := by omega
    rw [none_missing, List.replicate_zero, List.append_nil, List.append_nil,
      List.take_append_drop]

private theorem widened_of_big {data : List UInt8} (big : entrySize ≤ data.length) :
    widened data = data := by
  rw [widened, Nat.sub_eq_zero_of_le big, List.replicate_zero, List.append_nil]

/-- Member by member. -/
theorem preserves_iff {names : List Field} (known : names ⊆ Field.all)
    {before after : List UInt8} (length : after.length = max entrySize before.length) :
    Preserves names before after ↔ after.drop entrySize = before.drop entrySize ∧
      ∀ field ∈ Field.all, field ∉ names → field.bytes after = field.bytes before := by
  have same_after : widened after = after := widened_of_big (by omega)
  have front : ∀ (data : List UInt8) (index : Nat), index < entrySize →
      (widened data)[index]? = (extend entrySize data)[index]? := by
    intro data index inside
    rw [widened_eq, List.getElem?_append_left (by rw [extend_length]; exact inside)]
  have back : ∀ (data : List UInt8) (index : Nat), entrySize ≤ index →
      (widened data)[index]? = (data.drop entrySize)[index - entrySize]? := by
    intro data index behind
    rw [widened_eq, List.getElem?_append_right (by rw [extend_length]; exact behind),
      extend_length]
  constructor
  · intro preserves
    refine ⟨?_, ?_⟩
    · apply List.ext_getElem?
      intro index
      have kept := preserves.same (entrySize + index) fun field member =>
        .inr ((Field.inside_all field (known member)).trans (Nat.le_add_right _ _))
      rw [← same_after, back _ _ (Nat.le_add_right _ _), back _ _ (Nat.le_add_right _ _),
        Nat.add_sub_cancel_left] at kept
      exact kept
    · intro field member unnamed
      apply slice_congr
      intro index from_ below
      have inside := Field.inside_all field member
      rw [← front after index (by omega), ← front before index (by omega), same_after]
      refine preserves.same index fun other named => ?_
      have different : field ≠ other := by
        rintro rfl
        exact unnamed named
      have apart := Field.apart_all field member other (known named) different
      omega
  · rintro ⟨tails, fields⟩
    refine ⟨length, ?_⟩
    intro index outside
    rw [← same_after]
    by_cases inside : index < entrySize
    · obtain ⟨field, member, from_, below⟩ := Field.exists_covering inside
      have unnamed : field ∉ names := by
        intro named
        have away := outside field named
        omega
      rw [front after index inside, front before index inside,
        ← Field.bytes_getElem? after from_ below, ← Field.bytes_getElem? before from_ below,
        fields field member unnamed]
    · rw [back after index (by omega), back before index (by omega), tails]

end SupportProxy.Keydb
