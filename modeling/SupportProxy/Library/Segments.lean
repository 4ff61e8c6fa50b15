import Mathlib.Data.List.Infix
import Mathlib.Data.List.Sublists

/-! # Logs that grow by segments

A log with the newest entry first, and what is known of the entries that an operation adds. A
kind of segment is `Additive` when the empty segment is of the kind and two segments of the kind
are of it together; then operations one after the other grow a log by it. -/

namespace Segments

variable {ε α β : Type*}

/-- Segments of the kind can be put together. -/
structure Additive (kind : List ε → Prop) : Prop where
  nil : kind []
  append : ∀ {late early : List ε}, kind late → kind early → kind (late ++ early)

/-- The log has grown by a segment of the kind. -/
def Grown (kind : List ε → Prop) (before after : List ε) : Prop :=
  ∃ news, after = news ++ before ∧ kind news

namespace Additive

variable {kind other : List ε → Prop}

/-- A property of every entry is additive. -/
theorem forall_mem (holds : ε → Prop) : Additive fun news => ∀ entry ∈ news, holds entry := by
  refine ⟨fun entry member => (List.not_mem_nil member).elim, fun late early entry member => ?_⟩
  rcases List.mem_append.mp member with inLate | inEarly
  · exact late entry inLate
  · exact early entry inEarly

/-- Two readings of a log agree. -/
theorem filterMap_eq (first second : ε → Option α) :
    Additive fun news => news.filterMap first = news.filterMap second := by
  refine ⟨rfl, fun late early => ?_⟩
  rw [List.filterMap_append, List.filterMap_append, late, early]

/-- One reading of a log is part of another, in its order. -/
theorem filterMap_sublist (first second : ε → Option α) :
    Additive fun news => (news.filterMap first).Sublist (news.filterMap second) := by
  refine ⟨List.Sublist.refl [], fun late early => ?_⟩
  rw [List.filterMap_append, List.filterMap_append]
  exact late.append early

end Additive

namespace Grown

variable {kind other : List ε → Prop} {before middle after : List ε}

/-- A log has grown by nothing. -/
theorem refl (additive : Additive kind) (log : List ε) : Grown kind log log :=
  ⟨[], rfl, additive.nil⟩

/-- The same log has grown by nothing. -/
theorem of_eq (additive : Additive kind) (same : after = before) : Grown kind before after :=
  ⟨[], same, additive.nil⟩

/-- Two segments of the kind, one after the other. -/
theorem trans (additive : Additive kind) (first : Grown kind before middle)
    (second : Grown kind middle after) : Grown kind before after := by
  obtain ⟨early, rfl, earlyKind⟩ := first
  obtain ⟨late, rfl, lateKind⟩ := second
  exact ⟨late ++ early, (List.append_assoc ..).symm, additive.append lateKind earlyKind⟩

/-- A segment of the kind is one of every weaker kind. -/
theorem mono (grown : Grown kind before after) (weaker : ∀ news, kind news → other news) :
    Grown other before after := by
  obtain ⟨news, same, isKind⟩ := grown
  exact ⟨news, same, weaker news isKind⟩

end Grown

end Segments
