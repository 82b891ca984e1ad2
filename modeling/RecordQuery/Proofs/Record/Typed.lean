import RecordQuery.Proofs.Fields
import RecordQuery.Record.Wire

namespace RecordQuery

/-- The schema declares the field, and as one kind only. -/
structure Schema.Typed (schema : Schema) (field : String) (kind : FieldKind) : Prop where
  declared : (field, kind) ∈ schema.fields
  only : ∀ another, (field, another) ∈ schema.fields → another = kind

namespace Schema.Typed

variable {schema : Schema} {field : String} {kind : FieldKind}

theorem kind? (h : schema.Typed field kind) : schema.kind? field = some kind := by
  cases hfound : schema.kind? field with
  | none =>
    have hnone := List.lookup_eq_none_iff.1 hfound (field, kind) h.declared
    simp at hnone
  | some another =>
    obtain ⟨before, after, hfields, -⟩ := List.lookup_eq_some_iff.1 hfound
    have hmem : (field, another) ∈ schema.fields := by simp [hfields]
    rw [h.only another hmem]

theorem get?_hydrate (h : schema.Typed field kind) {row : Row} {j : Json}
    (hrow : Fields.find? row field = some j) :
    (Record.hydrate schema row).get? field = some (kind.value j) := by
  refine FieldMap.find?_ofList ?_ ?_
  · intro e he hname
    obtain ⟨⟨name, another⟩, hfield, he⟩ := List.mem_filterMap.1 he
    obtain ⟨found, hfound, rfl⟩ := Option.map_eq_some_iff.1 he
    obtain rfl : name = field := hname
    obtain rfl := h.only another hfield
    obtain rfl := Option.some.inj (hfound.symm.trans hrow)
    rfl
  · refine List.mem_map.2 ⟨(field, kind.value j), List.mem_filterMap.2 ?_, rfl⟩
    refine ⟨(field, kind), h.declared, ?_⟩
    dsimp only
    rw [hrow]
    rfl

end Schema.Typed

end RecordQuery
