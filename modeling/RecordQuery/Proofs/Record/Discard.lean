import RecordQuery.Proofs.Fields
import RecordQuery.Record.Wire

namespace RecordQuery

/-- What a changed field is after its change has been taken back. -/
def Value.restored (before : Value) : Option Value := if before.isNull then none else some before

namespace Record

/-- The value of a field before it was changed. -/
def before (r : Record) (name : String) : Value := (r.original.find? name).getD (r.value name)

def setAll (r : Record) (sets : List (String × Value)) : Record :=
  sets.foldl (fun r e => r.set e.1 e.2) r

variable {r : Record}

theorem get?_set (r : Record) (field : String) (v : Value) (name : String) :
    (r.set field v).get? name = if name = field then some v else r.get? name :=
  FieldMap.find?_insert r.attributes field v name

theorem find?_original_set (r : Record) (field : String) (v : Value) (name : String) :
    (r.set field v).original.find? name =
      if name = field then some (r.before field) else r.original.find? name := by
  unfold set before FieldMap.contains
  dsimp only
  cases hfound : r.original.find? field with
  | none =>
    rw [if_neg (by simp), FieldMap.find?_insert]
    rfl
  | some v₀ =>
    rw [if_pos Option.isSome_some]
    by_cases hname : name = field
    · rw [if_pos hname, hname, hfound]
      rfl
    · rw [if_neg hname]

/-- A set field is changed, and no other becomes so. -/
theorem contains_original_set (r : Record) (field : String) (v : Value) (name : String) :
    (r.set field v).original.contains name ↔ name = field ∨ r.original.contains name := by
  unfold FieldMap.contains
  rw [find?_original_set]
  by_cases hname : name = field <;> simp [hname]

/-- Setting a field leaves what every field was before. -/
theorem before_set (r : Record) (field : String) (v : Value) (name : String) :
    (r.set field v).before name = r.before name := by
  have hvalue (hname : name ≠ field) : (r.set field v).value name = r.value name := by
    rw [value, value, get?_set, if_neg hname]
  unfold before
  rw [find?_original_set]
  by_cases hname : name = field
  · rw [if_pos hname, hname]
    rfl
  · rw [if_neg hname, hvalue hname]

theorem setAll_cons (r : Record) (e : String × Value) (sets : List (String × Value)) :
    r.setAll (e :: sets) = (r.set e.1 e.2).setAll sets := rfl

theorem object_setAll (r : Record) (sets : List (String × Value)) :
    (r.setAll sets).object = r.object := by
  induction sets generalizing r with
  | nil => rfl
  | cons e sets ih => exact ih (r.set e.1 e.2)

theorem relations_setAll (r : Record) (sets : List (String × Value)) :
    (r.setAll sets).relations = r.relations := by
  induction sets generalizing r with
  | nil => rfl
  | cons e sets ih => exact ih (r.set e.1 e.2)

theorem before_setAll (r : Record) (sets : List (String × Value)) (name : String) :
    (r.setAll sets).before name = r.before name := by
  induction sets generalizing r with
  | nil => rfl
  | cons e sets ih => rw [setAll_cons, ih, before_set]

theorem contains_original_setAll (r : Record) (sets : List (String × Value)) (name : String) :
    (r.setAll sets).original.contains name ↔
      name ∈ sets.map (·.1) ∨ r.original.contains name := by
  induction sets generalizing r with
  | nil => simp [setAll]
  | cons e sets ih =>
    rw [setAll_cons, ih, contains_original_set, List.map_cons, List.mem_cons]
    tauto

theorem get?_setAll_of_not_mem (r : Record) {sets : List (String × Value)} {name : String}
    (h : name ∉ sets.map (·.1)) : (r.setAll sets).get? name = r.get? name := by
  induction sets generalizing r with
  | nil => rfl
  | cons e sets ih =>
    rw [List.map_cons, List.mem_cons, not_or] at h
    rw [setAll_cons, ih (r.set e.1 e.2) h.2, get?_set, if_neg h.1]

/-- Each changed field is restored once, and no other field is touched. -/
theorem find?_foldl_restore {entries : List (String × Value)} (h : Fields.InOrder entries)
    (fields : FieldMap Value) (name : String) :
    (entries.foldl (fun fields (field, before) =>
        if before.isNull then fields.erase field else fields.insert field before) fields).find?
        name =
      match Fields.find? entries name with
      | none => fields.find? name
      | some before => before.restored := by
  induction entries generalizing fields with
  | nil => rfl
  | cons e entries ih =>
    obtain ⟨field, before⟩ := e
    obtain ⟨hfirst, hrest⟩ := List.pairwise_cons.1 h
    rw [List.foldl_cons, ih hrest, Fields.find?_cons]
    by_cases hname : name = field
    · -- The names rise, so that the field is not among those that follow.
      have hnone : Fields.find? entries name = none := by
        rw [hname]
        exact Fields.find?_eq_none_of_lt hfirst
      rw [hnone, if_pos hname]
      dsimp only
      unfold Value.restored
      cases before.isNull with
      | true => simp [FieldMap.find?_erase, hname]
      | false => simp [FieldMap.find?_insert, hname]
    · rw [if_neg hname]
      have hsame : (if before.isNull then fields.erase field
          else fields.insert field before).find? name = fields.find? name := by
        cases before.isNull with
        | true => simp [FieldMap.find?_erase, hname]
        | false => simp [FieldMap.find?_insert, hname]
      rw [hsame]

theorem get?_discardChanges (r : Record) (name : String) :
    r.discardChanges.get? name =
      if r.original.contains name then (r.before name).restored else r.get? name := by
  have hfold := find?_foldl_restore r.original.inOrder r.attributes name
  have hget : r.discardChanges.get? name = _ := hfold
  rw [hget]
  unfold FieldMap.contains before
  change (match r.original.find? name with
    | none => r.attributes.find? name
    | some before => before.restored) = _
  cases r.original.find? name <;> rfl

/-- Whatever was changed before, setting fields and taking the changes back restores the changed
fields, those changed before included. -/
theorem get?_discardChanges_setAll (r : Record) (sets : List (String × Value)) (name : String) :
    (r.setAll sets).discardChanges.get? name =
      if name ∈ sets.map (·.1) ∨ r.original.contains name then (r.before name).restored
      else r.get? name := by
  rw [get?_discardChanges, before_setAll]
  by_cases hchanged : name ∈ sets.map (·.1) ∨ r.original.contains name
  · rw [if_pos hchanged, if_pos ((contains_original_setAll r sets name).2 hchanged)]
  · have hnot : name ∉ sets.map (·.1) := fun hmem => hchanged (.inl hmem)
    rw [if_neg hchanged, if_neg (mt (contains_original_setAll r sets name).1 hchanged),
      get?_setAll_of_not_mem r hnot]

theorem isNull_iff {v : Value} : v.isNull ↔ v = .null := by
  cases v <;> simp [Value.isNull]

theorem before_of_unchanged (hr : r.original = .empty) (name : String) :
    r.before name = r.value name := by
  rw [before, hr]
  rfl

/-- A field that is not null is restored as it is, be it present or absent. -/
theorem restored_value {name : String} (h : r.get? name ≠ some .null) :
    (r.value name).restored = r.get? name := by
  unfold value Value.restored
  cases hget : r.get? name with
  | none => rfl
  | some v =>
    have hv : v ≠ .null := fun heq => h (by rw [hget, heq])
    rw [Option.getD_some, if_neg (mt isNull_iff.1 hv)]

theorem restored_value_of_null {name : String} (h : r.get? name = some .null) :
    (r.value name).restored = none := by
  rw [value, h]
  rfl

theorem value_restored (v : Value) : v.restored.getD .null = v := by
  unfold Value.restored
  by_cases h : v.isNull
  · rw [if_pos h, isNull_iff.1 h]
    rfl
  · rw [if_neg h]
    rfl

theorem eq_of_parts {a b : Record} (hobject : a.object = b.object)
    (hattributes : a.attributes = b.attributes) (horiginal : a.original = b.original)
    (hrelations : a.relations = b.relations) : a = b := by
  cases a
  cases b
  subst hobject hattributes horiginal hrelations
  rfl

/-- Setting fields of a record without changes and taking the changes back gives every field the
value it had, null if it was absent. The record is the one it was if and only if no field that was
set was there and null: a field that was is absent afterwards. -/
theorem discard_setAll (hr : r.original = .empty) (sets : List (String × Value)) :
    let after := (r.setAll sets).discardChanges
    after.object = r.object ∧ after.original = .empty ∧ after.relations = r.relations ∧
    (∀ name, after.value name = r.value name) ∧
    (∀ name ∈ sets.map (·.1), r.get? name = some .null → after.get? name = none) ∧
    (∀ name, ¬(name ∈ sets.map (·.1) ∧ r.get? name = some .null) →
      after.get? name = r.get? name) ∧
    (after = r ↔ ∀ name ∈ sets.map (·.1), r.get? name ≠ some .null) := by
  intro after
  have hget (name : String) : after.get? name =
      if name ∈ sets.map (·.1) then (r.value name).restored else r.get? name := by
    have h := get?_discardChanges_setAll r sets name
    have hnone : ¬r.original.contains name := by simp [hr, FieldMap.contains]
    rw [before_of_unchanged hr] at h
    simpa only [hnone, or_false, Bool.false_eq_true] using h
  have hobject : after.object = r.object := object_setAll r sets
  have hrelations : after.relations = r.relations := relations_setAll r sets
  have hremoved : ∀ name ∈ sets.map (·.1), r.get? name = some .null → after.get? name = none := by
    intro name hname hnull
    rw [hget, if_pos hname, restored_value_of_null hnull]
  have hkept : ∀ name, ¬(name ∈ sets.map (·.1) ∧ r.get? name = some .null) →
      after.get? name = r.get? name := by
    intro name h
    rw [hget]
    by_cases hname : name ∈ sets.map (·.1)
    · rw [if_pos hname, restored_value fun hnull => h ⟨hname, hnull⟩]
    · rw [if_neg hname]
  refine ⟨hobject, rfl, hrelations, ?_, hremoved, hkept, ?_⟩
  · intro name
    rw [value, hget]
    by_cases hname : name ∈ sets.map (·.1)
    · rw [if_pos hname, value_restored]
    · rw [if_neg hname]
      rfl
  · constructor
    · intro hsame name hname hnull
      have hnone := hremoved name hname hnull
      rw [hsame, hnull] at hnone
      exact nomatch hnone
    · intro h
      have hattributes : after.attributes = r.attributes :=
        FieldMap.ext_find? fun name => hkept name fun hnull => h name hnull.1 hnull.2
      exact eq_of_parts hobject hattributes hr.symm hrelations

/-- An account as it was found, without a name. -/
def nameless : Record :=
  hydrate ⟨"Account", [("Name", .text), ("Type", .text)]⟩ [("Name", .null), ("Type", .text "Bank")]

theorem get?_nameless : nameless.get? "Name" = some .null := rfl

/-- A type, a name and a rating are set, and the type is set again. -/
def renamed : List (String × Value) :=
  [("Type", .text "Fund"), ("Name", .text "Acme"), ("Rating", .int 1), ("Type", .null)]

/-- The type is what it was, the rating is absent again, and the name, which was null, is gone. -/
theorem discarded_nameless :
    nameless.original = .empty ∧
    let after := (nameless.setAll renamed).discardChanges
    after.get? "Type" = some (.text "Bank") ∧ after.get? "Rating" = none ∧
      after.get? "Name" = none ∧ after ≠ nameless := by
  have hfresh : nameless.original = .empty := rfl
  obtain ⟨-, -, -, -, hremoved, hkept, hsame⟩ := discard_setAll hfresh renamed
  have hname : "Name" ∈ renamed.map (·.1) := by decide
  refine ⟨hfresh, hkept "Type" ?_, hkept "Rating" ?_, hremoved "Name" hname get?_nameless, ?_⟩
  · intro h
    have htype : nameless.get? "Type" = some (.text "Bank") := rfl
    rw [htype] at h
    exact nomatch h.2
  · intro h
    have hrating : nameless.get? "Rating" = none := rfl
    rw [hrating] at h
    exact nomatch h.2
  · intro h
    exact hsame.1 h "Name" hname get?_nameless

theorem not_restored_null :
    ¬∀ (r : Record) (sets : List (String × Value)), r.original = .empty →
      (r.setAll sets).discardChanges = r := by
  intro h
  have hsame := h nameless [("Name", .text "Acme")] rfl
  have hnone : ((nameless.setAll [("Name", .text "Acme")]).discardChanges).get? "Name" = none := rfl
  rw [hsame, get?_nameless] at hnone
  exact nomatch hnone

end Record

end RecordQuery
