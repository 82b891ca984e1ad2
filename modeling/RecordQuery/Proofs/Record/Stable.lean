import RecordQuery.Proofs.Calendar.Instants
import RecordQuery.Proofs.Record.Discard
import RecordQuery.Proofs.Value.Same

namespace RecordQuery

open Calendar

namespace Json

theorem Number.ofJson_held {n : Number} (h : n.Finite) :
    Value.ofJson n.held = Value.ofNumber n := by
  have hreal {f : Float} (hf : f.isFinite = true) :
      Value.ofJson (Value.floatJson f) = .float f := by
    rw [Value.floatJson, if_pos hf]
    rfl
  cases n with
  | real f => exact hreal h
  | int i =>
    rw [Number.held, Value.ofNumber]
    split
    next hword =>
      rw [Value.ofJson, Value.ofNumber, if_pos hword]
    next => exact hreal (Decimal.isFinite_toFloat _)

mutual

theorem ofJson_held : ∀ {j : Json}, j.Finite → Value.ofJson j.held = Value.ofJson j
  | .null, _ | .bool _, _ | .text _, _ | .object _, _ => rfl
  | .number _, h => Number.ofJson_held h
  | .array _, h => congrArg Value.list (ofItems_allHeld h)

theorem ofItems_allHeld : ∀ {items : List Json}, AllFinite items →
    Value.ofItems (allHeld items) = Value.ofItems items
  | [], _ => rfl
  | _ :: _, h => by
    rw [allHeld, Value.ofItems, Value.ofItems, ofJson_held h.1, ofItems_allHeld h.2]

end

theorem floatJson_ne_text (f : Float) (s : String) : Value.floatJson f ≠ .text s := by
  unfold Value.floatJson
  split <;> exact nofun

/-- Only a text comes back as a text. -/
theorem held_ne_text {j : Json} (h : ∀ s, j ≠ .text s) (s : String) : j.held ≠ .text s := by
  cases j with
  | text t => exact absurd rfl (h t)
  | number n =>
    cases n with
    | real f => exact floatJson_ne_text f s
    | int i =>
      rw [held, Number.held]
      split
      · intro htext
        cases htext
      · exact floatJson_ne_text _ s
  | null | bool | array | object =>
    intro htext
    cases htext

theorem finite_of_find? {row : Row} (h : MembersFinite row) {name : String} {j : Json}
    (hfound : Fields.find? row name = some j) : j.Finite := by
  induction row with
  | nil => exact nomatch hfound
  | cons e row ih =>
    obtain ⟨key, first⟩ := e
    rw [Fields.find?_cons] at hfound
    split at hfound
    next =>
      obtain rfl := Option.some.inj hfound
      exact h.1
    next => exact ih h.2 hfound

mutual

theorem definite_ofJson : ∀ {j : Json}, j.Finite → (Value.ofJson j).Definite
  | .null, _ | .bool _, _ | .text _, _ => trivial
  | .object _, h => h
  | .number (.real _), h => Decimal.ne_nan_of_isFinite h
  | .number (.int i), _ => by
    rw [Value.ofJson, Value.ofNumber]
    split
    · trivial
    · exact Decimal.ne_nan_of_isFinite (Decimal.isFinite_toFloat _)
  | .array _, h => definite_ofItems h

theorem definite_ofItems : ∀ {items : List Json}, AllFinite items →
    Value.AllDefinite (Value.ofItems items)
  | [], _ => trivial
  | _ :: _, h => ⟨definite_ofJson h.1, definite_ofItems h.2⟩

end

end Json

namespace FieldKind

theorem value_of_not_text (kind : FieldKind) {j : Json} (h : ∀ s, j ≠ .text s) :
    kind.value j = .ofJson j := by
  unfold value
  split
  next => exact absurd rfl (h _)
  next => exact absurd rfl (h _)
  next => rfl

theorem value_toJson_text (kind : FieldKind) (s : String) :
    kind.value (kind.value (.text s)).toJson = kind.value (.text s) := by
  cases kind with
  | boolean | text | other => rfl
  | date =>
    have hvalue (s : String) :
        FieldKind.value .date (.text s) = (Date.ofText? s).elim (.text s) .date := rfl
    rw [hvalue]
    cases hday : Date.ofText? s with
    | none => rw [Option.elim_none, Value.toJson, hvalue, hday, Option.elim_none]
    | some d =>
      rw [Option.elim_some, Value.toJson, hvalue, Date.ofText?_text, Option.elim_some]
  | dateTime =>
    have hvalue (s : String) :
        FieldKind.value .dateTime (.text s) = (DateTime.ofTimestamp? s).elim (.text s) .instant :=
      rfl
    rw [hvalue]
    cases htime : DateTime.ofTimestamp? s with
    | none => rw [Option.elim_none, Value.toJson, hvalue, htime, Option.elim_none]
    | some t =>
      rw [Option.elim_some, Value.toJson, hvalue, DateTime.ofTimestamp?_textWith, Option.elim_some]

/-- The wire data of a value is read as the value. -/
theorem value_toJson (kind : FieldKind) {j : Json} (h : j.Finite) :
    kind.value (kind.value j).toJson = kind.value j := by
  by_cases htext : ∃ s, j = .text s
  · obtain ⟨s, rfl⟩ := htext
    exact kind.value_toJson_text s
  · have hnot : ∀ s, j ≠ .text s := fun s heq => htext ⟨s, heq⟩
    rw [kind.value_of_not_text hnot, Json.toJson_ofJson,
      kind.value_of_not_text (Json.held_ne_text hnot), Json.ofJson_held h]

theorem definite_value (kind : FieldKind) {j : Json} (h : j.Finite) : (kind.value j).Definite := by
  unfold value
  split
  next s =>
    cases Date.ofText? s <;> trivial
  next s =>
    cases DateTime.ofTimestamp? s <;> trivial
  next => exact Json.definite_ofJson h

end FieldKind

namespace Record

/-- The kind that a row is read with; of several declarations the last counts. -/
def kindRead? (schema : Schema) (name : String) : Option FieldKind :=
  ((schema.fields.filter fun e => e.1 == name).getLast?).map (·.2)

theorem get?_hydrate (schema : Schema) (row : Row) (name : String) :
    (hydrate schema row).get? name =
      (kindRead? schema name).bind fun kind => (Fields.find? row name).map kind.value := by
  have hfields (fields : List (String × FieldKind)) :
      (fields.filterMap fun e =>
        (Fields.find? row e.1).map fun j => (e.1, e.2.value j)).filter (·.1 == name) =
      (fields.filter (·.1 == name)).filterMap fun e =>
        (Fields.find? row name).map fun j => (name, e.2.value j) := by
    rw [List.filter_filterMap, List.filterMap_filter]
    apply List.filterMap_congr
    rintro ⟨field, kind⟩ -
    dsimp only
    by_cases hname : field = name
    · subst hname
      cases Fields.find? row field <;> simp
    · cases Fields.find? row field <;> simp [hname]
  have hget : (hydrate schema row).get? name =
      (((schema.fields.filterMap fun e =>
        (Fields.find? row e.1).map fun j => (e.1, e.2.value j)).filter
          (·.1 == name)).getLast?).map (·.2) :=
    FieldMap.find?_ofList_eq_getLast? _ name
  rw [hget, hfields, kindRead?]
  cases Fields.find? row name with
  | none => simp
  | some j =>
    simp only [Option.map_some, List.filterMap_eq_map', List.getLast?_map, Option.map_map]
    cases (schema.fields.filter (·.1 == name)).getLast? <;> rfl

/-- The members of the wire data of a record without relations. -/
theorem toJson_hydrate (schema : Schema) (row : Row) :
    (hydrate schema row).toJson =
      .object ((hydrate schema row).attributes.entries.map fun e => (e.1, e.2.toJson)) := by
  have hparts (object : String) (attributes original : FieldMap Value) :
      (Record.mk object attributes original []).toJson =
        .object (attributes.entries.map fun e => (e.1, e.2.toJson)) := by
    rw [toJson, relationMembers]
    rfl
  exact hparts _ _ _

theorem definite_hydrate (schema : Schema) {row : Row} (h : (Json.object row).Finite) :
    ∀ e ∈ (hydrate schema row).attributes.entries, e.2.Definite := by
  intro e he
  have hfound : (hydrate schema row).get? e.1 = some e.2 :=
    Fields.find?_of_mem (hydrate schema row).attributes.inOrder he
  rw [get?_hydrate] at hfound
  obtain ⟨kind, -, hkind⟩ := Option.bind_eq_some_iff.1 hfound
  obtain ⟨j, hrow, hvalue⟩ := Option.map_eq_some_iff.1 hkind
  rw [← hvalue]
  exact kind.definite_value (Json.finite_of_find? h hrow)

theorem beq_self {r : Record} (hdefinite : ∀ e ∈ r.attributes.entries, e.2.Definite)
    (hunchanged : r.original = .empty) (hbare : r.relations = []) : (r == r) = true := by
  have hentries {entries : List (String × Value)} (h : ∀ e ∈ entries, e.2.Definite) :
      (entries == entries) = true := by
    induction entries with
    | nil => rfl
    | cons e entries ih =>
      have hself : (e == e) = true := by
        change (e.1 == e.1 && e.2 == e.2) = true
        rw [BEq.rfl, Value.beq_self (h e List.mem_cons_self)]
        rfl
      rw [List.cons_beq_cons, hself, ih fun e he => h e (List.mem_cons_of_mem _ he)]
      rfl
  obtain ⟨object, attributes, original, relations⟩ := r
  obtain rfl : original = .empty := hunchanged
  obtain rfl : relations = [] := hbare
  have hattributes : (attributes == attributes) = true := hentries hdefinite
  change same _ _ = true
  rw [same, sameRelations, BEq.rfl, hattributes]
  rfl

/-- A record that is read from its own wire data is the same record. -/
theorem hydrate_toJson (schema : Schema) {row : Row} (h : (Json.object row).Finite) :
    ∃ again : Row, (hydrate schema row).toJson = .object again ∧
      (∀ name, Fields.find? again name = ((hydrate schema row).get? name).map Value.toJson) ∧
      hydrate schema again = hydrate schema row ∧
      (hydrate schema again == hydrate schema row) = true := by
  have hfind (name : String) :
      Fields.find? ((hydrate schema row).attributes.entries.map fun e => (e.1, e.2.toJson)) name =
        ((hydrate schema row).get? name).map Value.toJson :=
    Fields.find?_map (fun e : String × Value => e.2.toJson) _ name
  refine ⟨_, toJson_hydrate schema row, hfind, ?_⟩
  generalize (hydrate schema row).attributes.entries.map (fun e => (e.1, e.2.toJson)) = again
    at hfind
  have hget (name : String) :
      (hydrate schema again).get? name = (hydrate schema row).get? name := by
    rw [get?_hydrate, hfind, get?_hydrate]
    cases kindRead? schema name with
    | none => rfl
    | some kind =>
      cases hrow : Fields.find? row name with
      | none => rfl
      | some j => exact congrArg some (kind.value_toJson (Json.finite_of_find? h hrow))
  have hsame : hydrate schema again = hydrate schema row :=
    eq_of_parts rfl (FieldMap.ext_find? hget) rfl rfl
  rw [hsame]
  exact ⟨rfl, beq_self (definite_hydrate schema h) rfl rfl⟩

/-- A field of moments, one of days that is declared again, and one of numbers. -/
def stamped : Schema :=
  ⟨"Account", [("Due", .text), ("Due", .date), ("Serial", .other), ("Stamp", .dateTime)]⟩

/-- A leap second of a far year, no day, and a number beyond the signed words. -/
def stampedRow : Row :=
  [("Due", .text "someday"), ("Serial", .number (.int ⟨18446744073709551615, by decide⟩)),
    ("Stamp", .text "+12345-07-01T00:29:60.123456789+0030"), ("Type", .text "Bank")]

/-- The leap second is written in UTC. -/
theorem stamped_again :
    (Json.object stampedRow).Finite ∧
    ∃ again : Row, (hydrate stamped stampedRow).toJson = .object again ∧
      Fields.find? again "Due" = some (.text "someday") ∧
      Fields.find? again "Stamp" = some (.text "+12345-06-30T23:59:60.123456789+00:00") ∧
      hydrate stamped again = hydrate stamped stampedRow := by
  have hfinite : (Json.object stampedRow).Finite := ⟨trivial, trivial, trivial, trivial, trivial⟩
  obtain ⟨again, hagain, hmembers, hsame, -⟩ := hydrate_toJson stamped hfinite
  have hdue : Fields.find? again "Due" = some (.text "someday") := (hmembers _).trans rfl
  have hstamp : Fields.find? again "Stamp" =
      some (.text "+12345-06-30T23:59:60.123456789+00:00") := (hmembers _).trans rfl
  exact ⟨hfinite, again, hagain, hdue, hstamp, hsame⟩

end Record

end RecordQuery
