import RecordQuery.Proofs.Calendar.Written
import RecordQuery.Proofs.Query.Literal
import RecordQuery.Proofs.Record.Typed

namespace RecordQuery

open Calendar

/-- A literal without quotes that spells the day, or the moment to the second, of a value. -/
def SpellsMoment (literal : String) : Value → Prop
  | .date d => Text.Stamp literal ∧ Date.ofText? literal = some d
  | .instant t => Text.Stamp literal ∧ DateTime.ofTimestamp? literal = some t.toSecond
  | _ => False

theorem not_stamp_quotedLiteral (s : String) : ¬Text.Stamp (quotedLiteral s) := by
  intro h
  have hquote : '\'' ∈ (quotedLiteral s).toList := by
    rw [quotedLiteral, String.toList_ofList]
    exact List.mem_cons_self
  exact absurd (h '\'' hquote) (by decide)

theorem not_spellsMoment_quotedLiteral (s : String) (v : Value) :
    ¬SpellsMoment (quotedLiteral s) v := by
  intro h
  cases v with
  | date d => exact not_stamp_quotedLiteral s h.1
  | instant t => exact not_stamp_quotedLiteral s h.1
  | _ => exact h

/-- A text that is read into a record as a day is a filter for that day. -/
theorem spells_day {s : String} {day : Date} (h : Date.ofText? s = some day) :
    Moment.ofText s = .ok (.day day) ∧ SpellsMoment (Moment.day day).text (.date day) := by
  constructor
  · unfold Moment.ofText
    dsimp only
    rw [Date.ofText?_trimmed h]
  · exact ⟨Text.Stamp.moment (.day day), Date.ofText?_text day⟩

/-- A text that is read into a record as a moment is a filter for that moment if it is a timestamp
of RFC 3339. -/
theorem spells_timestamp {s : String} {t : DateTime} {z : Zoned}
    (h : DateTime.ofTimestamp? s = some t) (hz : Zoned.ofText? (Text.trimmed s) = some z) :
    Moment.ofText s = .ok (.timestamp z) ∧
      SpellsMoment (Moment.timestamp z).text (.instant t) := by
  obtain ⟨hdate, hsame⟩ := DateTime.ofTimestamp?_trimmed h
  obtain ⟨⟨z', t'⟩, hread, hz'⟩ := Option.map_eq_some_iff.1 hz
  obtain rfl : z' = z := hz'
  obtain rfl : t' = t := hsame _ hread
  constructor
  · unfold Moment.ofText
    dsimp only
    rw [hdate, hz]
  · exact ⟨Text.Stamp.moment (.timestamp z'), DateTime.ofTimestamp?_text hread⟩

theorem not_moment {s : String} {t : DateTime} (h : DateTime.ofTimestamp? s = some t)
    (hz : Zoned.ofText? (Text.trimmed s) = none) : Moment.ofText s = .error (.invalidDate s) := by
  unfold Moment.ofText
  dsimp only
  rw [(DateTime.ofTimestamp?_trimmed h).1, hz]

namespace Schema.Typed

variable {schema : Schema} {field s : String} {kind : FieldKind} {d : Dialect}

/-- What the text of a date field is compared as. -/
theorem literal_text (h : schema.Typed field kind) (hkind : kind = .date ∨ kind = .dateTime)
    (hd : d.schema = some schema) : d.literal field (.text s) =
      match Moment.ofText s with
      | .ok m => m.text
      | .error _ => quotedLiteral s := by
  have hdeclared : d.kind? field = some kind := by
    rw [Dialect.kind?, hd]
    exact h.kind?
  have hliteral := d.literal_text_of_temporal hdeclared hkind s
  cases hmoment : Moment.ofText s with
  | ok m =>
    rw [hmoment] at hliteral
    exact hliteral
  | error fault =>
    rw [hmoment] at hliteral
    exact hliteral

/-- The text of a row that becomes a moment in the record is a filter for the same moment if the
field holds days, or if the text is a timestamp of RFC 3339 between blanks; any other becomes a
quoted text. -/
theorem literal_spells_iff (h : schema.Typed field kind) (hkind : kind = .date ∨ kind = .dateTime)
    (hd : d.schema = some schema) {row : Row} (hrow : Fields.find? row field = some (.text s))
    {v : Value} (hv : (Record.hydrate schema row).get? field = some v)
    (hmoment : (Moment.ofValue? v).isSome) :
    (SpellsMoment (d.literal field (.text s)) v ↔
      kind = .date ∨ (Zoned.ofText? (Text.trimmed s)).isSome) ∧
    (¬SpellsMoment (d.literal field (.text s)) v →
      d.literal field (.text s) = quotedLiteral s) := by
  obtain rfl : kind.value (.text s) = v := Option.some.inj ((h.get?_hydrate hrow).symm.trans hv)
  have hliteral := h.literal_text (s := s) hkind hd
  rcases hkind with rfl | rfl
  · have hvalue : FieldKind.value .date (.text s) = (Date.ofText? s).elim (.text s) .date := rfl
    cases hday : Date.ofText? s with
    | none =>
      rw [hvalue, hday] at hmoment
      exact nomatch hmoment
    | some day =>
      obtain ⟨hread, hspells⟩ := spells_day hday
      rw [hread] at hliteral
      rw [hliteral, hvalue, hday]
      exact ⟨⟨fun _ => .inl rfl, fun _ => hspells⟩, fun hnot => absurd hspells hnot⟩
  · have hvalue : FieldKind.value .dateTime (.text s) =
        (DateTime.ofTimestamp? s).elim (.text s) .instant := rfl
    cases htime : DateTime.ofTimestamp? s with
    | none =>
      rw [hvalue, htime] at hmoment
      exact nomatch hmoment
    | some t =>
      cases hz : Zoned.ofText? (Text.trimmed s) with
      | none =>
        have hquoted := not_spellsMoment_quotedLiteral s (FieldKind.value .dateTime (.text s))
        rw [not_moment htime hz] at hliteral
        rw [hliteral]
        exact ⟨⟨fun hspells => absurd hspells hquoted, by simp⟩, fun _ => rfl⟩
      | some z =>
        obtain ⟨hread, hspells⟩ := spells_timestamp htime hz
        rw [hread] at hliteral
        rw [hliteral, hvalue, htime]
        exact ⟨⟨fun _ => .inr rfl, fun _ => hspells⟩, fun hnot => absurd hspells hnot⟩

end Schema.Typed

def datedAccounts : Schema := ⟨"Account", [("Name", .text), ("CreatedDate", .dateTime)]⟩

theorem typed_datedAccounts : datedAccounts.Typed "CreatedDate" .dateTime := by
  constructor
  · decide
  · intro another h
    simpa [datedAccounts] using h

def createdRow : Row := [("CreatedDate", .text "2024-01-15T10:00:00.000+0000")]

/-- The same row with another spelling of a quarter of a second later. -/
def createdLater : Row := [("CreatedDate", .text "2024-01-15T11:00:00.250+01:00")]

/-- The moment that both rows name to the second. -/
def tenOClock : DateTime :=
  ⟨⟨2024, 1, 15, by decide, by decide, by decide⟩,
    ⟨10, 0, 0, 0, by decide, by decide, by decide, by decide⟩⟩

theorem created_compared :
    (∃ t, (Record.hydrate datedAccounts createdLater).get? "CreatedDate" = some (.instant t) ∧
      t.toSecond = tenOClock ∧
      SpellsMoment (Dialect.literal ⟨some datedAccounts, []⟩ "CreatedDate"
        (.text "2024-01-15T11:00:00.250+01:00")) (.instant t)) ∧
    (Record.hydrate datedAccounts createdRow).get? "CreatedDate" = some (.instant tenOClock) ∧
      Dialect.literal ⟨some datedAccounts, []⟩ "CreatedDate"
        (.text "2024-01-15T10:00:00.000+0000") = "'2024-01-15T10:00:00.000+0000'" := by
  have hlater : Fields.find? createdLater "CreatedDate" =
      some (.text "2024-01-15T11:00:00.250+01:00") := rfl
  have hrow : Fields.find? createdRow "CreatedDate" =
      some (.text "2024-01-15T10:00:00.000+0000") := rfl
  have hrecord : (Record.hydrate datedAccounts createdRow).get? "CreatedDate" =
      some (.instant tenOClock) := typed_datedAccounts.get?_hydrate hrow
  refine ⟨⟨_, typed_datedAccounts.get?_hydrate hlater, rfl, ?_⟩, hrecord, ?_⟩
  · have hspells := typed_datedAccounts.literal_spells_iff (d := ⟨some datedAccounts, []⟩)
      (.inr rfl) rfl hlater (typed_datedAccounts.get?_hydrate hlater) rfl
    exact hspells.1.2 (.inr rfl)
  · have hspells := typed_datedAccounts.literal_spells_iff (d := ⟨some datedAccounts, []⟩)
      (.inr rfl) rfl hrow hrecord rfl
    have hnot : ¬(FieldKind.dateTime = .date ∨
        (Zoned.ofText? (Text.trimmed "2024-01-15T10:00:00.000+0000")).isSome) := by decide
    exact hspells.2 fun h => hnot (hspells.1.1 h)

theorem not_spells_created :
    ¬∀ (schema : Schema) (field : String) (kind : FieldKind) (s : String) (row : Row) (v : Value)
      (d : Dialect), schema.Typed field kind → (kind = .date ∨ kind = .dateTime) →
        d.schema = some schema → Fields.find? row field = some (.text s) →
        (Record.hydrate schema row).get? field = some v → (Moment.ofValue? v).isSome →
        SpellsMoment (d.literal field (.text s)) v := by
  intro h
  have hrow : Fields.find? createdRow "CreatedDate" =
      some (.text "2024-01-15T10:00:00.000+0000") := rfl
  have hspells := h datedAccounts "CreatedDate" .dateTime _ createdRow (.instant tenOClock)
    ⟨some datedAccounts, []⟩ typed_datedAccounts (.inr rfl) rfl hrow
    (typed_datedAccounts.get?_hydrate hrow) rfl
  have hliteral : Dialect.literal ⟨some datedAccounts, []⟩ "CreatedDate"
      (.text "2024-01-15T10:00:00.000+0000") =
        quotedLiteral "2024-01-15T10:00:00.000+0000" := rfl
  rw [hliteral] at hspells
  exact not_spellsMoment_quotedLiteral _ _ hspells

end RecordQuery
