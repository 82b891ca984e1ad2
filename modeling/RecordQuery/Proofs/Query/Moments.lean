import RecordQuery.Proofs.Calendar.Instants
import RecordQuery.Proofs.Record.Filtered
import RecordQuery.Query.Basic

namespace RecordQuery

open Calendar

/-- A local time of four-digit years and full seconds at an offset of full minutes. -/
structure Calendar.Zoned.Plain (z : Zoned) : Prop where
  year : 0 ≤ z.clock.date.year ∧ z.clock.date.year ≤ 9999
  second : z.clock.time.shownNano = 0
  minutes : ∃ m : Int, m.natAbs < 1440 ∧ z.offset = m * 60

theorem Calendar.Time.toSecond_of_shownNano {t : Time} (h : t.shownNano = 0) :
    t.toSecond = t := by
  have hnano : t.nano / 1000000000 * 1000000000 = t.nano := by
    unfold Time.shownNano at h
    omega
  cases t
  simp only [Time.toSecond, Time.mk.injEq, true_and]
  exact hnano

/-- The text of a plain time is a timestamp of RFC 3339. -/
theorem Calendar.Zoned.Plain.strictTimestamp_text {z : Zoned} (h : z.Plain) :
    ∃ utc, Reader.strictTimestamp.whole z.text = some (z, utc) := by
  obtain ⟨m, hm, hoffset⟩ := h.minutes
  have hyear := h.year
  obtain ⟨utc, hutc⟩ := z.clock.exists_shiftMinutes? (by omega) (-m)
  have hsecond : z.clock.toSecond = z.clock := by
    rw [DateTime.toSecond, Time.toSecond_of_shownNano h.second]
  have hread := Reader.strictTimestamp_text hyear hm hoffset hutc
  rw [hsecond] at hread
  exact ⟨utc.toSecond, hread⟩

namespace Moment

def Plain : Moment → Prop
  | .day _ => True
  | .timestamp z => z.Plain

theorem ofText_text {m : Moment} (h : m.Plain) : ofText m.text = .ok m := by
  cases m with
  | day d => exact (spells_day (Date.ofText?_text d)).1
  | timestamp z =>
    have hplain : z.Plain := h
    obtain ⟨utc, hread⟩ := hplain.strictTimestamp_text
    have hmoment : DateTime.ofTimestamp? z.text = some utc := by
      rw [DateTime.ofTimestamp?, hread]
      rfl
    have htrimmed : Zoned.ofText? (Text.trimmed z.text) = some z := by
      have hwhole := Reader.whole_trimmed Reader.KeepsLead.strictTimestamp
        Reader.EndsSolid.strictTimestamp hread
      rw [Zoned.ofText?, hwhole]
      rfl
    exact (spells_timestamp hmoment htrimmed).1

/-- Values of three kinds are moments. -/
theorem ofValue?_cases {v : Value} {m : Moment} (h : ofValue? v = some m) :
    (∃ d, v = .date d ∧ m = .day d) ∨ ∃ t, (v = .dateTime t ∨ v = .instant t) ∧ m = utc t := by
  cases v with
  | date d => exact .inl ⟨d, rfl, (Option.some.inj h).symm⟩
  | dateTime t => exact .inr ⟨t, .inl rfl, (Option.some.inj h).symm⟩
  | instant t => exact .inr ⟨t, .inr rfl, (Option.some.inj h).symm⟩
  | _ => exact nomatch h

theorem literal_of_ofValue? {v : Value} {m : Moment} (h : ofValue? v = some m) (d : Dialect)
    (field : String) : d.literal field v = m.text := by
  obtain ⟨day, rfl, rfl⟩ | ⟨t, rfl | rfl, rfl⟩ := ofValue?_cases h <;> rfl

theorem comparison_of_ofValue? {v : Value} {m : Moment} (h : ofValue? v = some m) (field : String)
    (op : Operator) : Query.comparison field op v = .moment field op m := by
  obtain ⟨day, rfl, rfl⟩ | ⟨t, rfl | rfl, rfl⟩ := ofValue?_cases h <;> rfl

theorem text?_comparison_text (d : Dialect) (field : String) {op : Operator}
    (hop : op.isComparison) (s : String) :
    Clause.text? d (Query.comparison field op (.text s)) =
      .ok (some (field ++ " " ++ op.text ++ " " ++ d.literal field (.text s))) := by
  have hclause : Query.comparison field op (.text s) = .compare field op (.text s) := rfl
  have hset : ¬(op = .isIn ∨ op = .notIn) := by
    rintro (rfl | rfl)
    · exact nomatch hop
    · exact nomatch hop
  rw [hclause, Clause.text?, if_neg hset]

theorem text?_moment (d : Dialect) (field : String) {op : Operator} (hop : op.isComparison)
    (m : Moment) : Clause.text? d (.moment field op m) =
      .ok (some (field ++ " " ++ op.text ++ " " ++ m.text)) := by
  rw [Clause.text?, if_pos hop]

/-- The literal of a moment is read as the moment. So a condition on a field of days or of moments
is the same whether the moment is given as a value, as itself or by its literal. -/
theorem reads_back {m : Moment} (h : m.Plain) :
    ofText m.text = .ok m ∧
    ∀ (d : Dialect) (field : String),
      d.kind? field = some .date ∨ d.kind? field = some .dateTime →
      d.literal field (.text m.text) = m.text ∧
      (∀ v, ofValue? v = some m → d.literal field v = d.literal field (.text m.text)) ∧
      ∀ op : Operator, op.isComparison →
        Clause.text? d (Query.comparison field op (.text m.text)) =
          Clause.text? d (.moment field op m) ∧
        ∀ v, ofValue? v = some m → Clause.text? d (Query.comparison field op v) =
          Clause.text? d (Query.comparison field op (.text m.text)) := by
  have hread := ofText_text h
  refine ⟨hread, ?_⟩
  intro d field hkind
  have hliteral : d.literal field (.text m.text) = m.text := by
    rcases hkind with hday | hmoment
    · rw [d.literal_text_of_temporal hday (.inl rfl), hread]
    · rw [d.literal_text_of_temporal hmoment (.inr rfl), hread]
  refine ⟨hliteral, ?_, ?_⟩
  · intro v hv
    rw [literal_of_ofValue? hv, hliteral]
  · intro op hop
    have htext : Clause.text? d (Query.comparison field op (.text m.text)) =
        Clause.text? d (.moment field op m) := by
      rw [text?_comparison_text d field hop, text?_moment d field hop, hliteral]
    refine ⟨htext, ?_⟩
    intro v hv
    rw [comparison_of_ofValue? hv, htext]

/-- The leap second before 2017, eight hours west. -/
def leapSecond : Zoned :=
  ⟨⟨⟨2016, 12, 31, by decide, by decide, by decide⟩,
    ⟨15, 59, 59, 1000000000, by decide, by decide, by decide, by decide⟩⟩, -28800⟩

theorem plain_leapSecond : (timestamp leapSecond).Plain :=
  ⟨by decide, by decide, -480, by decide, by decide⟩

theorem leapSecond_reads_back :
    (timestamp leapSecond).Plain ∧
    ofText "2016-12-31T15:59:60-08:00" = .ok (.timestamp leapSecond) ∧
    Clause.text? ⟨some datedAccounts, []⟩
        (Query.comparison "CreatedDate" .le (.text "2016-12-31T15:59:60-08:00")) =
      .ok (some "CreatedDate <= 2016-12-31T15:59:60-08:00") := by
  have htext : (timestamp leapSecond).text = "2016-12-31T15:59:60-08:00" := rfl
  obtain ⟨hread, hfield⟩ := reads_back plain_leapSecond
  obtain ⟨-, -, hclause⟩ := hfield ⟨some datedAccounts, []⟩ "CreatedDate" (.inr rfl)
  have hsame := (hclause .le rfl).1
  rw [htext] at hread hsame
  exact ⟨plain_leapSecond, hread, hsame⟩

end Moment

end RecordQuery
