import RecordQuery.Proofs.Calendar.Written

namespace RecordQuery.Calendar

open Text

namespace Reader

/-- The digits of a fraction count from the left. -/
theorem fraction_padded {width n : Nat} (hwidth : 0 < width) (hnine : width ≤ 9)
    (hn : n < Nat.pow 10 width) {rest : List Char} (hend : ∀ c ∈ rest.head?, c.isDigit = false) :
    fraction ('.' :: ((padded width n).toList ++ rest)) =
      some (n * Nat.pow 10 (9 - width), rest) := by
  have hlength := length_padded hwidth hn
  have hdigits : ∀ c ∈ (padded width n).toList, c.isDigit := Over.digits_padded width n
  have hrest (cs : List Char) : Reader.rest cs = some (cs, cs) := rfl
  have hread : digits 1 9 ((padded width n).toList ++ rest) =
      some ((padded width n).toList, rest) :=
    digits_append hdigits (by omega) (by omega) (.inr hend)
  rw [fraction, bind_of_some (hrest _), if_pos List.head?_cons,
    bind_of_some (mark_cons _ _), bind_of_some hread, bind_of_some (skip_of_head hend),
    decimal_padded, hlength]
  rfl

theorem fraction_fractionText (t : Time) {rest : List Char}
    (hpoint : rest.head? ≠ some '.') (hend : ∀ c ∈ rest.head?, c.isDigit = false) :
    fraction (t.fractionText.toList ++ rest) = some (t.shownNano, rest) := by
  have hnano : t.shownNano < 1000000000 := Nat.mod_lt _ (by decide)
  have htext (width n : Nat) : ("." ++ padded width n).toList ++ rest =
      '.' :: ((padded width n).toList ++ rest) := by
    have hdot : ".".toList = ['.'] := rfl
    rw [String.toList_append, hdot, List.append_assoc, List.singleton_append]
  unfold Time.fractionText
  generalize t.shownNano = n at *
  dsimp only
  split
  next hzero =>
    rw [hzero]
    exact fraction_of_head hpoint
  next =>
    split
    next hmilli =>
      have hn : n / 1000000 < Nat.pow 10 3 := by
        change n / 1000000 < 1000
        omega
      have hvalue : n / 1000000 * Nat.pow 10 (9 - 3) = n := by
        change n / 1000000 * 1000000 = n
        omega
      rw [htext, fraction_padded (by decide) (by decide) hn hend, hvalue]
    next =>
      split
      next hmicro =>
        have hn : n / 1000 < Nat.pow 10 6 := by
          change n / 1000 < 1000000
          omega
        have hvalue : n / 1000 * Nat.pow 10 (9 - 6) = n := by
          change n / 1000 * 1000 = n
          omega
        rw [htext, fraction_padded (by decide) (by decide) hn hend, hvalue]
      next =>
        rw [htext, fraction_padded (by decide) (by decide) hnano hend]
        exact congrArg (fun m => some (m, rest)) (Nat.mul_one n)

theorem looseZone_utc : looseZone "+00:00".toList = some (0, []) := by decide

end Reader

theorem Date.exists_of? {year : Int} {month day : Nat}
    (hyear : -262143 ≤ year ∧ year ≤ 262142) (hmonth : 1 ≤ month ∧ month ≤ 12)
    (hday : 1 ≤ day ∧ day ≤ monthLength year month) : ∃ d, Date.of? year month day = some d :=
  ⟨_, dif_pos ⟨hyear, hmonth, hday⟩⟩

theorem Date.exists_next? (d : Date) (h : d.year < 262142) : ∃ e, d.next? = some e := by
  have hyear := d.year_supported
  have hmonth := d.month_valid
  have hlength := monthLength_bounds d.year (d.month + 1)
  unfold Date.next?
  split
  · exact Date.exists_of? hyear hmonth (by omega)
  · split
    · exact Date.exists_of? hyear (by omega) (by omega)
    · exact Date.exists_of? (by omega) (by decide) (by simp [monthLength])

theorem Date.exists_previous? (d : Date) (h : -262143 < d.year) : ∃ e, d.previous? = some e := by
  have hyear := d.year_supported
  have hmonth := d.month_valid
  have hday := d.day_valid
  have hlength := monthLength_bounds d.year (d.month - 1)
  unfold Date.previous?
  split
  · exact Date.exists_of? hyear hmonth (by omega)
  · split
    · exact Date.exists_of? hyear (by omega) (by omega)
    · exact Date.exists_of? (by omega) (by decide) (by simp [monthLength])

/-- Within the supported years, but for the first and the last, the clock may be moved. -/
theorem DateTime.exists_shiftMinutes? (t : DateTime)
    (hyear : -262143 < t.date.year ∧ t.date.year < 262142) (minutes : Int) :
    ∃ utc, t.shiftMinutes? minutes = some utc := by
  have hsecond := t.time.second_valid
  have hnano := t.time.nano_valid
  have hmod : ((t.time.hour * 60 + t.time.minute + minutes : Int) % 1440).toNat < 1440 := by omega
  unfold DateTime.shiftMinutes?
  dsimp only
  generalize ((t.time.hour * 60 + t.time.minute + minutes : Int) % 1440).toNat = minute at *
  have htime : ∃ time, Time.of? (minute / 60) (minute % 60) t.time.second t.time.nano = some time :=
    ⟨_, dif_pos ⟨by omega, by omega, hsecond, hnano⟩⟩
  obtain ⟨time, htime⟩ := htime
  have hdate : ∃ d, (if (t.time.hour * 60 + t.time.minute + minutes : Int) < 0 then t.date.previous?
      else if (t.time.hour * 60 + t.time.minute + minutes : Int) < 1440 then some t.date
      else t.date.next?) = some d := by
    split
    · exact t.date.exists_previous? hyear.1
    · split
      · exact ⟨t.date, rfl⟩
      · exact t.date.exists_next? hyear.2
  obtain ⟨d, hdate⟩ := hdate
  exact ⟨⟨d, time⟩, by rw [hdate, Option.bind_some, htime, Option.map_some]⟩

theorem DateTime.shiftMinutes?_zero (t : DateTime) : t.shiftMinutes? 0 = some t := by
  have hhour := t.time.hour_valid
  have hminute := t.time.minute_valid
  have hself := t.time.of?_self
  unfold shiftMinutes?
  dsimp only
  have htotal : ((t.time.hour * 60 + t.time.minute + 0 : Int) % 1440).toNat =
      t.time.hour * 60 + t.time.minute := by omega
  have hh : (t.time.hour * 60 + t.time.minute) / 60 = t.time.hour := by omega
  have hm : (t.time.hour * 60 + t.time.minute) % 60 = t.time.minute := by omega
  rw [if_neg (by omega), if_pos (by omega), Option.bind_some, htotal, hh, hm, hself]
  rfl

open Reader

theorem looseTimestamp_textWith (t : DateTime) :
    looseTimestamp.whole (t.textWith "T" ++ "+00:00") = some (⟨t, 0⟩, t) := by
  have htext : (t.textWith "T" ++ "+00:00").toList = t.date.text.toList ++ 'T' ::
      (t.time.clockText.toList ++ (t.time.fractionText.toList ++ "+00:00".toList)) := by
    have hmark : "T".toList = ['T'] := rfl
    simp only [DateTime.textWith, Time.text, String.toList_append, hmark, List.append_assoc,
      List.cons_append, List.nil_append]
  have hday := dayOf_text t.date
    ('T' :: (t.time.clockText.toList ++ (t.time.fractionText.toList ++ "+00:00".toList)))
    (fun left => looseYear_yearText t.date.year (by simp)) (fun n hn => looseNumber_two hn)
  have hsign : "+00:00".toList.head? = some '+' := rfl
  have hfraction : fraction (t.time.fractionText.toList ++ "+00:00".toList) =
      some (t.time.shownNano, "+00:00".toList) := by
    refine fraction_fractionText t.time ?_ ?_
    · rw [hsign]
      decide
    · intro c hc
      obtain rfl : '+' = c := Option.some.inj (hsign.symm.trans hc)
      rfl
  have hclock := clockOf_clockText t.time hfraction (fun n hn => looseNumber_two hn)
  rw [timeOf_shown] at hclock
  have hzoned : zoned (some t.date) (some t.time) 0 = some (⟨t, 0⟩, t) :=
    zoned_eq_some.2 ⟨_, _, rfl, rfl, by decide, rfl, t.shiftMinutes?_zero⟩
  rw [whole_eq_some, htext, looseTimestamp_eq, timestampOf, bind_of_some hday,
    bind_of_some (mark_cons _ _), bind_of_some hclock, bind_of_some looseZone_utc, hzoned]
  rfl

/-- The text of an instant names it. -/
theorem DateTime.ofTimestamp?_textWith (t : DateTime) :
    DateTime.ofTimestamp? (t.textWith "T" ++ "+00:00") = some t := by
  have hloose := looseTimestamp_textWith t
  rw [DateTime.ofTimestamp?]
  cases hstrict : strictTimestamp.whole (t.textWith "T" ++ "+00:00") with
  | none =>
    rw [Option.none_or, hloose]
    rfl
  | some x =>
    -- Within the years of four digits the text is also a timestamp of RFC 3339.
    have hsame := agree_timestamp _ _ _ (whole_eq_some.1 hstrict) (whole_eq_some.1 hloose)
    rw [(Prod.mk.inj hsame).1]
    rfl

end RecordQuery.Calendar
