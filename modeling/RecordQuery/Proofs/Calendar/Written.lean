import RecordQuery.Proofs.Calendar.Forms
import RecordQuery.Proofs.Text.Digits

namespace RecordQuery.Calendar

open Text

namespace Time

/-- The time at the start of its second. -/
def toSecond (t : Time) : Time :=
  { t with
    nano := t.nano / 1000000000 * 1000000000
    nano_valid := by have := t.nano_valid; omega }

theorem of?_self (t : Time) : of? t.hour t.minute t.second t.nano = some t := by
  unfold of?
  rw [dif_pos ⟨t.hour_valid, t.minute_valid, t.second_valid, t.nano_valid⟩]

/-- Of another hour and minute, the start of the second is the same. -/
theorem of?_toSecond (t : Time) (hour minute : Nat) :
    of? hour minute t.second t.toSecond.nano =
      (of? hour minute t.second t.nano).map toSecond := by
  have hsecond := t.second_valid
  have hnano := t.nano_valid
  have hcut := t.toSecond.nano_valid
  by_cases hclock : hour < 24 ∧ minute < 60
  · rw [of?, of?, dif_pos ⟨hclock.1, hclock.2, hsecond, hcut⟩,
      dif_pos ⟨hclock.1, hclock.2, hsecond, hnano⟩]
    rfl
  · rw [of?, of?, dif_neg fun h => hclock ⟨h.1, h.2.1⟩, dif_neg fun h => hclock ⟨h.1, h.2.1⟩]
    rfl

end Time

theorem monthLength_bounds (year : Int) (month : Nat) :
    28 ≤ monthLength year month ∧ monthLength year month ≤ 31 := by
  unfold monthLength
  split
  · split
    · decide
    · decide
  · split
    · decide
    · decide

theorem Date.of?_self (d : Date) : Date.of? d.year d.month d.day = some d := by
  unfold Date.of?
  rw [dif_pos ⟨d.year_supported, d.month_valid, d.day_valid⟩]

theorem Date.year_of_of? {year : Int} {month day : Nat} {d : Date}
    (h : Date.of? year month day = some d) : d.year = year := by
  unfold Date.of? at h
  split at h
  · rw [← Option.some.inj h]
  · exact nomatch h

namespace DateTime

def toSecond (t : DateTime) : DateTime := { t with time := t.time.toSecond }

/-- Moving the clock leaves the seconds as they are. -/
theorem shiftMinutes?_toSecond (t : DateTime) (minutes : Int) :
    t.toSecond.shiftMinutes? minutes = (t.shiftMinutes? minutes).map toSecond := by
  have hclock (d : Date) (hour minute : Nat) :
      (Time.of? hour minute t.time.second t.time.toSecond.nano).map (DateTime.mk d) =
        ((Time.of? hour minute t.time.second t.time.nano).map (DateTime.mk d)).map toSecond := by
    rw [Time.of?_toSecond, Option.map_map, Option.map_map]
    rfl
  unfold shiftMinutes?
  dsimp only
  rw [Option.map_bind]
  exact congrArg (Option.bind _) (funext fun d => hclock d _ _)

end DateTime

namespace Reader

theorem mark_cons (c : Char) (cs : List Char) : mark c (c :: cs) = some ((), cs) :=
  mark_eq_some.2 rfl

theorem number_append {low high : Nat} {ds rest : List Char} (hdigits : ∀ c ∈ ds, c.isDigit)
    (hlow : low ≤ ds.length) (hhigh : ds.length ≤ high)
    (hend : ds.length = high ∨ ∀ c ∈ rest.head?, c.isDigit = false) :
    number low high (ds ++ rest) = some (decimal ds, rest) :=
  number_eq_some.2 ⟨ds, digits_append hdigits hlow hhigh hend, rfl⟩

theorem number_padded {width n : Nat} (hwidth : 0 < width) (hn : n < Nat.pow 10 width)
    (rest : List Char) : number width width ((padded width n).toList ++ rest) = some (n, rest) := by
  have hlength := length_padded hwidth hn
  have hdigits : ∀ c ∈ (padded width n).toList, c.isDigit := Over.digits_padded width n
  rw [number_append hdigits (by omega) (by omega) (.inl hlength), decimal_padded]

theorem number_two {n : Nat} (hn : n < 100) (rest : List Char) :
    number 2 2 ((padded 2 n).toList ++ rest) = some (n, rest) :=
  number_padded (by decide) hn rest

theorem looseNumber_two {n : Nat} (hn : n < 100) (rest : List Char) :
    looseNumber ((padded 2 n).toList ++ rest) = some (n, rest) :=
  looseNumber_of_number (number_two hn rest)

theorem strictYear_yearText {y : Int} (hlow : 0 ≤ y) (hhigh : y ≤ 9999) (rest : List Char) :
    strictYear ((Date.yearText y).toList ++ rest) = some (y, rest) := by
  have htext : Date.yearText y = padded 4 y.toNat := by
    rw [Date.yearText, if_neg (by omega), if_pos hhigh]
  have hfour : y.toNat < Nat.pow 10 4 := by
    change y.toNat < 10000
    omega
  have hnumber := number_padded (by decide) hfour rest
  rw [htext, strictYear, bind_of_some hnumber]
  have hcast : ((y.toNat : Nat) : Int) = y := by omega
  rw [hcast]
  rfl

/-- After a sign the year has all the digits that follow. -/
theorem signed_number {n : Nat} {rest : List Char} (hend : ∀ c ∈ rest.head?, c.isDigit = false) :
    number 1 ((padded 4 n).toList ++ rest).length ((padded 4 n).toList ++ rest) =
      some (n, rest) := by
  have hlength := le_length_padded 4 n
  have hdigits : ∀ c ∈ (padded 4 n).toList, c.isDigit := Over.digits_padded 4 n
  rw [number_append hdigits (by omega) (by rw [List.length_append]; omega) (.inr hend),
    decimal_padded]

theorem looseYear_minus (cs : List Char) :
    looseYear ('-' :: cs) = (number 1 cs.length >>= fun n => pure (-(n : Int))) cs := rfl

theorem looseYear_plus (cs : List Char) :
    looseYear ('+' :: cs) = (number 1 cs.length >>= fun n => pure (n : Int)) cs := rfl

theorem looseYear_yearText (y : Int) {rest : List Char}
    (hend : ∀ c ∈ rest.head?, c.isDigit = false) :
    looseYear ((Date.yearText y).toList ++ rest) = some (y, rest) := by
  by_cases hlow : y < 0
  · have htext : (Date.yearText y).toList = '-' :: (padded 4 y.natAbs).toList := by
      rw [Date.yearText, if_pos hlow, String.toList_append]
      rfl
    have hcast : -((y.natAbs : Nat) : Int) = y := by omega
    rw [htext, List.cons_append, looseYear_minus, bind_of_some (signed_number hend), hcast]
    rfl
  · by_cases hhigh : y ≤ 9999
    · exact looseYear_of_strictYear (strictYear_yearText (by omega) hhigh rest)
    · have htext : (Date.yearText y).toList = '+' :: (padded 4 y.toNat).toList := by
        rw [Date.yearText, if_neg hlow, if_neg hhigh, String.toList_append]
        rfl
      have hcast : ((y.toNat : Nat) : Int) = y := by omega
      rw [htext, List.cons_append, looseYear_plus, bind_of_some (signed_number hend), hcast]
      rfl

theorem dayOf_text {year : Reader Int} {two : Reader Nat} (d : Date) (rest : List Char)
    (hyear : ∀ left, year ((Date.yearText d.year).toList ++ '-' :: left) =
      some (d.year, '-' :: left))
    (htwo : ∀ n < 100, ∀ left, two ((padded 2 n).toList ++ left) = some (n, left)) :
    dayOf year two (d.text.toList ++ rest) = some (some d, rest) := by
  have htext : d.text.toList ++ rest = (Date.yearText d.year).toList ++ '-' ::
      ((padded 2 d.month).toList ++ '-' :: ((padded 2 d.day).toList ++ rest)) := by
    have hdash : "-".toList = ['-'] := rfl
    simp only [Date.text, String.toList_append, hdash, List.append_assoc, List.cons_append,
      List.nil_append]
  have hmonth : d.month < 100 := by have := d.month_valid; omega
  have hday : d.day < 100 := by
    have hvalid := d.day_valid
    have hlength := monthLength_bounds d.year d.month
    omega
  rw [htext, dayOf, bind_of_some (hyear _), bind_of_some (mark_cons _ _),
    bind_of_some (htwo _ hmonth _), bind_of_some (mark_cons _ _), bind_of_some (htwo _ hday _),
    Date.of?_self]
  rfl

theorem fraction_of_head {cs : List Char} (h : cs.head? ≠ some '.') :
    fraction cs = some (0, cs) := by
  have hrest : Reader.rest cs = some (cs, cs) := rfl
  rw [fraction, bind_of_some hrest, if_neg h]
  rfl

/-- A shown second of 60 is the leap second. -/
theorem timeOf_shown (t : Time) :
    timeOf t.hour t.minute t.shownSecond t.shownNano = some t := by
  have hself := t.of?_self
  have hsecond := t.second_valid
  unfold timeOf Time.shownSecond Time.shownNano
  by_cases hlow : t.nano < 1000000000
  · have hdiv : t.nano / 1000000000 = 0 := by omega
    have hmod : t.nano % 1000000000 = t.nano := by omega
    rw [hdiv, hmod, Nat.add_zero, if_neg (by omega)]
    exact hself
  · obtain ⟨hlast, hhigh⟩ := t.nano_valid.resolve_left hlow
    have hdiv : t.nano / 1000000000 = 1 := by omega
    have hmod : t.nano % 1000000000 + 1000000000 = t.nano := by omega
    rw [hlast] at hself
    rw [hdiv, hmod, hlast, if_pos rfl]
    exact hself

theorem timeOf_shownSecond (t : Time) :
    timeOf t.hour t.minute t.shownSecond 0 = some t.toSecond := by
  have hself := timeOf_shown t.toSecond
  have hnano : t.toSecond.nano = t.nano / 1000000000 * 1000000000 := rfl
  have hsecond : t.toSecond.shownSecond = t.shownSecond := by
    have hsame : t.toSecond.second = t.second := rfl
    unfold Time.shownSecond
    omega
  have hzero : t.toSecond.shownNano = 0 := by
    unfold Time.shownNano
    omega
  rw [hsecond, hzero] at hself
  exact hself

theorem clockOf_clockText {two : Reader Nat} (t : Time) {cs rest : List Char} {nano : Nat}
    (hfraction : fraction cs = some (nano, rest))
    (htwo : ∀ n < 100, ∀ left, two ((padded 2 n).toList ++ left) = some (n, left)) :
    clockOf two (t.clockText.toList ++ cs) =
      some (timeOf t.hour t.minute t.shownSecond nano, rest) := by
  have htext : t.clockText.toList ++ cs = (padded 2 t.hour).toList ++ ':' ::
      ((padded 2 t.minute).toList ++ ':' :: ((padded 2 t.shownSecond).toList ++ cs)) := by
    have hcolon : ":".toList = [':'] := rfl
    simp only [Time.clockText, String.toList_append, hcolon, List.append_assoc,
      List.cons_append, List.nil_append]
  have hhour : t.hour < 100 := by have := t.hour_valid; omega
  have hminute : t.minute < 100 := by have := t.minute_valid; omega
  have hsecond : t.shownSecond < 100 := by
    have hvalid := t.second_valid
    have hnano := t.nano_valid
    unfold Time.shownSecond
    omega
  rw [htext, clockOf, bind_of_some (htwo _ hhour _), bind_of_some (mark_cons _ _),
    bind_of_some (htwo _ hminute _), bind_of_some (mark_cons _ _),
    bind_of_some (htwo _ hsecond _), bind_of_some hfraction]
  rfl

theorem clockOf_text {two : Reader Nat} (t : Time) {rest : List Char} (hend : rest.head? ≠ some '.')
    (htwo : ∀ n < 100, ∀ left, two ((padded 2 n).toList ++ left) = some (n, left)) :
    clockOf two (t.clockText.toList ++ rest) = some (some t.toSecond, rest) := by
  rw [clockOf_clockText t (fraction_of_head hend) htwo, timeOf_shownSecond]

/-- An offset of whole minutes is written to the minute. -/
theorem offsetText_minutes (m : Int) : (Zoned.offsetText (m * 60)).toList =
    (if m < 0 then '-' else '+') ::
      ((padded 2 (m.natAbs / 60)).toList ++ ':' :: (padded 2 (m.natAbs % 60)).toList) := by
  have hminutes : ((m * 60).natAbs + 30) / 60 = m.natAbs := by omega
  have hcolon : ":".toList = [':'] := rfl
  have hsign : (if m * 60 < 0 then "-" else "+").toList = [if m < 0 then '-' else '+'] := by
    by_cases hneg : m < 0
    · rw [if_pos hneg, if_pos (by omega)]
      rfl
    · rw [if_neg hneg, if_neg (by omega)]
      rfl
  simp only [Zoned.offsetText, String.toList_append, hminutes, hsign, hcolon, List.append_assoc,
    List.cons_append, List.nil_append]

theorem offset_text {sign : Char} (hsign : sign = '+' ∨ sign = '-') {hours minutes : Nat}
    (hhours : hours < 100) (hminutes : minutes < 60) (rest : List Char) :
    offset (mark ':') (sign :: ((padded 2 hours).toList ++ ':' ::
      ((padded 2 minutes).toList ++ rest))) =
        some (if sign = '+' then (hours * 60 + minutes : Int) else -(hours * 60 + minutes), rest) := by
  have hone (cs : List Char) :
      one (fun c => c == '+' || c == '-' || c == '−') (sign :: cs) = some (sign, cs) := by
    rcases hsign with rfl | rfl
    · rfl
    · rfl
  rw [offset, bind_of_some (hone _), bind_of_some (number_two hhours _),
    bind_of_some (mark_cons _ _), bind_of_some (number_two (by omega) _), if_neg (by omega)]
  rfl

theorem strictZone_offsetText {m : Int} (hm : m.natAbs < 1440) (rest : List Char) :
    strictZone ((Zoned.offsetText (m * 60)).toList ++ rest) = some (m, rest) := by
  have hhours : m.natAbs / 60 < 100 := by omega
  have hminutes : m.natAbs % 60 < 60 := by omega
  rw [offsetText_minutes, List.cons_append, List.append_assoc, List.cons_append, strictZone_eq]
  by_cases hneg : m < 0
  · have hvalue : -((m.natAbs / 60 : Nat) * 60 + (m.natAbs % 60 : Nat) : Int) = m := by omega
    rw [if_pos hneg, if_neg (by simp), offset_text (.inr rfl) hhours hminutes, if_neg (by decide),
      hvalue]
  · have hvalue : ((m.natAbs / 60 : Nat) * 60 + (m.natAbs % 60 : Nat) : Int) = m := by omega
    rw [if_neg hneg, if_neg (by simp), offset_text (.inl rfl) hhours hminutes, if_pos rfl, hvalue]

theorem zoned_eq_some {date : Option Date} {time : Option Time} {m : Int} {z : Zoned}
    {utc : DateTime} : zoned date time m = some (z, utc) ↔
      ∃ d t, date = some d ∧ time = some t ∧ m.natAbs < 1440 ∧ z = ⟨⟨d, t⟩, m * 60⟩ ∧
        z.clock.shiftMinutes? (-m) = some utc := by
  constructor
  · intro h
    obtain ⟨d, hd, h⟩ := Option.bind_eq_some_iff.1 h
    obtain ⟨t, ht, h⟩ := Option.bind_eq_some_iff.1 h
    obtain ⟨found, hfound, h⟩ := Option.bind_eq_some_iff.1 h
    by_cases hm : 1440 ≤ m.natAbs
    · rw [if_pos hm] at h
      exact nomatch h
    · rw [if_neg hm] at h
      obtain ⟨rfl, rfl⟩ := Prod.mk.inj (Option.some.inj h)
      exact ⟨d, t, hd, ht, by omega, rfl, hfound⟩
  · rintro ⟨d, t, rfl, rfl, hm, rfl, hutc⟩
    apply Option.bind_eq_some_iff.2 ⟨d, rfl, _⟩
    apply Option.bind_eq_some_iff.2 ⟨t, rfl, _⟩
    apply Option.bind_eq_some_iff.2 ⟨utc, hutc, _⟩
    rw [if_neg (by omega)]
    rfl

/-- The year of RFC 3339 has four digits. -/
theorem year_of_strictYear {cs rest : List Char} {y : Int} (h : strictYear cs = some (y, rest)) :
    0 ≤ y ∧ y ≤ 9999 := by
  obtain ⟨n, mid, hn, hpure⟩ := bind_eq_some.1 h
  obtain ⟨rfl, -⟩ := Prod.mk.inj (Option.some.inj hpure)
  obtain ⟨ds, hds, rfl⟩ := number_eq_some.1 hn
  obtain ⟨-, -, hlength, hdigits⟩ := digits_eq_some hds
  have hlt := decimal_lt hdigits
  have hpow : Nat.pow 10 ds.length ≤ 10000 := Nat.pow_le_pow_right (by decide) hlength
  omega

theorem exists_year_of_dayOf {year : Reader Int} {two : Reader Nat} {cs rest : List Char} {d : Date}
    (h : dayOf year two cs = some (some d, rest)) : ∃ mid, year cs = some (d.year, mid) := by
  obtain ⟨y, left, hyear, h⟩ := bind_eq_some.1 h
  obtain ⟨_, _, -, h⟩ := bind_eq_some.1 h
  obtain ⟨month, _, -, h⟩ := bind_eq_some.1 h
  obtain ⟨_, _, -, h⟩ := bind_eq_some.1 h
  obtain ⟨day, _, -, h⟩ := bind_eq_some.1 h
  obtain ⟨hdate, -⟩ := Prod.mk.inj (Option.some.inj h)
  rw [Date.year_of_of? hdate]
  exact ⟨left, hyear⟩

/-- A timestamp of RFC 3339 has a year of four digits, and an offset of less than a day in whole
minutes that leads from the clock to the moment. -/
theorem exists_of_strictTimestamp {s : String} {z : Zoned} {utc : DateTime}
    (h : strictTimestamp.whole s = some (z, utc)) :
    (0 ≤ z.clock.date.year ∧ z.clock.date.year ≤ 9999) ∧
      ∃ m, m.natAbs < 1440 ∧ z.offset = m * 60 ∧ z.clock.shiftMinutes? (-m) = some utc := by
  have hread := whole_eq_some.1 h
  rw [strictTimestamp_eq] at hread
  obtain ⟨day, mid, hday, hread⟩ := bind_eq_some.1 hread
  obtain ⟨_, mid', hbetween, hread⟩ := bind_eq_some.1 hread
  obtain ⟨clock, mid'', hclock, hread⟩ := bind_eq_some.1 hread
  obtain ⟨m, left, hzone, hread⟩ := bind_eq_some.1 hread
  obtain ⟨d, t, rfl, rfl, hm, rfl, hutc⟩ := zoned_eq_some.1 (liftM_eq_some.1 hread).1
  refine ⟨?_, m, hm, rfl, hutc⟩
  obtain ⟨left', hyear⟩ := exists_year_of_dayOf hday
  exact year_of_strictYear hyear

theorem strictTimestamp_text {z : Zoned} {utc : DateTime} {m : Int}
    (hyear : 0 ≤ z.clock.date.year ∧ z.clock.date.year ≤ 9999) (hm : m.natAbs < 1440)
    (hoffset : z.offset = m * 60) (hutc : z.clock.shiftMinutes? (-m) = some utc) :
    strictTimestamp.whole z.text = some (⟨z.clock.toSecond, z.offset⟩, utc.toSecond) := by
  have htext : z.text.toList = z.clock.date.text.toList ++ 'T' ::
      (z.clock.time.clockText.toList ++ (Zoned.offsetText (m * 60)).toList) := by
    have hmark : "T".toList = ['T'] := rfl
    simp only [Zoned.text, DateTime.secondText, String.toList_append, hmark, hoffset,
      List.append_assoc, List.cons_append, List.nil_append]
  have hday := dayOf_text z.clock.date
    ('T' :: (z.clock.time.clockText.toList ++ (Zoned.offsetText (m * 60)).toList))
    (fun left => strictYear_yearText hyear.1 hyear.2 ('-' :: left)) (fun n hn => number_two hn)
  have hbetween (cs : List Char) : strictBetween ('T' :: cs) = some ((), cs) := rfl
  have hsign : (Zoned.offsetText (m * 60)).toList.head? ≠ some '.' := by
    rw [offsetText_minutes]
    split
    · simp
    · simp
  have hclock := clockOf_text z.clock.time hsign (fun n hn => number_two hn)
  have hzone := strictZone_offsetText hm []
  rw [List.append_nil] at hzone
  have hzoned : zoned (some z.clock.date) (some z.clock.time.toSecond) m =
      some (⟨z.clock.toSecond, z.offset⟩, utc.toSecond) := by
    refine zoned_eq_some.2 ⟨_, _, rfl, rfl, hm, by rw [hoffset]; rfl, ?_⟩
    rw [DateTime.shiftMinutes?_toSecond, hutc]
    rfl
  rw [whole_eq_some, htext, strictTimestamp_eq, timestampOf, bind_of_some hday,
    bind_of_some (hbetween _), bind_of_some hclock, bind_of_some hzone, hzoned]
  rfl

end Reader

open Reader

/-- The text of a date spells it. -/
theorem Date.ofText?_text (d : Date) : Date.ofText? d.text = some d := by
  have hday := dayOf_text d [] (fun left => looseYear_yearText d.year (by simp))
    (fun n hn => looseNumber_two hn)
  rw [List.append_nil] at hday
  rw [Date.ofText?, whole_eq_some, date_eq, bind_of_some hday]
  rfl

/-- The text of what a timestamp of RFC 3339 spells names its moment to the second. -/
theorem DateTime.ofTimestamp?_text {s : String} {z : Zoned} {t : DateTime}
    (h : strictTimestamp.whole s = some (z, t)) :
    DateTime.ofTimestamp? z.text = some t.toSecond := by
  obtain ⟨hyear, m, hm, hoffset, hutc⟩ := exists_of_strictTimestamp h
  rw [DateTime.ofTimestamp?, strictTimestamp_text hyear hm hoffset hutc]
  rfl

end RecordQuery.Calendar
