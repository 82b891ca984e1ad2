import Mathlib.Data.List.DropRight
import RecordQuery.Proofs.Calendar.Reader

namespace RecordQuery.Calendar

open Text

namespace Reader

def dayOf (year : Reader Int) (two : Reader Nat) : Reader (Option Date) := do
  let y ← year
  mark '-'
  let month ← two
  mark '-'
  let day ← two
  return Date.of? y month day

def clockOf (two : Reader Nat) : Reader (Option Time) := do
  let hour ← two
  mark ':'
  let minute ← two
  mark ':'
  let second ← two
  let nano ← fraction
  return timeOf hour minute second nano

def timestampOf (day : Reader (Option Date)) (between : Reader Unit) (clock : Reader (Option Time))
    (zone : Reader Int) : Reader (Zoned × DateTime) := do
  let d ← day
  between
  let t ← clock
  let minutes ← zone
  liftM (zoned d t minutes)

def strictYear : Reader Int := do
  let n ← number 4 4
  return (n : Int)

/-- The mark of RFC 3339 between day and clock. -/
def strictBetween : Reader Unit := do
  let _ ← one fun c => c == 'T' || c == 't' || c == ' '

def strictZone : Reader Int := do
  let z := (← rest).head?
  if z = some 'Z' ∨ z = some 'z' then (do let _ ← one fun _ => true; return 0)
  else offset (mark ':')

/-- The zone of the store. -/
def looseZone : Reader Int := do
  skip isBlank
  offset (skip fun c => c == ':' || isBlank c)

theorem ite_bind {α β : Type} {condition : Prop} [Decidable condition] (r r' : Reader α)
    (f : α → Reader β) :
    (if condition then r else r') >>= f = if condition then r >>= f else r' >>= f := by
  split
  · rfl
  · rfl

theorem date_eq : date = dayOf looseYear looseNumber >>= fun d => liftM d := by
  unfold date dayOf
  simp only [bind_assoc, pure_bind]

theorem strictTimestamp_eq : strictTimestamp =
    timestampOf (dayOf strictYear (number 2 2)) strictBetween (clockOf (number 2 2)) strictZone := by
  unfold strictTimestamp timestampOf dayOf clockOf strictYear strictBetween strictZone
  simp only [bind_assoc, pure_bind, ite_bind]

theorem looseTimestamp_eq : looseTimestamp =
    timestampOf (dayOf looseYear looseNumber) (mark 'T') (clockOf looseNumber) looseZone := by
  unfold looseTimestamp timestampOf dayOf clockOf looseZone
  simp only [bind_assoc, pure_bind]

theorem offset_eq (between : Reader Unit) : offset between = do
    let sign ← one fun c => c == '+' || c == '-' || c == '−'
    let hours ← number 2 2
    let minutes ← between >>= fun _ => number 2 2
    if 60 ≤ minutes then failure
    let total : Int := hours * 60 + minutes
    return if sign = '+' then total else -total := by
  unfold offset
  simp only [bind_assoc]

theorem skip_blank_of_number {low high : Nat} {cs : List Char} {x : Nat × List Char}
    (hlow : 0 < low) (h : number low high cs = some x) : skip isBlank cs = some ((), cs) := by
  apply skip_of_head
  intro c hc
  exact isBlank_of_isDigit (isDigit_of_number hlow h c hc)

/-- Without a sign a year is a number of at most four digits. -/
theorem looseYear_of_digit {cs : List Char} (h : ∀ c ∈ cs.head?, c.isDigit) :
    looseYear cs = (number 1 4 >>= fun n => pure (n : Int)) cs := by
  have hskip : skip isBlank cs = some ((), cs) :=
    skip_of_head fun c hc => isBlank_of_isDigit (h c hc)
  have hrest : rest cs = some (cs, cs) := rfl
  unfold looseYear
  rw [bind_of_some hskip, bind_of_some hrest]
  refine congrFun ?_ cs
  split
  · rename_i hsign
    exact absurd (h '-' hsign) (by decide)
  · rename_i hsign
    exact absurd (h '+' hsign) (by decide)
  · rfl

/-- An offset begins with a sign. -/
theorem offset_head {between : Reader Unit} {cs : List Char} {x : Int × List Char}
    (h : offset between cs = some x) :
    ∃ c ∈ cs.head?, c = '+' ∨ c = '-' ∨ c = '−' := by
  obtain ⟨c, mid, hone, -⟩ := bind_eq_some.1 h
  obtain ⟨rfl, hsign⟩ := one_eq_some.1 hone
  refine ⟨c, rfl, ?_⟩
  simpa [or_assoc] using hsign

theorem isBlank_of_isSign {c : Char} (h : c = '+' ∨ c = '-' ∨ c = '−') : isBlank c = false := by
  rcases h with rfl | rfl | rfl
  · decide
  · decide
  · decide

theorem looseNumber_of_number {cs : List Char} {x : Nat × List Char}
    (h : number 2 2 cs = some x) : looseNumber cs = some x := by
  unfold looseNumber
  rw [bind_of_some (skip_blank_of_number (by decide) h)]
  exact number_mono (by decide) h

theorem looseYear_of_strictYear {cs : List Char} {x : Int × List Char}
    (h : strictYear cs = some x) : looseYear cs = some x := by
  obtain ⟨y, left⟩ := x
  obtain ⟨n, mid, hn, hpure⟩ := bind_eq_some.1 h
  rw [looseYear_of_digit (isDigit_of_number (by decide) hn)]
  exact bind_eq_some.2 ⟨n, mid, number_mono (by decide) hn, hpure⟩

theorem agree_number : Agree (number 2 2) looseNumber := .of_imp fun _ _ => looseNumber_of_number

theorem agree_year : Agree strictYear looseYear := .of_imp fun _ _ => looseYear_of_strictYear

theorem agree_day : Agree (dayOf strictYear (number 2 2)) (dayOf looseYear looseNumber) := by
  apply agree_year.bind
  intro year
  apply (Agree.refl _).bind
  intro _
  apply agree_number.bind
  intro month
  apply (Agree.refl _).bind
  intro _
  exact agree_number.bind fun day => Agree.refl _

theorem agree_clock : Agree (clockOf (number 2 2)) (clockOf looseNumber) := by
  apply agree_number.bind
  intro hour
  apply (Agree.refl _).bind
  intro _
  apply agree_number.bind
  intro minute
  apply (Agree.refl _).bind
  intro _
  exact agree_number.bind fun second => Agree.refl _

theorem agree_between : Agree strictBetween (mark 'T') := by
  apply Agree.symm
  apply Agree.of_imp
  intro cs ⟨u, left⟩ h
  rw [mark_eq_some.1 h]
  rfl

/-- A colon before a number is among the blanks and colons that the store's form skips. -/
theorem agree_minutes : Agree (mark ':' >>= fun _ => number 2 2)
    (skip (fun c => c == ':' || isBlank c) >>= fun _ => number 2 2) := by
  apply Agree.of_imp
  intro cs ⟨n, left⟩ h
  obtain ⟨_, mid, hmark, hn⟩ := bind_eq_some.1 h
  rw [mark_eq_some.1 hmark]
  have hmid : mid.dropWhile (fun c => c == ':' || isBlank c) = mid := by
    have hhead := isDigit_of_number (by decide) hn
    cases mid with
    | nil => rfl
    | cons c mid =>
      have hdigit := hhead c rfl
      have hcolon : c ≠ ':' := by
        rintro rfl
        exact absurd hdigit (by decide)
      simp [hcolon, isBlank_of_isDigit hdigit]
  have hskip : skip (fun c => c == ':' || isBlank c) (':' :: mid) = some ((), mid) := by
    simp [skip, hmid]
  rw [bind_of_some hskip]
  exact hn

theorem Agree.offset {between between' : Reader Unit}
    (h : Agree (between >>= fun _ => number 2 2) (between' >>= fun _ => number 2 2)) :
    Agree (offset between) (offset between') := by
  rw [offset_eq, offset_eq]
  apply (Agree.refl _).bind
  intro sign
  apply (Agree.refl _).bind
  intro hours
  exact h.bind fun minutes => Agree.refl _

theorem strictZone_eq (cs : List Char) : strictZone cs =
    if cs.head? = some 'Z' ∨ cs.head? = some 'z' then (one (fun _ => true) >>= fun _ => pure 0) cs
    else offset (mark ':') cs := by
  have hrest : rest cs = some (cs, cs) := rfl
  unfold strictZone
  rw [bind_of_some hrest]
  split
  · rfl
  · rfl

theorem looseZone_of_head {cs : List Char} (h : ∀ c ∈ cs.head?, isBlank c = false) :
    looseZone cs = offset (skip fun c => c == ':' || isBlank c) cs := by
  unfold looseZone
  rw [bind_of_some (skip_of_head h)]

theorem agree_zone : Agree strictZone looseZone := by
  intro cs x y hx hy
  rw [strictZone_eq] at hx
  split at hx
  · -- Where RFC 3339 has the letter the store's form has a sign.
    rename_i hletter
    have hhead : ∀ c ∈ cs.head?, isBlank c = false := by
      intro c hc
      rcases hletter with hz | hz
      · obtain rfl := Option.some.inj (hz.symm.trans hc)
        decide
      · obtain rfl := Option.some.inj (hz.symm.trans hc)
        decide
    rw [looseZone_of_head hhead] at hy
    obtain ⟨c, hc, hsign⟩ := offset_head hy
    obtain rfl | rfl : c = 'Z' ∨ c = 'z' := by
      simpa [Option.mem_def.1 hc] using hletter
    · simp at hsign
    · simp at hsign
  · have hhead : ∀ c ∈ cs.head?, isBlank c = false := by
      obtain ⟨c, hc, hsign⟩ := offset_head hx
      intro d hd
      obtain rfl := Option.some.inj (hc.symm.trans hd)
      exact isBlank_of_isSign hsign
    rw [looseZone_of_head hhead] at hy
    exact agree_minutes.offset cs x y hx hy

theorem agree_timestamp : Agree strictTimestamp looseTimestamp := by
  rw [strictTimestamp_eq, looseTimestamp_eq]
  apply agree_day.bind
  intro day
  apply agree_between.bind
  intro _
  apply agree_clock.bind
  intro clock
  exact agree_zone.bind fun minutes => Agree.refl _

theorem Advances.looseNumber : Advances looseNumber :=
  (Advances.skip _).bind fun _ => (EndsSolid.number (by decide) 2).advances

theorem EndsSolid.looseNumber : EndsSolid looseNumber :=
  (Advances.skip _).bind_solid fun _ => EndsSolid.number (by decide) 2

theorem Advances.strictYear : Advances strictYear :=
  (EndsSolid.number (by decide) 4).advances.bind fun _ => (Idle.pure _).advances

theorem Advances.looseYear : Advances looseYear := by
  have hnumber (sign : Char) (f : Nat → Int) : Advances (do
      Reader.mark sign
      let digits ← Reader.rest
      let n ← number 1 digits.length
      pure (f n)) := by
    apply (Advances.mark sign).bind
    intro _
    apply Idle.rest.advances.bind
    intro digits
    exact (EndsSolid.number (by decide) _).advances.bind fun n => (Idle.pure _).advances
  apply (Advances.skip _).bind
  intro _
  apply Idle.rest.advances.bind
  intro cs
  split
  · exact hnumber '-' fun n => -n
  · exact hnumber '+' fun n => n
  · exact (EndsSolid.number (by decide) 4).advances.bind fun n => (Idle.pure _).advances

theorem EndsSolid.dayOf {year : Reader Int} {two : Reader Nat} (hyear : Advances year)
    (htwo : EndsSolid two) : EndsSolid (dayOf year two) := by
  apply hyear.bind_solid
  intro _
  apply (Advances.mark '-').bind_solid
  intro _
  apply htwo.advances.bind_solid
  intro _
  apply (Advances.mark '-').bind_solid
  intro _
  exact htwo.bind_idle fun _ => Idle.pure _

theorem Advances.clockOf {two : Reader Nat} (htwo : Advances two) : Advances (clockOf two) := by
  apply htwo.bind
  intro _
  apply (Advances.mark ':').bind
  intro _
  apply htwo.bind
  intro _
  apply (Advances.mark ':').bind
  intro _
  apply htwo.bind
  intro _
  exact Advances.fraction.bind fun _ => (Idle.pure _).advances

theorem EndsSolid.offset {between : Reader Unit} (h : Advances between) :
    EndsSolid (offset between) := by
  apply (Advances.one _).bind_solid
  intro sign
  apply (EndsSolid.number (by decide) 2).advances.bind_solid
  intro hours
  apply h.bind_solid
  intro _
  apply (EndsSolid.number (by decide) 2).bind_idle
  intro minutes
  exact Idle.ite Idle.failure (Idle.pure _)

theorem EndsSolid.strictZone : EndsSolid strictZone := by
  intro cs minutes left h
  rw [strictZone_eq] at h
  split at h
  · rename_i hletter
    obtain ⟨c, mid, hone, hpure⟩ := bind_eq_some.1 h
    obtain ⟨rfl, -⟩ := one_eq_some.1 hone
    obtain ⟨-, rfl⟩ := Prod.mk.inj (Option.some.inj hpure)
    refine ⟨c, ?_, List.suffix_rfl⟩
    obtain rfl | rfl : c = 'Z' ∨ c = 'z' := by simpa using hletter
    · decide
    · decide
  · exact EndsSolid.offset (Advances.mark ':') cs minutes left h

theorem EndsSolid.looseZone : EndsSolid looseZone :=
  (Advances.skip _).bind_solid fun _ => EndsSolid.offset (Advances.skip _)

theorem EndsSolid.timestampOf {day : Reader (Option Date)} {between : Reader Unit}
    {clock : Reader (Option Time)} {zone : Reader Int} (hday : Advances day)
    (hbetween : Advances between) (hclock : Advances clock) (hzone : EndsSolid zone) :
    EndsSolid (timestampOf day between clock zone) := by
  apply hday.bind_solid
  intro _
  apply hbetween.bind_solid
  intro _
  apply hclock.bind_solid
  intro _
  exact hzone.bind_idle fun _ => Idle.liftM _

/-- What the reader finds it also finds without the blanks before it. -/
def KeepsLead (r : Reader α) : Prop := ∀ cs x, r cs = some x → r (skipBlanks cs) = some x

theorem looseYear_skipBlanks (cs : List Char) : looseYear (skipBlanks cs) = looseYear cs := by
  have hskip : skip isBlank (skipBlanks cs) = skip isBlank cs := by
    simp only [skip, skipBlanks, List.dropWhile_idempotent isBlank cs]
  exact bind_congr hskip

theorem KeepsLead.date : KeepsLead date := by
  intro cs x h
  rw [← h]
  exact bind_congr (looseYear_skipBlanks cs)

theorem KeepsLead.looseTimestamp : KeepsLead looseTimestamp := by
  intro cs x h
  rw [← h]
  exact bind_congr (looseYear_skipBlanks cs)

theorem KeepsLead.strictTimestamp : KeepsLead strictTimestamp := by
  intro cs x h
  obtain ⟨year, mid, hyear, -⟩ := bind_eq_some.1 h
  obtain ⟨-, hcs⟩ := Prod.mk.inj (Option.some.inj (skip_blank_of_number (by decide) hyear))
  rw [skipBlanks, hcs]
  exact h

/-- A reader that ends with a solid character reads a text without the blanks around it as it reads
the text. -/
theorem whole_trimmed {r : Reader α} (hlead : KeepsLead r) (hsolid : EndsSolid r) {s : String}
    {a : α} (h : r.whole s = some a) : r.whole (trimmed s) = some a := by
  have hread := hlead s.toList _ (whole_eq_some.1 h)
  obtain ⟨c, hc, before, hbefore⟩ := hsolid _ _ _ hread
  have htext : (trimmed s).toList = skipBlanks s.toList := by
    have hlast : skipBlanks (c :: before.reverse) = c :: before.reverse :=
      List.dropWhile_cons_of_neg (by simp [hc])
    rw [trimmed, String.toList_ofList, ← hbefore, List.reverse_append, List.reverse_singleton,
      List.singleton_append, hlast, List.reverse_cons, List.reverse_reverse]
  rw [whole_eq_some, htext]
  exact hread

/-- A date ends where a timestamp goes on. -/
theorem not_date_of_timestamp {day : Reader (Option Date)} {between : Reader Unit}
    {clock : Reader (Option Time)} {zone : Reader Int}
    (hday : Agree day (dayOf looseYear looseNumber)) (hbetween : between [] = none) {s : String}
    {x : Zoned × DateTime} (h : (timestampOf day between clock zone).whole s = some x) :
    Date.ofText? s = none := by
  rw [Option.eq_none_iff_forall_not_mem]
  intro d hd
  have hdate := whole_eq_some.1 hd
  rw [date_eq] at hdate
  obtain ⟨found, left, hfound, hleft⟩ := bind_eq_some.1 hdate
  obtain ⟨-, rfl⟩ := liftM_eq_some.1 hleft
  obtain ⟨first, mid, hfirst, hmid⟩ := bind_eq_some.1 (whole_eq_some.1 h)
  obtain ⟨-, rfl⟩ := Prod.mk.inj (hday _ _ _ hfirst hfound)
  obtain ⟨u, rest, hnone, -⟩ := bind_eq_some.1 hmid
  rw [hbetween] at hnone
  exact nomatch hnone

theorem EndsSolid.date : EndsSolid date := by
  rw [date_eq]
  apply (EndsSolid.dayOf Advances.looseYear EndsSolid.looseNumber).bind_idle
  intro d
  exact Idle.liftM d

theorem EndsSolid.strictTimestamp : EndsSolid strictTimestamp := by
  have htwo : EndsSolid (Reader.number 2 2) := EndsSolid.number (by decide) 2
  rw [strictTimestamp_eq]
  exact EndsSolid.timestampOf (EndsSolid.dayOf Advances.strictYear htwo).advances
    ((Advances.one _).bind fun _ => (Idle.pure _).advances) (Advances.clockOf htwo.advances)
    EndsSolid.strictZone

theorem EndsSolid.looseTimestamp : EndsSolid looseTimestamp := by
  rw [looseTimestamp_eq]
  exact EndsSolid.timestampOf (EndsSolid.dayOf Advances.looseYear EndsSolid.looseNumber).advances
    (Advances.mark 'T') (Advances.clockOf Advances.looseNumber) EndsSolid.looseZone

end Reader

open Reader

theorem Date.ofText?_trimmed {s : String} {d : Date} (h : Date.ofText? s = some d) :
    Date.ofText? (trimmed s) = some d :=
  whole_trimmed KeepsLead.date EndsSolid.date h

/-- Without the blanks around it, the text of a moment is no date, and if it is a timestamp of
RFC 3339 then of that moment. -/
theorem DateTime.ofTimestamp?_trimmed {s : String} {t : DateTime}
    (h : DateTime.ofTimestamp? s = some t) :
    Date.ofText? (trimmed s) = none ∧
      ∀ x, strictTimestamp.whole (trimmed s) = some x → x.2 = t := by
  obtain ⟨found, hfound, rfl⟩ := Option.map_eq_some_iff.1 h
  rcases Option.or_eq_some_iff.1 hfound with hstrict | ⟨-, hloose⟩
  · have htrimmed := whole_trimmed KeepsLead.strictTimestamp EndsSolid.strictTimestamp hstrict
    constructor
    · rw [strictTimestamp_eq] at htrimmed
      exact not_date_of_timestamp agree_day rfl htrimmed
    · intro x hx
      rw [Option.some.inj (hx.symm.trans htrimmed)]
  · have htrimmed := whole_trimmed KeepsLead.looseTimestamp EndsSolid.looseTimestamp hloose
    constructor
    · rw [looseTimestamp_eq] at htrimmed
      exact not_date_of_timestamp (Agree.refl _) rfl htrimmed
    · intro x hx
      have hsame := agree_timestamp _ _ _ (whole_eq_some.1 hx) (whole_eq_some.1 htrimmed)
      rw [(Prod.mk.inj hsame).1]

end RecordQuery.Calendar
