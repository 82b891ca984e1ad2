import RecordQuery.Text.Basic

namespace RecordQuery.Calendar

/-- A time of day. A leap second is the last second of a minute with a second billion of
nanoseconds. -/
structure Time where
  hour : Nat
  minute : Nat
  second : Nat
  nano : Nat
  hour_valid : hour < 24
  minute_valid : minute < 60
  second_valid : second < 60
  nano_valid : nano < 1000000000 ∨ second = 59 ∧ nano < 2000000000
  deriving DecidableEq

namespace Time

/-- The time of four numbers, if there is one. -/
def of? (hour minute second nano : Nat) : Option Time :=
  if h : hour < 24 ∧ minute < 60 ∧ second < 60 ∧
      (nano < 1000000000 ∨ second = 59 ∧ nano < 2000000000) then
    some ⟨hour, minute, second, nano, h.1, h.2.1, h.2.2.1, h.2.2.2⟩
  else none

/-- The second as a clock shows it, 60 for a leap second. -/
def shownSecond (t : Time) : Nat := t.second + t.nano / 1000000000

/-- The nanoseconds after the shown second. -/
def shownNano (t : Time) : Nat := t.nano % 1000000000

/-- The text `HH:MM:SS`. -/
def clockText (t : Time) : String :=
  Text.padded 2 t.hour ++ ":" ++ Text.padded 2 t.minute ++ ":" ++ Text.padded 2 t.shownSecond

/-- The fraction of the second in as many groups of three digits as it needs. -/
def fractionText (t : Time) : String :=
  let n := t.shownNano
  if n = 0 then ""
  else if n % 1000000 = 0 then "." ++ Text.padded 3 (n / 1000000)
  else if n % 1000 = 0 then "." ++ Text.padded 6 (n / 1000)
  else "." ++ Text.padded 9 n

def text (t : Time) : String := t.clockText ++ t.fractionText

/-- The text `HH:MM:SS.mmm`, cut after the milliseconds. -/
def millisecondText (t : Time) : String :=
  t.clockText ++ "." ++ Text.padded 3 (t.shownNano / 1000000)

end Time

end RecordQuery.Calendar
