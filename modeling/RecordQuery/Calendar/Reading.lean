import RecordQuery.Calendar.DateTime
import RecordQuery.Text.Basic

namespace RecordQuery.Calendar

/-- A reader takes characters from the front. -/
abbrev Reader := StateT (List Char) Option

namespace Reader

/-- From `low` to `high` digits, as many as there are. -/
def digits (low high : Nat) : Reader (List Char) := fun cs =>
  let run := (cs.take high).takeWhile Char.isDigit
  if run.length < low then none else some (run, cs.drop run.length)

def number (low high : Nat) : Reader Nat := Text.decimal <$> digits low high

/-- One given character. -/
def mark (c : Char) : Reader Unit := fun cs =>
  match cs with
  | [] => none
  | d :: rest => if d = c then some ((), rest) else none

def one (p : Char → Bool) : Reader Char := fun cs =>
  match cs with
  | [] => none
  | c :: rest => if p c then some (c, rest) else none

/-- Any number of characters of a class. -/
def skip (p : Char → Bool) : Reader Unit := fun cs => some ((), cs.dropWhile p)

def rest : Reader (List Char) := fun cs => some (cs, cs)

/-- A number of at most two digits after any blanks. -/
def looseNumber : Reader Nat := do skip Text.isBlank; number 1 2

/-- A year after any blanks: at most four digits, or any number of digits after a sign. -/
def looseYear : Reader Int := do
  skip Text.isBlank
  match (← rest).head? with
  | some '-' => mark '-'; return -((← number 1 (← rest).length : Nat) : Int)
  | some '+' => mark '+'; return ((← number 1 (← rest).length : Nat) : Int)
  | _ => return ((← number 1 4 : Nat) : Int)

/-- The nanoseconds of an optional fraction; digits after the ninth are skipped. -/
def fraction : Reader Nat := do
  if (← rest).head? = some '.' then
    mark '.'
    let ds ← digits 1 9
    skip Char.isDigit
    return Text.decimal ds * Nat.pow 10 (9 - ds.length)
  else return 0

/-- A second may be 60, which is the leap second after 59. -/
def timeOf (hour minute second nano : Nat) : Option Time :=
  if second = 60 then Time.of? hour minute 59 (nano + 1000000000)
  else Time.of? hour minute second nano

/-- A signed offset in minutes, with `between` skipped after the hours. -/
def offset (between : Reader Unit) : Reader Int := do
  let sign ← one fun c => c == '+' || c == '-' || c == '−'
  let hours ← number 2 2
  between
  let minutes ← number 2 2
  if 60 ≤ minutes then failure
  let total : Int := hours * 60 + minutes
  return if sign = '+' then total else -total

/-- A date and time at an offset, if the moment is within the supported years. -/
def zoned (date : Option Date) (time : Option Time) (offset : Int) : Option (Zoned × DateTime) := do
  let clock : DateTime := ⟨← date, ← time⟩
  let utc ← clock.shiftMinutes? (-offset)
  if 1440 ≤ offset.natAbs then none
  return (⟨clock, offset * 60⟩, utc)

/-- A calendar date such as `2024-01-15`, with any blanks before each of its numbers. -/
def date : Reader Date := do
  let year ← looseYear
  mark '-'
  let month ← looseNumber
  mark '-'
  let day ← looseNumber
  liftM (Date.of? year month day)

/-- The timestamp of RFC 3339, whose numbers have fixed widths: the local time with its offset, and
the moment in UTC. -/
def strictTimestamp : Reader (Zoned × DateTime) := do
  let year ← number 4 4
  mark '-'
  let month ← number 2 2
  mark '-'
  let day ← number 2 2
  let _ ← one fun c => c == 'T' || c == 't' || c == ' '
  let hour ← number 2 2
  mark ':'
  let minute ← number 2 2
  mark ':'
  let second ← number 2 2
  let nano ← fraction
  let z := (← rest).head?
  let minutes ← if z = some 'Z' ∨ z = some 'z' then (do let _ ← one fun _ => true; return 0)
    else offset (mark ':')
  liftM (zoned (Date.of? year month day) (timeOf hour minute second nano) minutes)

/-- The timestamp of the remote store: its offset needs no colon, and blanks may stand before each
number. -/
def looseTimestamp : Reader (Zoned × DateTime) := do
  let year ← looseYear
  mark '-'
  let month ← looseNumber
  mark '-'
  let day ← looseNumber
  mark 'T'
  let hour ← looseNumber
  mark ':'
  let minute ← looseNumber
  mark ':'
  let second ← looseNumber
  let nano ← fraction
  skip Text.isBlank
  let minutes ← offset (skip fun c => c == ':' || Text.isBlank c)
  liftM (zoned (Date.of? year month day) (timeOf hour minute second nano) minutes)

def whole (r : Reader α) (s : String) : Option α :=
  match r s.toList with
  | some (a, []) => some a
  | _ => none

end Reader

def Date.ofText? (s : String) : Option Date := Reader.date.whole s

/-- The timestamp of RFC 3339 a text spells. -/
def Zoned.ofText? (s : String) : Option Zoned := (Reader.strictTimestamp.whole s).map (·.1)

/-- The moment in UTC that a timestamp of either form names. -/
def DateTime.ofTimestamp? (s : String) : Option DateTime :=
  ((Reader.strictTimestamp.whole s).or (Reader.looseTimestamp.whole s)).map (·.2)

end RecordQuery.Calendar
