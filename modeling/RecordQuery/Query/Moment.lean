import RecordQuery.Calendar.Reading
import RecordQuery.Fault
import RecordQuery.Value.Basic

namespace RecordQuery

open Calendar

inductive Moment where
  | day (d : Date)
  | timestamp (z : Zoned)
  deriving DecidableEq

namespace Moment

/-- The moment a text spells, which may have blanks around it: a day or a timestamp of RFC 3339. -/
def ofText (s : String) : Except Fault Moment :=
  let t := Text.trimmed s
  match Date.ofText? t, Zoned.ofText? t with
  | some d, _ => .ok (.day d)
  | none, some z => .ok (.timestamp z)
  | none, none => .error (.invalidDate s)

def utc (t : DateTime) : Moment := .timestamp ⟨t, 0⟩

/-- The moment of a value that names a day. -/
def ofValue? : Value → Option Moment
  | .date d => some (.day d)
  | .dateTime t | .instant t => some (utc t)
  | _ => none

/-- The literal of a moment: the day, or the time to the second with its offset. -/
def text : Moment → String
  | .day d => d.text
  | .timestamp z => z.text

end Moment

end RecordQuery
