import RecordQuery.Calendar.Date
import RecordQuery.Calendar.Time

namespace RecordQuery.Calendar

structure DateTime where
  date : Date
  time : Time
  deriving DecidableEq

namespace DateTime

def textWith (between : String) (t : DateTime) : String :=
  t.date.text ++ between ++ t.time.text

/-- The text `YYYY-MM-DDTHH:MM:SS`, cut after the seconds. -/
def secondText (t : DateTime) : String := t.date.text ++ "T" ++ t.time.clockText

/-- The clock moved by less than a day of minutes; seconds stay as they are. -/
def shiftMinutes? (t : DateTime) (minutes : Int) : Option DateTime :=
  let total := t.time.hour * 60 + t.time.minute + minutes
  let date := if total < 0 then t.date.previous?
    else if total < 1440 then some t.date
    else t.date.next?
  let minute := (total % 1440).toNat
  date.bind fun d =>
    (Time.of? (minute / 60) (minute % 60) t.time.second t.time.nano).map (⟨d, ·⟩)

end DateTime

/-- The local date and time at an offset from UTC in seconds. -/
structure Zoned where
  clock : DateTime
  offset : Int
  deriving DecidableEq

namespace Zoned

/-- The offset as `±HH:MM`, rounded to minutes. -/
def offsetText (offset : Int) : String :=
  let minutes := (offset.natAbs + 30) / 60
  (if offset < 0 then "-" else "+") ++ Text.padded 2 (minutes / 60) ++ ":" ++
    Text.padded 2 (minutes % 60)

/-- The text `YYYY-MM-DDTHH:MM:SS±HH:MM`. -/
def text (z : Zoned) : String := z.clock.secondText ++ offsetText z.offset

end Zoned

end RecordQuery.Calendar
