import RecordQuery.Fault
import RecordQuery.Value.Basic

namespace RecordQuery.Value

open Calendar

/-- A value was not of the kind that was asked for. -/
def mismatch (expected : String) (v : Value) : Except Fault α :=
  .error (.typeMismatch ("Expected " ++ expected ++ ", got " ++ v.shown))

def readInt : Value → Except Fault Int64
  | .int i => .ok i
  | v => mismatch "Int" v

/-- An integer that fits a signed 32-bit word. -/
def readInt32 : Value → Except Fault Int32
  | .int i =>
    let outside (side : String) : Except Fault Int32 :=
      .error (.typeMismatch
        ("Int value out of i32 range: number too " ++ side ++ " to fit in target type"))
    if i.toInt < Int32.minValue.toInt then outside "small"
    else if Int32.maxValue.toInt < i.toInt then outside "large"
    else .ok i.toInt32
  | v => mismatch "Int" v

/-- A double; an integer is read as the nearest one. -/
def readFloat : Value → Except Fault Float
  | .float f => .ok f
  | .int i => .ok i.toFloat
  | v => mismatch "Float" v

def readBool : Value → Except Fault Bool
  | .bool b => .ok b
  | v => mismatch "Bool" v

def readText : Value → Except Fault String
  | .text s => .ok s
  | v => mismatch "String" v

def readDate : Value → Except Fault Date
  | .date d => .ok d
  | v => mismatch "Date" v

def readInstant : Value → Except Fault DateTime
  | .instant t | .dateTime t => .ok t
  | v => mismatch "DateTime" v

/-- A value that may be null. -/
def readOptional (read : Value → Except Fault α) : Value → Except Fault (Option α)
  | .null => .ok none
  | v => (read v).map some

end RecordQuery.Value
