import RecordQuery.Calendar.DateTime
import RecordQuery.Decimal.FloatText
import RecordQuery.Json.Printer

namespace RecordQuery

open Calendar

/-- A value. A date and time without an offset is read as UTC; an instant is in UTC. -/
inductive Value where
  | null
  | bool (b : Bool)
  | int (i : Int64)
  | float (f : Float)
  | text (s : String)
  | date (d : Date)
  | dateTime (t : DateTime)
  | instant (t : DateTime)
  | time (t : Time)
  | json (j : Json)
  | list (items : List Value)

namespace Value

instance : Inhabited Value := ⟨.null⟩

mutual

def same : Value → Value → Bool
  | .null, .null => true
  | .bool a, .bool b => a == b
  | .int a, .int b => a == b
  | .float a, .float b => a == b
  | .text a, .text b => a == b
  | .date a, .date b => a == b
  | .dateTime a, .dateTime b => a == b
  | .instant a, .instant b => a == b
  | .time a, .time b => a == b
  | .json a, .json b => a == b
  | .list xs, .list ys => sameItems xs ys
  | _, _ => false

def sameItems : List Value → List Value → Bool
  | [], [] => true
  | x :: xs, y :: ys => same x y && sameItems xs ys
  | _, _ => false

end

/-- Values of different kinds differ, and not-a-number differs from itself. -/
instance : BEq Value := ⟨same⟩

def isNull : Value → Bool
  | .null => true
  | _ => false

def isTemporal : Value → Bool
  | .date _ | .dateTime _ | .instant _ => true
  | _ => false

def bool? : Value → Option Bool
  | .bool b => some b
  | _ => none

def int? : Value → Option Int64
  | .int i => some i
  | _ => none

def text? : Value → Option String
  | .text s => some s
  | _ => none

def boolText (b : Bool) : String := if b then "true" else "false"

mutual

def toText : Value → String
  | .null => "null"
  | .bool b => boolText b
  | .int i => toString i.toInt
  | .float f => Decimal.FloatStyle.plain.text f
  | .text s => s
  | .date d => d.text
  | .dateTime t => t.textWith " "
  | .instant t => t.textWith " " ++ " UTC"
  | .time t => t.text
  | .json j => j.toText
  | .list items => "[" ++ ", ".intercalate (itemTexts items) ++ "]"

def itemTexts : List Value → List String
  | [] => []
  | v :: vs => toText v :: itemTexts vs

end

mutual

/-- The value as messages show it, with its kind. -/
def shown : Value → String
  | .null => "Null"
  | .bool b => "Bool(" ++ boolText b ++ ")"
  | .int i => "Int(" ++ toString i.toInt ++ ")"
  | .float f => "Float(" ++ Decimal.FloatStyle.message.text f ++ ")"
  | .text s => "String(" ++ Text.quoted s ++ ")"
  | .date d => "Date(" ++ d.text ++ ")"
  | .dateTime t => "DateTime(" ++ t.textWith "T" ++ ")"
  | .instant t => "DateTimeTz(" ++ t.textWith "T" ++ "Z)"
  | .time t => "Time(" ++ t.text ++ ")"
  | .json j => "Json(" ++ j.shown ++ ")"
  | .list items => "List([" ++ ", ".intercalate (shownItems items) ++ "])"

def shownItems : List Value → List String
  | [] => []
  | v :: vs => shown v :: shownItems vs

end

/-- The key under which records are matched. Null, wire data and lists match nothing. -/
def joinKey : Value → Option String
  | .null | .json _ | .list _ => none
  | v => some v.toText

end Value

end RecordQuery
