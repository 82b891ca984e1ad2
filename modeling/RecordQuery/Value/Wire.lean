import RecordQuery.Value.Basic

namespace RecordQuery.Value

/-- The value of a wire number; an integer beyond the signed words becomes a double. -/
def ofNumber : Json.Number → Value
  | .int i =>
    if i.val ≤ Int64.maxValue.toInt then .int (Int64.ofInt i.val)
    else .float i.val.toNat.toUInt64.toFloat
  | .real f => .float f

mutual

/-- The value of wire data. Texts stay texts, and objects stay wire data. -/
def ofJson : Json → Value
  | .null => .null
  | .bool b => .bool b
  | .number n => ofNumber n
  | .text s => .text s
  | .array items => .list (ofItems items)
  | .object members => .json (.object members)

def ofItems : List Json → List Value
  | [] => []
  | j :: js => ofJson j :: ofItems js

end

/-- A double as wire data, which has no infinities. -/
def floatJson (f : Float) : Json := if f.isFinite then .number (.real f) else .null

mutual

/-- The wire data of a value. Dates and times are texts, in UTC. -/
def toJson : Value → Json
  | .null => .null
  | .bool b => .bool b
  | .int i => .ofInt64 i
  | .float f => floatJson f
  | .text s => .text s
  | .date d => .text d.text
  | .dateTime t => .text (t.textWith "T" ++ "+00:00")
  | .instant t => .text (t.textWith "T" ++ "+00:00")
  | .time t => .text t.text
  | .json j => j
  | .list items => .array (toItems items)

def toItems : List Value → List Json
  | [] => []
  | v :: vs => toJson v :: toItems vs

end

end RecordQuery.Value
