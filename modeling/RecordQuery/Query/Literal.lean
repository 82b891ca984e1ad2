import RecordQuery.Query.Moment

namespace RecordQuery

/-- The literal of a text: in single quotes, with quotes, backslashes and the control blanks
escaped. -/
def quotedLiteral (s : String) : String :=
  let escaped : Char → List Char
    | '\\' => ['\\', '\\']
    | '\'' => ['\\', '\'']
    | '\n' => ['\\', 'n']
    | '\r' => ['\\', 'r']
    | '\t' => ['\\', 't']
    | c => [c]
  String.ofList ('\'' :: s.toList.flatMap escaped ++ ['\''])

namespace Value

mutual

def literal : Value → String
  | .null => "null"
  | .bool b => boolText b
  | .int i => toString i.toInt
  | .float f => Decimal.FloatStyle.plain.text f
  | .text s => quotedLiteral s
  | .date d => (Moment.day d).text
  | .dateTime t => (Moment.utc t).text
  | .instant t => (Moment.utc t).text
  | .time t => t.millisecondText ++ "Z"
  | .json j => quotedLiteral j.toText
  | .list items => "(" ++ ", ".intercalate (literals items) ++ ")"

def literals : List Value → List String
  | [] => []
  | v :: vs => literal v :: literals vs

end

end Value

end RecordQuery
