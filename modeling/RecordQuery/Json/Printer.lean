import RecordQuery.Json.Basic
import RecordQuery.Decimal.FloatText
import RecordQuery.Text.Visible

namespace RecordQuery.Json

def Number.toText : Number → String
  | .int i => toString i.val
  | .real f => Decimal.FloatStyle.wire.text f

/-- One character of a string. Only quotes, backslashes and controls are escaped. -/
def escapedChar (c : Char) : String :=
  match c with
  | '"' => "\\\""
  | '\\' => "\\\\"
  | '\x08' => "\\b"
  | '\x0c' => "\\f"
  | '\n' => "\\n"
  | '\r' => "\\r"
  | '\t' => "\\t"
  | c => if c.toNat < 0x20 then "\\u00" ++ (if c.toNat < 16 then "0" else "") ++ Text.hex c.toNat
    else c.toString

def stringText (s : String) : String :=
  "\"" ++ String.join (s.toList.map escapedChar) ++ "\""

mutual

def toText : Json → String
  | .null => "null"
  | .bool b => if b then "true" else "false"
  | .number n => n.toText
  | .text s => stringText s
  | .array items => "[" ++ ",".intercalate (itemTexts items) ++ "]"
  | .object members => "\x7b" ++ ",".intercalate (memberTexts members) ++ "\x7d"

def itemTexts : List Json → List String
  | [] => []
  | j :: js => toText j :: itemTexts js

def memberTexts : List (String × Json) → List String
  | [] => []
  | (name, j) :: ms => (stringText name ++ ":" ++ toText j) :: memberTexts ms

end

mutual

/-- A wire value as messages show it, with the kind of each part. -/
def shown : Json → String
  | .null => "Null"
  | .bool b => if b then "Bool(true)" else "Bool(false)"
  | .number n => "Number(" ++ n.toText ++ ")"
  | .text s => "String(" ++ Text.quoted s ++ ")"
  | .array items => "Array [" ++ ", ".intercalate (shownItems items) ++ "]"
  | .object members => "Object \x7b" ++ ", ".intercalate (shownMembers members) ++ "\x7d"

def shownItems : List Json → List String
  | [] => []
  | j :: js => shown j :: shownItems js

def shownMembers : List (String × Json) → List String
  | [] => []
  | (name, j) :: ms => (Text.quoted name ++ ": " ++ shown j) :: shownMembers ms

end

end RecordQuery.Json
