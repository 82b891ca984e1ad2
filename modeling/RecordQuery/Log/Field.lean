import RecordQuery.Decimal.FloatText
import RecordQuery.Log.Pattern

namespace RecordQuery

/-- An expected value. What spells no truth value and no number is a pattern. -/
inductive Expected where
  | flag (b : Bool)
  | real (f : Float)
  | notANumber
  | natural (n : Nat)
  | integer (i : Int)
  | pattern (text : String)

namespace Expected

private def natural? (cs : List Char) : Option Nat :=
  let digits := match cs with
    | '+' :: ds => ds
    | ds => ds
  if !digits.isEmpty && digits.all Char.isDigit && Text.decimal digits < UInt64.size then
    some (Text.decimal digits)
  else none

private def integer? (cs : List Char) : Option Int :=
  match Text.integer? cs with
  | some i => if Int64.minValue.toInt ≤ i && i ≤ Int64.maxValue.toInt then some i else none
  | none => none

private def real? (text : String) : Option Expected :=
  (Decimal.float? text).map fun f => if f.isNaN then notANumber else real f

/-- The value that a text spells, if it is one of the words or numbers or a well formed pattern.
Numbers beyond a machine word are doubles. -/
def ofText? (text : String) : Option Expected :=
  if text == "true" then some (flag true)
  else if text == "false" then some (flag false)
  else
    match natural? text.toList, integer? text.toList, real? text with
    | some n, _, _ => some (natural n)
    | none, some i, _ => some (integer i)
    | none, none, some e => some e
    | none, none, none => if Pattern.isWellFormed text.toList then some (pattern text) else none

def text : Expected → String
  | flag b => if b then "true" else "false"
  | real f => Decimal.FloatStyle.plain.text f
  | notANumber => "NaN"
  | natural n => toString n
  | integer i => toString i
  | pattern text => text

private def rank : Expected → Nat
  | flag _ => 0
  | real _ => 1
  | notANumber => 2
  | natural _ => 3
  | integer _ => 4
  | pattern _ => 5

private def compareReals (f g : Float) : Ordering :=
  if f < g then .lt else if g < f then .gt else .eq

/-- Values of one kind are in their own order, and kinds in the order of their ranks. -/
def order : Expected → Expected → Ordering
  | flag a, flag b => compare a b
  | real f, real g => compareReals f g
  | natural m, natural n => compare m n
  | integer i, integer j => compare i j
  | pattern s, pattern t => compare s t
  | a, b => compare a.rank b.rank

end Expected

structure FieldTest where
  name : String
  expected : Option Expected

namespace FieldTest

/-- The test that a text spells: a name, and a value after an equals sign. What comes after a second
equals sign does not count. -/
def ofText? (text : String) : Option FieldTest :=
  match Text.pieces '=' text.toList with
  | name :: value :: _ =>
    (Expected.ofText? (String.ofList value)).map fun e => ⟨String.ofList name, some e⟩
  | _ => some ⟨text, none⟩

def text (t : FieldTest) : String :=
  match t.expected with
  | none => t.name
  | some e => t.name ++ "=" ++ e.text

/-- Tests for a value weigh more than tests without; then names and values are compared. -/
def order (a b : FieldTest) : Ordering :=
  (compare a.expected.isSome b.expected.isSome).then <|
    (compare a.name b.name).then <|
      match a.expected, b.expected with
      | some e, some f => e.order f
      | _, _ => .eq

instance : Ord FieldTest := ⟨order⟩

end FieldTest

end RecordQuery
