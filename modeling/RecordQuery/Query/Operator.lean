import RecordQuery.Fault
import RecordQuery.Text.Basic

namespace RecordQuery

inductive Operator where
  | eq
  | ne
  | lt
  | le
  | gt
  | ge
  | like
  | isIn
  | notIn
  | includes
  | excludes
  deriving DecidableEq

namespace Operator

def text : Operator → String
  | eq => "="
  | ne => "!="
  | lt => "<"
  | le => "<="
  | gt => ">"
  | ge => ">="
  | like => "LIKE"
  | isIn => "IN"
  | notIn => "NOT IN"
  | includes => "INCLUDES"
  | excludes => "EXCLUDES"

/-- Whether the operator compares by size or equality. -/
def isComparison : Operator → Bool
  | eq | ne | lt | le | gt | ge => true
  | _ => false

def takesSet : Operator → Bool
  | isIn | notIn | includes | excludes => true
  | _ => false

def all : List Operator := [eq, ne, lt, le, gt, ge, like, isIn, notIn, includes, excludes]

/-- The operator a text spells, in any case and with any blanks between and around its words. -/
def ofText (s : String) : Except Fault Operator :=
  let word := Text.upper (Text.singleSpaced s)
  if word = "<>" then .ok ne
  else match all.find? fun op => op.text = word with
    | some op => .ok op
    | none => .error (.invalidOperator s)

end Operator

inductive Direction where
  | ascending
  | descending
  deriving DecidableEq

namespace Direction

/-- The direction a text spells: everything but `asc` in any case is descending. -/
def ofText (s : String) : Direction := if Text.sameLetters s "asc" then ascending else descending

def text : Direction → String
  | ascending => "ASC"
  | descending => "DESC"

end Direction

end RecordQuery
