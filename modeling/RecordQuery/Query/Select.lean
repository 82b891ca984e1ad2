import RecordQuery.Query.Moment
import RecordQuery.Query.Operator

namespace RecordQuery

structure Order where
  field : String
  direction : Direction
  nullsFirst : Option Bool
  deriving DecidableEq

mutual

/-- A condition. Sub-selects stand either as finished texts or as queries of their own. -/
inductive Clause where
  | compare (field : String) (op : Operator) (value : Value)
  | isIn (field : String) (values : List Value)
  | notIn (field : String) (values : List Value)
  | inText (field : String) (query : String)
  | notInText (field : String) (query : String)
  | null (field : String)
  | notNull (field : String)
  | moment (field : String) (op : Operator) (moment : Moment)
  | boolean (field : String) (op : Operator) (value : Bool)
  | inSelect (field : String) (op : Operator) (query : Select)
  | group (clauses : List Clause)

inductive Selected where
  | field (name : String)
  | select (query : Select)

/-- A query over one object. All of its clauses must hold. -/
structure Select where
  fields : List Selected
  object : String
  clauses : List Clause
  orders : List Order
  limit : Option Nat
  offset : Option Nat

end

namespace Select

def about (object : String) : Select := ⟨[], object, [], [], none, none⟩

end Select

namespace Clause

/-- The field a clause is about; a group is about none. -/
def field? : Clause → Option String
  | .compare field .. | .isIn field _ | .notIn field _ | .inText field _ | .notInText field _
  | .null field | .notNull field | .moment field .. | .boolean field .. | .inSelect field .. =>
    some field
  | .group _ => none

def kindName : Clause → String
  | .compare .. => "Basic"
  | .isIn .. => "In"
  | .notIn .. => "NotIn"
  | .inText .. => "InSub"
  | .notInText .. => "NotInSub"
  | .null _ => "Null"
  | .notNull _ => "NotNull"
  | .moment .. => "Date"
  | .boolean .. => "Boolean"
  | .inSelect .. => "Sub"
  | .group _ => "Nested"

end Clause

end RecordQuery
