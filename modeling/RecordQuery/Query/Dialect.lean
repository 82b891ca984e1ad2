import RecordQuery.Query.Literal
import RecordQuery.Query.Select
import RecordQuery.Schema.Basic

namespace RecordQuery

/-- What the text of a query depends on besides the query. -/
structure Dialect where
  schema : Option Schema
  defaultFields : List String

namespace Dialect

def plain (d : Dialect) : Dialect := { d with schema := none }

/-- The literal of a text for a field of a given kind, if it is one. -/
def typedLiteral? (s : String) : FieldKind → Option String
  | .boolean => if ["true", "false"].contains (Text.lower s) then some (Text.lower s) else none
  | .date | .dateTime =>
    match Moment.ofText s with
    | .ok m => some m.text
    | .error _ => none
  | .text | .other => none

/-- The literal of a value that a field is compared with. -/
def literal (d : Dialect) (field : String) (v : Value) : String :=
  let typed := do
    let s ← v.text?
    let schema ← d.schema
    typedLiteral? s (← schema.kind? field)
  typed.getD v.literal

/-- The literals of a list of values in parentheses. -/
def literalList (d : Dialect) (field : String) (values : List Value) : String :=
  "(" ++ ", ".intercalate (values.map (d.literal field)) ++ ")"

end Dialect

/-- A clause has no meaning with its operator. -/
def unsupported (c : Clause) (op : Operator) : Except Fault α :=
  .error (.unsupportedClause (c.kindName ++ " clause with operator " ++ op.text))

def Order.text (o : Order) : String :=
  o.field ++ " " ++ o.direction.text ++
    match o.nullsFirst with
    | none => ""
    | some true => " NULLS FIRST"
    | some false => " NULLS LAST"

/-- A segment that is left out when it has no parts. -/
def segment (lead between : String) (parts : List String) : String :=
  if parts.isEmpty then "" else lead ++ between.intercalate parts

mutual

/-- The text of a query. Its segments stand in a fixed order and are left out when there is nothing
to say; sub-selects are written without the schema, which describes another object. -/
def Select.text (d : Dialect) : Select → Except Fault String
  | ⟨fields, object, clauses, orders, limit, offset⟩ => do
    let names ← Selected.texts d fields
    let conditions ← Clause.texts d clauses
    return "SELECT " ++ ", ".intercalate (if fields.isEmpty then d.defaultFields else names) ++
      " FROM " ++ object ++
      segment " WHERE " " AND " conditions ++
      segment " ORDER BY " ", " (orders.map Order.text) ++
      segment " LIMIT " "" (limit.map toString).toList ++
      segment " OFFSET " "" (offset.map toString).toList

/-- What is selected, each with its text. -/
def Selected.texts (d : Dialect) : List Selected → Except Fault (List String)
  | [] => .ok []
  | s :: rest => do
    let text ← Selected.text d s
    let texts ← Selected.texts d rest
    return text :: texts

def Selected.text (d : Dialect) : Selected → Except Fault String
  | .field name => .ok name
  | .select query => do return "(" ++ (← Select.text d.plain query) ++ ")"

/-- The texts of the clauses that say something. -/
def Clause.texts (d : Dialect) : List Clause → Except Fault (List String)
  | [] => .ok []
  | c :: rest => do
    let text ← Clause.text? d c
    let texts ← Clause.texts d rest
    return text.toList ++ texts

/-- The text of a clause. A group without conditions says nothing; an empty set has no member, so
its clauses are a contradiction and its complement a tautology. -/
def Clause.text? (d : Dialect) : Clause → Except Fault (Option String)
  | .compare field op value =>
    if op = .isIn ∨ op = .notIn then unsupported (.compare field op value) op
    else .ok (some (field ++ " " ++ op.text ++ " " ++ d.literal field value))
  | .isIn field values =>
    if values.isEmpty then .ok (some (field ++ " = null AND " ++ field ++ " != null"))
    else .ok (some (field ++ " IN " ++ d.literalList field values))
  | .notIn field values =>
    if values.isEmpty then .ok (some ("(" ++ field ++ " = null OR " ++ field ++ " != null)"))
    else .ok (some (field ++ " NOT IN " ++ d.literalList field values))
  | .inText field query => .ok (some (field ++ " IN (" ++ query ++ ")"))
  | .notInText field query => .ok (some (field ++ " NOT IN (" ++ query ++ ")"))
  | .null field => .ok (some (field ++ " = null"))
  | .notNull field => .ok (some (field ++ " != null"))
  | .moment field op moment =>
    if op.isComparison then .ok (some (field ++ " " ++ op.text ++ " " ++ moment.text))
    else unsupported (.moment field op moment) op
  | .boolean field op value =>
    if op = .eq ∨ op = .ne then
      .ok (some (field ++ " " ++ op.text ++ " " ++ Value.boolText value))
    else unsupported (.boolean field op value) op
  | .inSelect field op query =>
    if op = .isIn ∨ op = .notIn then do
      return some (field ++ " " ++ op.text ++ " (" ++ (← Select.text d.plain query) ++ ")")
    else unsupported (.inSelect field op query) op
  | .group clauses => do
    let conditions ← Clause.texts d clauses
    return if conditions.isEmpty then none else some (segment "(" " AND " conditions ++ ")")

end

end RecordQuery
