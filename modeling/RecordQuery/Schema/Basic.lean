import RecordQuery.Text.Basic

namespace RecordQuery

inductive FieldKind where
  | boolean
  | date
  | dateTime
  | text
  | other
  deriving DecidableEq

/-- The kind that a type name of the remote store stands for. -/
def FieldKind.ofRemote (name : String) : FieldKind :=
  let word := Text.lower name
  if word = "boolean" then .boolean
  else if word = "date" then .date
  else if word = "datetime" then .dateTime
  else if ["string", "id", "reference", "picklist", "textarea", "email", "phone", "url"].contains
      word then .text
  else .other

/-- The fields of an object in the order of their declaration. -/
structure Schema where
  object : String
  fields : List (String × FieldKind)
  deriving DecidableEq

namespace Schema

/-- The declared kind of a field; of several declarations the first counts. -/
def kind? (s : Schema) (field : String) : Option FieldKind := s.fields.lookup field

def declares (s : Schema) (field : String) : Bool := (s.kind? field).isSome

def fieldNames (s : Schema) : List String := s.fields.map (·.1)

end Schema

end RecordQuery
