import RecordQuery.Calendar.Reading
import RecordQuery.Fault
import RecordQuery.Record.Basic
import RecordQuery.Schema.Basic
import RecordQuery.Value.Wire

namespace RecordQuery

open Calendar

/-- The value of wire data in a field of a given kind. A text that is no date or timestamp stays a
text. -/
def FieldKind.value (kind : FieldKind) (j : Json) : Value :=
  match kind, j with
  | .date, .text s => (Date.ofText? s).elim (.text s) .date
  | .dateTime, .text s => (DateTime.ofTimestamp? s).elim (.text s) .instant
  | _, j => .ofJson j

namespace Record

/-- The record of a row: the fields that the schema declares and the row has. -/
def hydrate (schema : Schema) (row : Row) : Record :=
  ofAttributes schema.object <| schema.fields.filterMap fun (field, kind) =>
    (Fields.find? row field).map fun j => (field, kind.value j)

mutual

/-- The wire data of a record: its attributes, and its relations under their names. -/
def toJson : Record → Json
  | ⟨_, attributes, _, relations⟩ =>
    .object <| (relationMembers relations).foldl (fun members e => Fields.insert members e.1 e.2)
      (attributes.entries.map fun e => (e.1, e.2.toJson))

def relationMembers : List (String × Related Record) → List (String × Json)
  | [] => []
  | (name, related) :: rest => (name, relatedJson related) :: relationMembers rest

def relatedJson : Related Record → Json
  | .one none => .null
  | .one (some record) => toJson record
  | .many records => .array (recordItems records)

def recordItems : List Record → List Json
  | [] => []
  | r :: rs => toJson r :: recordItems rs

end

/-- Reads a field as one of a given kind. -/
def read (r : Record) (reading : Value → Except Fault α) (field : String) : Except Fault α :=
  match r.get? field with
  | some v => reading v
  | none => .error (.missingField r.object field)

end Record

end RecordQuery
