import RecordQuery.Fault
import RecordQuery.Fields
import RecordQuery.Log.Event
import RecordQuery.Schema.Basic

namespace RecordQuery

structure SchemaSource (σ : Type) where
  describe : String → σ → Traced (Except Fault Schema × σ)

/-- Schemas by object; of two for one object the later counts. -/
structure SchemaTable where
  schemas : FieldMap Schema

namespace SchemaTable

def ofList (schemas : List Schema) : SchemaTable :=
  ⟨.ofList (schemas.map fun s => (s.object, s))⟩

def describe (t : SchemaTable) (object : String) : Except Fault Schema :=
  match t.schemas.find? object with
  | some schema => .ok schema
  | none => .error (.schemaUnavailable ("no description of " ++ object))

/-- The table as a source, whose state is the number of look-ups. -/
def source (t : SchemaTable) : SchemaSource Nat where
  describe object lookups := pure (t.describe object, lookups + 1)

end SchemaTable

/-- The state of a source behind a memory, and what is remembered. -/
structure SchemaMemo (σ : Type) where
  inner : σ
  known : FieldMap Schema

/-- The source behind a memory: a schema is asked for once, a failure is not remembered. -/
def SchemaSource.memorised (source : SchemaSource σ) : SchemaSource (SchemaMemo σ) where
  describe object memo :=
    match memo.known.find? object with
    | some schema => pure (.ok schema, memo)
    | none => do
      let (answer, inner) ← source.describe object memo.inner
      match answer with
      | .error fault => return (.error fault, { memo with inner })
      | .ok schema =>
        Traced.emit (.memorised object schema.fields.length)
        return (.ok schema, ⟨inner, memo.known.insert object schema⟩)

end RecordQuery
