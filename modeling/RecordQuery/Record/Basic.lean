import RecordQuery.Fields
import RecordQuery.Value.Basic

namespace RecordQuery

/-- What a relation leads to. -/
inductive Related (ρ : Type) where
  | one (record : Option ρ)
  | many (records : List ρ)

namespace Related

variable {ρ : Type}

def records : Related ρ → List ρ
  | one record => record.toList
  | many records => records

def isEmpty (r : Related ρ) : Bool := r.records.isEmpty

/-- The record of a relation to one. -/
def one? : Related ρ → Option ρ
  | one record => record
  | many _ => none

/-- The records of a relation to many. -/
def many? : Related ρ → List ρ
  | one _ => []
  | many records => records

def nothing (toOne : Bool) : Related ρ := if toOne then one none else many []

end Related

/-- A record. `original` holds the earlier value of every field that was set; the loaded relations
are in the order of their names. -/
structure Record where
  object : String
  attributes : FieldMap Value
  original : FieldMap Value
  relations : List (String × Related Record)

namespace Record

def new (object : String) : Record := ⟨object, .empty, .empty, []⟩

/-- A record of given attributes, none of them changed. -/
def ofAttributes (object : String) (attributes : List (String × Value)) : Record :=
  { new object with attributes := .ofList attributes }

instance : Inhabited Record := ⟨new ""⟩

mutual

def same : Record → Record → Bool
  | ⟨object, attributes, original, relations⟩, ⟨object', attributes', original', relations'⟩ =>
    object == object' && attributes == attributes' && original == original' &&
      sameRelations relations relations'

def sameRelations : List (String × Related Record) → List (String × Related Record) → Bool
  | [], [] => true
  | (a, x) :: xs, (b, y) :: ys => a == b && sameRelated x y && sameRelations xs ys
  | _, _ => false

def sameRelated : Related Record → Related Record → Bool
  | .one none, .one none => true
  | .one (some a), .one (some b) => same a b
  | .many as, .many bs => sameRecords as bs
  | _, _ => false

def sameRecords : List Record → List Record → Bool
  | [], [] => true
  | a :: as, b :: bs => same a b && sameRecords as bs
  | _, _ => false

end

/-- Records are the same when everything in them is, changes and relations included. -/
instance : BEq Record := ⟨same⟩

def get? (r : Record) (field : String) : Option Value := r.attributes.find? field

/-- The value of a field, null when the record does not have it. -/
def value (r : Record) (field : String) : Value := (r.get? field).getD .null

def key (r : Record) (field : String) : Option String := (r.value field).joinKey

/-- Sets a field. The value before the first change is kept. -/
def set (r : Record) (field : String) (v : Value) : Record :=
  { r with
    original :=
      if r.original.contains field then r.original else r.original.insert field (r.value field)
    attributes := r.attributes.insert field v }

/-- The fields whose value is no longer the original one, with the value they have now. -/
def changes (r : Record) : List (String × Value) :=
  (r.original.entries.filter fun e => r.value e.1 != e.2).map fun e => (e.1, r.value e.1)

/-- Whether the value of a field is no longer the original one. -/
def hasChanged (r : Record) (field : String) : Bool :=
  match r.original.find? field with
  | some before => r.value field != before
  | none => false

def isDirty (r : Record) : Bool := !r.changes.isEmpty

/-- Takes every change back. A field that was null before is removed. -/
def discardChanges (r : Record) : Record :=
  { r with
    attributes := r.original.entries.foldl
      (fun fields (field, before) =>
        if before.isNull then fields.erase field else fields.insert field before)
      r.attributes
    original := .empty }

/-- Puts a loaded relation in place of any earlier one. -/
def setRelation (r : Record) (name : String) (related : Related Record) : Record :=
  { r with relations := Fields.insert r.relations name related }

def relation? (r : Record) (name : String) : Option (Related Record) :=
  Fields.find? r.relations name

def relatedOne (r : Record) (name : String) : Option Record := (r.relation? name).bind Related.one?

def relatedMany (r : Record) (name : String) : List Record :=
  ((r.relation? name).map Related.many?).getD []

def takeRelation (r : Record) (name : String) : Option (Related Record) × Record :=
  (r.relation? name, { r with relations := Fields.erase r.relations name })

end Record

end RecordQuery
