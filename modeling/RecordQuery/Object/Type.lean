import RecordQuery.Fault

namespace RecordQuery

/-- How two objects are joined. A parent holds the key of its owner, or the related objects hold
the key of the parent, or rows of a junction object hold both. -/
inductive Linkage where
  | belongsTo (foreignKey ownerKey : String)
  | hasOne (foreignKey localKey : String)
  | hasMany (foreignKey localKey : String)
  | manyToMany (junction pivotToParent pivotToRelated parentKey relatedKey : String)
  deriving DecidableEq

namespace Linkage

def isToOne : Linkage → Bool
  | belongsTo .. | hasOne .. => true
  | hasMany .. | manyToMany .. => false

/-- The field of the parent that joins. -/
def parentKey : Linkage → String
  | belongsTo foreignKey _ => foreignKey
  | hasOne _ localKey | hasMany _ localKey => localKey
  | manyToMany _ _ _ parentKey _ => parentKey

/-- The field of the related object that joins. -/
def relatedKey : Linkage → String
  | belongsTo _ ownerKey => ownerKey
  | hasOne foreignKey _ | hasMany foreignKey _ => foreignKey
  | manyToMany _ _ _ _ relatedKey => relatedKey

end Linkage

/-- A named relation to another object. -/
structure Relation where
  name : String
  related : String
  linkage : Linkage
  deriving DecidableEq

structure ObjectType where
  object : String
  key : String
  relations : List Relation
  deriving DecidableEq

def ObjectType.relation (t : ObjectType) (name : String) : Except Fault Relation :=
  match t.relations.find? fun r => r.name == name with
  | some r => .ok r
  | none => .error (.unknownRelation t.object name)

structure Catalog where
  types : List ObjectType

/-- The type of an object; an object that nothing is known of has no relations. -/
def Catalog.describe (c : Catalog) (object : String) : ObjectType :=
  (c.types.find? fun t => t.object == object).getD ⟨object, "Id", []⟩

end RecordQuery
