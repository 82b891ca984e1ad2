import RecordQuery.Finder.Forest
import RecordQuery.Object.Type
import RecordQuery.Store

namespace RecordQuery

/-- A query for the records of a type, and the relations to load with them. -/
structure Finder where
  type : ObjectType
  query : Query
  plan : LoadPlan

def Relation.keyQuery (r : Relation) (related : ObjectType) (q : Query) : Query :=
  (q.renewed.about related.object).select [r.linkage.relatedKey]

/-- The query for the keys that parents are compared with, from the query for related keys. -/
def Linkage.parentKeyQuery (l : Linkage) (q related : Query) : Traced Query :=
  match l with
  | .manyToMany junction pivotToParent pivotToRelated _ _ =>
    ((q.renewed.about junction).select [pivotToParent]).inSubselect pivotToRelated false
      (.built related)
  | _ => pure related

namespace Query

/-- The field of a parent and the sub-select it is compared with, when a relation is to lead to
records whose query is narrowed. The parent's key must be among the keys that the sub-select finds,
over the related object or over the junction. -/
def semijoin (c : Catalog) (t : ObjectType) (q : Query) (relation : String)
    (narrowed : ObjectType → Query → Traced Query) : Traced (Except Fault (String × Query)) :=
  match t.relation relation with
  | .error fault => pure (.error fault)
  | .ok r => do
    let related := c.describe r.related
    let inner ← narrowed related (r.keyQuery related q)
    let keys ← r.linkage.parentKeyQuery q inner
    return .ok (r.linkage.parentKey, keys)

mutual

/-- What a step does to the query of a finder for objects of a type. -/
def findStep (c : Catalog) (t : ObjectType) (q : Query) : FinderStep → Traced Query
  | .query s => q.step s
  | .when condition steps => if condition then q.findSteps c t steps else pure q
  | .whereHas relation steps => do
    match ← q.semijoin c t relation fun related keys => keys.findSteps c related steps with
    | .error fault => pure (q.fail fault)
    | .ok (key, keys) => q.inSubselect key false (.built keys)
  | .load _ | .loadWith .. | .loadPlan _ => pure q

def findSteps (c : Catalog) (t : ObjectType) (q : Query) : List FinderStep → Traced Query
  | [] => pure q
  | s :: rest => do (← q.findStep c t s).findSteps c t rest

end

/-- The field of a parent and the sub-select it is compared with when a relation is to lead to
records that the steps keep. -/
def existence (c : Catalog) (t : ObjectType) (q : Query) (relation : String)
    (steps : List FinderStep) : Traced (Except Fault (String × Query)) :=
  q.semijoin c t relation fun related keys => keys.findSteps c related steps

section Existence

variable (c : Catalog) {t : ObjectType} (q : Query) {relation : String} (steps : List FinderStep)

theorem existence_of_error {fault : Fault} (h : t.relation relation = .error fault) :
    q.existence c t relation steps = pure (.error fault) := by
  rw [existence, semijoin, h]

theorem value_existence {r : Relation} (h : t.relation relation = .ok r) :
    (q.existence c t relation steps).value =
      let related := c.describe r.related
      let inner := ((r.keyQuery related q).findSteps c related steps).value
      .ok (r.linkage.parentKey, (r.linkage.parentKeyQuery q inner).value) := by
  rw [existence, semijoin, h]
  rfl

/-- A filter compares the field with the sub-select; without one it keeps the fault. -/
theorem findStep_whereHas (relation : String) :
    q.findStep c t (.whereHas relation steps) = (do
      match ← q.existence c t relation steps with
      | .error fault => pure (q.fail fault)
      | .ok (key, keys) => q.inSubselect key false (.built keys)) := by
  rw [findStep, existence]

end Existence

end Query

namespace Finder

def all (settings : Settings) (t : ObjectType) : Finder := ⟨t, settings.table t.object, .empty⟩

def steps (f : Finder) (c : Catalog) (ss : List FinderStep) : Traced Finder := do
  let query ← f.query.findSteps c f.type ss
  return { f with query, plan := f.plan.extendAll ss }

def mapQuery (f : Finder) (g : Query → Query) : Finder := { f with query := g f.query }

end Finder

end RecordQuery
