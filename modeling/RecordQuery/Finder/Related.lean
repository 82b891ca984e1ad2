import RecordQuery.Finder.Basic
import RecordQuery.Query.Run
import RecordQuery.Record.Wire

namespace RecordQuery

variable {τ σ : Type}

/-- The values that have a key, each key once, in the order of their first appearance. -/
def distinctKeys (values : List Value) : List Value :=
  let rec go (seen : List String) : List Value → List Value
    | [] => []
    | v :: vs =>
      match v.joinKey with
      | none => go seen vs
      | some key => if seen.contains key then go seen vs else v :: go (key :: seen) vs
  go [] values

def Row.value (row : Row) (field : String) : Value :=
  match Fields.find? row field with
  | some j => .ofJson j
  | none => .null

/-- The query for what one parent is related to. A parent without a key has nothing to ask. -/
structure Lookup where
  relation : Relation
  finder : Finder
  keyed : Bool

namespace Lookup

/-- The related query with the condition that it finds what the parent leads to. -/
def constrained (r : Relation) (q : Query) (key : Value) : Traced Query :=
  match r.linkage with
  | .belongsTo _ ownerKey => pure (q.compare ownerKey .eq key)
  | .hasOne foreignKey _ | .hasMany foreignKey _ => pure (q.compare foreignKey .eq key)
  | .manyToMany junction pivotToParent pivotToRelated _ relatedKey =>
    q.inSubselect relatedKey false <| .built <|
      ((q.renewed.about junction).select [pivotToRelated]).compare pivotToParent .eq key

def ofParent (c : Catalog) (settings : Settings) (r : Relation) (parent : Record) :
    Traced Lookup := do
  let finder := Finder.all settings (c.describe r.related)
  let key := parent.value r.linkage.parentKey
  if key.isNull then return ⟨r, finder, false⟩
  else return ⟨r, { finder with query := ← constrained r finder.query key }, true⟩

def steps (l : Lookup) (c : Catalog) (ss : List FinderStep) : Traced Lookup := do
  return { l with finder := ← l.finder.steps c ss }

end Lookup

/-- The query for what a batch of parents is related to, their keys, and the rows of the junction
that were read for them. One query asks for all of the keys, so that no parent costs its own. -/
structure Batch where
  relation : Relation
  finder : Finder
  keys : List Value
  pivots : List Row

/-- Related records by the key of the parents they belong to. -/
abbrev Dictionary := FieldMap (List Record)

namespace Dictionary

def put (d : Dictionary) (key : String) (r : Record) : Dictionary :=
  d.insert key ((d.find? key).getD [] ++ [r])

/-- The dictionary of keyed records; under each key they keep their order. -/
def ofPairs (pairs : List (String × Record)) : Dictionary :=
  pairs.foldl (fun d e => put d e.1 e.2) .empty

end Dictionary

namespace Batch

def new (c : Catalog) (settings : Settings) (r : Relation) : Batch :=
  ⟨r, Finder.all settings (c.describe r.related), [], []⟩

def forParents (b : Batch) (parents : List Record) : Batch :=
  let keys := distinctKeys (parents.map fun p => p.value b.relation.linkage.parentKey)
  match b.relation.linkage with
  | .manyToMany .. => { b with keys }
  | l => { b with keys, finder := b.finder.mapQuery (·.require (.isIn l.relatedKey keys)) }

def steps (b : Batch) (c : Catalog) (ss : List FinderStep) : Traced Batch := do
  return { b with finder := ← b.finder.steps c ss }

def reset (b : Batch) (parents : List Record) : List Record :=
  parents.map fun p => p.setRelation b.relation.name (.nothing b.relation.linkage.isToOne)

/-- The related records of the batch, as `get` finds them. The key that results are dealt out by is
selected in any case. -/
def results (store : Store τ σ) (get : Finder → Task τ σ (List Record)) (b : Batch) :
    Task τ σ (List Record × Batch) := do
  if b.keys.isEmpty then return ([], b)
  let b := { b with finder := b.finder.mapQuery (·.ensureSelected b.relation.linkage.relatedKey) }
  match b.relation.linkage with
  | .manyToMany junction pivotToParent pivotToRelated _ relatedKey =>
    let junctionQuery := (b.finder.query.renewed.about junction).select
      [pivotToParent, pivotToRelated]
    let pivots ← (junctionQuery.require (.isIn pivotToParent b.keys)).run store
    let b := { b with pivots }
    let relatedKeys := distinctKeys (pivots.map fun row => Row.value row pivotToRelated)
    Task.emit (.joined b.relation.name pivots.length)
    if relatedKeys.isEmpty then return ([], b)
    return (← get (b.finder.mapQuery (·.require (.isIn relatedKey relatedKeys))), b)
  | _ => return (← get b.finder, b)

/-- The records, each with the key of a parent it belongs to. -/
def keyed (b : Batch) (results : List Record) : List (String × Record) :=
  match b.relation.linkage with
  | .manyToMany _ pivotToParent pivotToRelated _ relatedKey =>
    let byKey := results.reverse.filterMap fun r => (r.key relatedKey).map fun key => (key, r)
    b.pivots.filterMap fun row => do
      let parentKey ← (Row.value row pivotToParent).joinKey
      let key ← (Row.value row pivotToRelated).joinKey
      return (parentKey, ← byKey.lookup key)
  | l => results.filterMap fun r => (r.key l.relatedKey).map fun key => (key, r)

def dictionary (b : Batch) (results : List Record) : Dictionary := .ofPairs (b.keyed results)

def related (b : Batch) (d : Dictionary) (parent : Record) : Related Record :=
  let l := b.relation.linkage
  match (parent.key l.parentKey).bind d.find? with
  | none => .nothing l.isToOne
  | some records => if l.isToOne then .one records.head? else .many records

def deal (b : Batch) (d : Dictionary) (parents : List Record) : List Record :=
  parents.map fun p => p.setRelation b.relation.name (b.related d p)

end Batch

end RecordQuery
