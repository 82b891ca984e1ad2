import RecordQuery.Finder.Related

namespace RecordQuery

variable {τ σ : Type}

namespace Finder

/-- The query as it is run, with its schema. -/
def prepared (store : Store τ σ) (f : Finder) : Task τ σ (Schema × Query) := do
  let schema ← store.schema f.type.object
  let query := f.query.withSchema schema
  if query.statement.fields.isEmpty && !schema.fields.isEmpty then
    return (schema, query.select schema.fieldNames)
  else return (schema, query)

def bare (store : Store τ σ) (f : Finder) : Task τ σ (List Record) := do
  let (schema, query) ← f.prepared store
  return (← query.run store).map (Record.hydrate schema)

end Finder

/-- How loading ended: the records with what was loaded, and the fault that ended it. -/
structure Loaded where
  records : List Record
  fault : Option Fault

namespace LoadPlan

mutual

/-- Loads the relations of a forest, one after the other. -/
def loadForest (store : Store τ σ) (t : ObjectType) (records : List Record) :
    List Tree → StateM (Session τ σ) Loaded
  | [] => return ⟨records, none⟩
  | tree :: rest => do
    let loaded ← loadTree store t records tree
    match loaded.fault with
    | some _ => return loaded
    | none => loadForest store t loaded.records rest

def loadTree (store : Store τ σ) (t : ObjectType) (records : List Record) :
    Tree → StateM (Session τ σ) Loaded
  | .node relation steps below =>
    match t.relation relation with
    | .error fault => return ⟨records, some fault⟩
    | .ok r => do
      let c := store.catalog
      let batch ← Session.trace (((Batch.new c store.settings r).forParents records).steps c steps)
      let reset := batch.reset records
      let get (f : Finder) : Task τ σ (List Record) := do
        let related ← f.bare store
        if related.isEmpty then return related
        let loaded ← Task.always (loadForest store f.type related below)
        match loaded.fault with
        | some fault => throw fault
        | none => return loaded.records
      match ← (batch.results store get).run with
      | .error fault => return ⟨reset, some fault⟩
      | .ok (results, batch) => return ⟨batch.deal (batch.dictionary results) reset, none⟩

end

/-- Loads the relations of a plan onto records of a type. No records need no relations. -/
def load (store : Store τ σ) (t : ObjectType) (p : LoadPlan) (records : List Record) :
    StateM (Session τ σ) Loaded :=
  if records.isEmpty then return ⟨records, none⟩ else loadForest store t records p.forest

end LoadPlan

structure ListPage (α : Type) where
  items : List α
  page : Nat
  perPage : Nat
  hasMore : Bool

namespace Finder

def loadRelations (store : Store τ σ) (f : Finder) (records : List Record) :
    StateM (Session τ σ) Loaded :=
  f.plan.load store f.type records

/-- The records with their relations, or the fault that ended the loading. -/
def complete (store : Store τ σ) (f : Finder) (records : List Record) : Task τ σ (List Record) := do
  let loaded ← Task.always (f.loadRelations store records)
  match loaded.fault with
  | some fault => throw fault
  | none => return loaded.records

def get (store : Store τ σ) (f : Finder) : Task τ σ (List Record) := do
  f.complete store (← f.bare store)

def first (store : Store τ σ) (f : Finder) : Task τ σ (Option Record) := do
  return (← (f.mapQuery (·.limit 1)).get store).head?

def find (store : Store τ σ) (f : Finder) (key : Value) : Task τ σ (Option Record) :=
  (f.mapQuery (·.compare f.type.key .eq key)).first store

/-- The rows as they came, without their envelopes. -/
def getRows (store : Store τ σ) (f : Finder) : Task τ σ (List Row) := do
  let (_, query) ← f.prepared store
  return (← query.run store).map withoutEnvelope

/-- One page of the records; page 0 is page 1. One record more is asked for to see whether another
page follows. -/
def paginate (store : Store τ σ) (f : Finder) (perPage page : Nat) :
    Task τ σ (ListPage Record) := do
  let page := max page 1
  let offset := min ((page - 1) * perPage) maxCount
  let items ← (f.mapQuery fun q => (q.offset offset).limit (min (perPage + 1) maxCount)).get store
  return ⟨items.take perPage, page, perPage, perPage < items.length⟩

def chunk {κ : Type} (store : Store τ σ) (f : Finder) (consume : κ → List Record → Bool × κ)
    (seen : κ) : StateM (Session τ σ) (Except Fault Nat × κ) := do
  match ← (f.prepared store).run with
  | .error fault => return (.error fault, seen)
  | .ok (schema, query) =>
    Session.report [.began f.type.object]
    let prepare (rows : List Row) := f.complete store (rows.map (Record.hydrate schema))
    query.walkPages store prepare consume seen

/-- The number of records, as the store counts them. -/
def count (store : Store τ σ) (f : Finder) : Task τ σ UInt64 := do
  let schema ← store.schema f.type.object
  let page ← (((f.query.withSchema schema).select ["COUNT()"]).unordered).runFirstPage store
  return page.total.getD (UInt64.ofNat page.records.length)

end Finder

/-- What a parent is related to. A parent without a key asks nothing. -/
def Lookup.results (store : Store τ σ) (l : Lookup) : Task τ σ (Related Record) := do
  let toOne := l.relation.linkage.isToOne
  if !l.keyed then return .nothing toOne
  else if toOne then return .one (← l.finder.first store)
  else return .many (← l.finder.get store)

/-- What a relation of a record leads to, and the record with it; it is asked for only once. -/
def Record.load (store : Store τ σ) (t : ObjectType) (record : Record) (relation : String) :
    StateM (Session τ σ) (Except Fault (Related Record) × Record) := do
  match record.relation? relation with
  | some related => return (.ok related, record)
  | none =>
    match t.relation relation with
    | .error fault => return (.error fault, record)
    | .ok r =>
      let lookup ← Session.trace (Lookup.ofParent store.catalog store.settings r record)
      match ← (lookup.results store).run with
      | .error fault => return (.error fault, record)
      | .ok related => return (.ok related, record.setRelation relation related)

end RecordQuery
