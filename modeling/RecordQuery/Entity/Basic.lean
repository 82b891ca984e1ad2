import RecordQuery.Finder.Run
import RecordQuery.Value.Read

namespace RecordQuery

/-- A type whose values are made from the records of an object. -/
structure Entity (α : Type) where
  type : ObjectType
  ofRecord : Record → Except Fault α

namespace Entity

variable {α τ σ κ : Type}

def ofRecords (e : Entity α) (records : List Record) : Except Fault (List α) :=
  records.mapM e.ofRecord

def all (e : Entity α) (settings : Settings) : Finder := .all settings e.type

def get (e : Entity α) (store : Store τ σ) (f : Finder) : Task τ σ (List α) := do
  let records ← f.get store
  ExceptT.mk (pure (e.ofRecords records))

def ofOptional (e : Entity α) : Option Record → Except Fault (Option α)
  | none => .ok none
  | some record => (e.ofRecord record).map some

def first (e : Entity α) (store : Store τ σ) (f : Finder) : Task τ σ (Option α) := do
  let record ← f.first store
  ExceptT.mk (pure (e.ofOptional record))

def find (e : Entity α) (store : Store τ σ) (f : Finder) (key : Value) :
    Task τ σ (Option α) := do
  let record ← f.find store key
  ExceptT.mk (pure (e.ofOptional record))

def paginate (e : Entity α) (store : Store τ σ) (f : Finder) (perPage page : Nat) :
    Task τ σ (ListPage α) := do
  let records ← f.paginate store perPage page
  let items ← ExceptT.mk (pure (e.ofRecords records.items))
  return { records with items }

/-- Hands the values over page by page. A record without a value ends the walk. -/
def chunk (e : Entity α) (store : Store τ σ) (f : Finder) (consume : κ → List α → Bool × κ)
    (seen : κ) : StateM (Session τ σ) (Except Fault Nat × κ) := do
  let convert : Option Fault × κ → List Record → Bool × Option Fault × κ :=
    fun (failure, seen) records =>
      match e.ofRecords records with
      | .error fault => (false, some fault, seen)
      | .ok items =>
        let (more, seen) := consume seen items
        (more, failure, seen)
  match ← f.chunk store convert (none, seen) with
  | (.error fault, _, seen) => return (.error fault, seen)
  | (.ok _, some fault, seen) => return (.error fault, seen)
  | (.ok pages, none, seen) => return (.ok pages, seen)

def shownManager (e : Entity α) : String :=
  "Manager \x7b object: " ++ Text.quoted e.type.object ++ ", .. \x7d"

end Entity

end RecordQuery
