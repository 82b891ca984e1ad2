namespace RecordQuery

/-- How important a report is. -/
inductive Level where
  | trace
  | debug
  | info
  | warn
  | error
  deriving DecidableEq

inductive Event where
  /-- A query over an object begins to run. -/
  | began (object : String)
  /-- A query was turned into text. -/
  | compiled (text : String)
  /-- A page after the first is about to be fetched. -/
  | following (url : String) (page : Nat)
  /-- Every page of a query has been read. -/
  | drained (records pages : Nat)
  /-- The rows that join parents to related records have been read. -/
  | joined (relation : String) (rows : Nat)
  /-- The schema of an object was put into memory. -/
  | memorised (object : String) (fields : Nat)
  deriving DecidableEq

namespace Event

def level : Event → Level
  | began _ => .info
  | following .. => .trace
  | _ => .debug

/-- The named texts of an event; a message comes with every event but the beginning of a query. -/
def details : Event → List (String × String)
  | began object => [("object", object)]
  | compiled text => [("message", "compiled query"), ("soql", text)]
  | following url page =>
    [("message", "fetching next page"), ("url", url), ("page", toString page)]
  | drained records pages =>
    [("message", "drained query results"), ("records", toString records),
      ("pages", toString pages)]
  | joined relation rows =>
    [("message", "read junction rows"), ("relation", relation), ("pivots", toString rows)]
  | memorised object fields =>
    [("message", "cached object schema"), ("object", object), ("fields", toString fields)]

end Event

/-- A value and the events on the way to it, in order. -/
structure Traced (α : Type u) where
  value : α
  events : List Event

namespace Traced

def emit (e : Event) : Traced Unit := ⟨(), [e]⟩

instance : Monad Traced where
  pure a := ⟨a, []⟩
  bind x f := ⟨(f x.value).value, x.events ++ (f x.value).events⟩

@[simp] theorem value_pure (a : α) : (pure a : Traced α).value = a := rfl

@[simp] theorem events_pure (a : α) : (pure a : Traced α).events = [] := rfl

@[simp] theorem value_bind (x : Traced α) (f : α → Traced β) :
    (x >>= f).value = (f x.value).value := rfl

@[simp] theorem events_bind (x : Traced α) (f : α → Traced β) :
    (x >>= f).events = x.events ++ (f x.value).events := rfl

instance : LawfulMonad Traced := LawfulMonad.mk' Traced
  (fun x => by simp [Functor.map])
  (fun a f => by simp [pure, bind])
  (fun x f g => by simp [bind, List.append_assoc])

end Traced

end RecordQuery
