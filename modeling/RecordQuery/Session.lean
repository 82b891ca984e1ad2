import RecordQuery.Fault
import RecordQuery.Log.Event

namespace RecordQuery

/-- The states of the transport and of the schema source, and the events so far in order. -/
structure Session (τ σ : Type) where
  transport : τ
  schemas : σ
  log : List Event

/-- A run that may fail; a fault keeps the session as it was when it arose. -/
abbrev Task (τ σ α : Type) := ExceptT Fault (StateM (Session τ σ)) α

namespace Session

/-- Puts events at the end of the log. -/
def report (events : List Event) : StateM (Session τ σ) Unit :=
  modify fun s => { s with log := s.log ++ events }

/-- Carries out a computation that only reports. -/
def trace (x : Traced α) : StateM (Session τ σ) α := do
  report x.events
  return x.value

def withTransport (f : τ → α × τ) : StateM (Session τ σ) α :=
  modifyGet fun s =>
    let (a, transport) := f s.transport
    (a, { s with transport })

def withSchemas (f : σ → Traced (α × σ)) : StateM (Session τ σ) α :=
  modifyGet fun s =>
    let ⟨(a, schemas), events⟩ := f s.schemas
    (a, { s with schemas, log := s.log ++ events })

end Session

namespace Task

/-- A run that never fails. -/
def always (x : StateM (Session τ σ) α) : Task τ σ α := ExceptT.lift x

def emit (e : Event) : Task τ σ Unit := always (Session.report [e])

/-- Carries out a computation that only reports, and fails as its value does. -/
def trace (x : Traced (Except Fault α)) : Task τ σ α := ExceptT.mk (Session.trace x)

end Task

end RecordQuery
