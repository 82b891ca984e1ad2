import RecordQuery.PageStream
import RecordQuery.Query.Step

namespace RecordQuery.Query

variable {τ σ κ : Type}

def endpoint (q : Query) (settings : Settings) : Endpoint :=
  if q.asksForArchive settings then .queryAll else .query

/-- Writes and sends the query. -/
def openStream (store : Store τ σ) (q : Query) : Task τ σ PageStream := do
  let text ← Task.trace q.text
  PageStream.opened store (q.endpoint store.settings) text store.settings.maxPages.toNat

def run (store : Store τ σ) (q : Query) : Task τ σ (List Row) := do
  Task.emit (.began q.object)
  (← q.openStream store).collect store

/-- Hands the pages over, each prepared first, as long as the reader wants more; the answer is
how many pages there were and what the reader has. A fault does not take back what was handed
over. -/
def walkPages {β : Type} (store : Store τ σ) (q : Query) (prepare : List Row → Task τ σ β)
    (consume : κ → β → Bool × κ) (seen : κ) : StateM (Session τ σ) (Except Fault Nat × κ) := do
  match ← (q.openStream store).run with
  | .error fault => return (.error fault, seen)
  | .ok stream =>
    let walked ← stream.walk store prepare consume seen 0
    return (walked.pages, walked.seen)

def runChunked (store : Store τ σ) (q : Query) (consume : κ → List Row → Bool × κ) (seen : κ) :
    StateM (Session τ σ) (Except Fault Nat × κ) := do
  Session.report [.began q.object]
  q.walkPages store pure consume seen

def runFirstPage (store : Store τ σ) (q : Query) : Task τ σ Page := do
  let text ← Task.trace q.text
  Task.emit (.began q.object)
  store.send (q.endpoint store.settings) text

end RecordQuery.Query
