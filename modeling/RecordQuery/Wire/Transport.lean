import RecordQuery.Wire.Page

namespace RecordQuery

/-- Where a query is sent: to the live records, or to all records with archived and deleted ones. -/
inductive Endpoint where
  | query
  | queryAll
  deriving DecidableEq

/-- A client with states in `τ`, so that it may answer the same query differently later. Cursors are
resolved against the address of the instance. -/
structure Transport (τ : Type) where
  instanceUrl : String
  query : Endpoint → String → τ → Except Fault Page × τ
  request : String → String → τ → Except Fault Response × τ

/-- One use of a transport. -/
inductive Call where
  | query (endpoint : Endpoint) (text : String)
  | request (method url : String)
  deriving DecidableEq

namespace Call

def isQuery : Call → Bool
  | query .. => true
  | request .. => false

/-- The text of a query, or the address of a request. -/
def target : Call → String
  | query _ text => text
  | request _ url => url

end Call

/-- How many calls are expected of a run. -/
inductive CallBudget where
  | exactly (n : Nat)
  | atMost (n : Nat)

def CallBudget.allows (b : CallBudget) (calls : List Call) : Bool :=
  match b with
  | exactly n => calls.length == n
  | atMost n => calls.length ≤ n

/-- The transport with a list of its calls, the first one first. -/
def Transport.recorded (t : Transport τ) : Transport (τ × List Call) where
  instanceUrl := t.instanceUrl
  query endpoint text := fun (state, calls) =>
    let (answer, state) := t.query endpoint text state
    (answer, state, calls ++ [.query endpoint text])
  request method url := fun (state, calls) =>
    let (answer, state) := t.request method url state
    (answer, state, calls ++ [.request method url])

end RecordQuery
