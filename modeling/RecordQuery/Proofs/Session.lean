import RecordQuery.Store

namespace RecordQuery

variable {τ σ : Type} {α β : Type}

theorem Session.run_trace (x : Traced α) (s : Session τ σ) :
    (Session.trace x).run s = (x.value, { s with log := s.log ++ x.events }) := rfl

namespace Task

theorem run_bind (x : Task τ σ α) (f : α → Task τ σ β) (s : Session τ σ) :
    (x >>= f).run.run s =
      match x.run.run s with
      | (.ok a, s') => (f a).run.run s'
      | (.error fault, s') => (.error fault, s') := by
  rw [ExceptT.run_bind, StateT.run_bind]
  rcases x.run.run s with ⟨_ | _, s'⟩ <;> rfl

/-- A task goes on after a step that came to something. -/
theorem run_bind_ok {x : Task τ σ α} {a : α} {s s' : Session τ σ}
    (h : x.run.run s = (.ok a, s')) (f : α → Task τ σ β) :
    (x >>= f).run.run s = (f a).run.run s' := by
  rw [run_bind, h]

/-- A task ends with the first step that fails. -/
theorem run_bind_error {x : Task τ σ α} {fault : Fault} {s s' : Session τ σ}
    (h : x.run.run s = (.error fault, s')) (f : α → Task τ σ β) :
    (x >>= f).run.run s = (.error fault, s') := by
  rw [run_bind, h]

/-- What came to something did so in all of its steps. -/
theorem exists_of_run_bind {x : Task τ σ α} {f : α → Task τ σ β} {b : β} {s s'' : Session τ σ}
    (h : (x >>= f).run.run s = (.ok b, s'')) :
    ∃ a s', x.run.run s = (.ok a, s') ∧ (f a).run.run s' = (.ok b, s'') := by
  rw [run_bind] at h
  cases hx : x.run.run s with
  | mk answer s' =>
    rw [hx] at h
    cases answer with
    | error fault => exact nomatch congrArg Prod.fst h
    | ok a => exact ⟨a, s', rfl, h⟩

/-- A step that cannot fail. -/
theorem run_always {x : StateM (Session τ σ) α} {a : α} {s s' : Session τ σ}
    (h : x.run s = (a, s')) : (always x).run.run s = (.ok a, s') := by
  change ((x.run s >>= fun r => pure (.ok r.1, r.2)) : Id (Except Fault α × Session τ σ)) = _
  rw [h]
  rfl

theorem run_emit (e : Event) (s : Session τ σ) :
    (emit e : Task τ σ Unit).run.run s = (.ok (), { s with log := s.log ++ [e] }) := rfl

/-- The transport answers, and only its state changes. -/
theorem run_ask (f : τ → Except Fault α × τ) (s : Session τ σ) :
    (ExceptT.mk (Session.withTransport f) : Task τ σ α).run.run s =
      ((f s.transport).1, { s with transport := (f s.transport).2 }) := rfl

end Task

namespace Store

/-- The store with a list of the calls that were made. -/
def recorded (store : Store τ σ) : Store (τ × List Call) σ :=
  { store with transport := store.transport.recorded }

theorem run_send (store : Store τ σ) (endpoint : Endpoint) (text : String) (s : Session τ σ) :
    (store.send endpoint text).run.run s =
      ((store.transport.query endpoint text s.transport).1,
        { s with transport := (store.transport.query endpoint text s.transport).2 }) := rfl

theorem run_fetch (store : Store τ σ) (url : String) (s : Session τ σ) :
    (store.fetch url).run.run s =
      match store.transport.request "GET" url s.transport with
      | (.error fault, t) => (.error fault, { s with transport := t })
      | (.ok response, t) => (response.page, { s with transport := t }) := by
  rw [fetch, Task.run_bind, Task.run_ask]
  rcases store.transport.request "GET" url s.transport with ⟨_ | response, t⟩ <;> rfl

theorem recorded_query (store : Store τ σ) (endpoint : Endpoint) (text : String) (t : τ)
    (calls : List Call) :
    store.recorded.transport.query endpoint text (t, calls) =
      ((store.transport.query endpoint text t).1, (store.transport.query endpoint text t).2,
        calls ++ [.query endpoint text]) := rfl

theorem recorded_request (store : Store τ σ) (method url : String) (t : τ) (calls : List Call) :
    store.recorded.transport.request method url (t, calls) =
      ((store.transport.request method url t).1, (store.transport.request method url t).2,
        calls ++ [.request method url]) := rfl

theorem run_recorded_fetch (store : Store τ σ) (url : String) (t : τ) (calls : List Call)
    (schemas : σ) (log : List Event) :
    (store.recorded.fetch url).run.run ⟨(t, calls), schemas, log⟩ =
      match store.transport.request "GET" url t with
      | (.error fault, t') => (.error fault, ⟨(t', calls ++ [.request "GET" url]), schemas, log⟩)
      | (.ok response, t') =>
        (response.page, ⟨(t', calls ++ [.request "GET" url]), schemas, log⟩) := by
  rw [run_fetch, recorded_request]
  rcases store.transport.request "GET" url t with ⟨_ | response, t'⟩ <;> rfl

/-- A store that describes objects by a fixed rule, answers queries with the pages it holds, one
after the other, and refuses requests. -/
def scripted (describe : String → Except Fault Schema) (catalog : Catalog) :
    Store (List Page) Unit where
  transport := {
    instanceUrl := ""
    query := fun _ _ pages =>
      match pages with
      | [] => (.error (.transport "no answer"), [])
      | page :: rest => (.ok page, rest)
    request := fun _ _ pages => (.error (.transport "refused"), pages) }
  schemas := ⟨fun object state => pure (describe object, state)⟩
  settings := .default
  catalog := catalog

end Store

end RecordQuery
