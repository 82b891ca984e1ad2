import RecordQuery.Finder.Run
import RecordQuery.Proofs.Query.Mistakes
import RecordQuery.Proofs.Session

namespace RecordQuery

variable {τ σ κ : Type} {store : Store τ σ} {α β : Type}

/-- A run that came to a fault without asking anything of the transport. -/
structure Unsent (before : Session τ σ) (run : Except Fault α × Session τ σ) : Prop where
  failed : ∃ fault, run.1 = .error fault
  unasked : run.2.transport = before.transport

namespace Unsent

theorem exists_eq {before : Session τ σ} {run : Except Fault α × Session τ σ}
    (h : Unsent before run) :
    ∃ fault after, run = (.error fault, after) ∧ after.transport = before.transport := by
  obtain ⟨⟨fault, hfault⟩, hsame⟩ := h
  exact ⟨fault, run.2, Prod.ext hfault rfl, hsame⟩

/-- A task whose first step is not sent is not sent. -/
theorem bind {x : Task τ σ α} {s : Session τ σ} (h : Unsent s (x.run.run s))
    (f : α → Task τ σ β) : Unsent s ((x >>= f).run.run s) := by
  obtain ⟨fault, after, hx, hsame⟩ := h.exists_eq
  rw [Task.run_bind_error hx]
  exact ⟨⟨fault, rfl⟩, hsame⟩

/-- A task is not sent if it only leaves the transport alone before it is not sent. -/
theorem of_bind_ok {x : Task τ σ α} {a : α} {s s' : Session τ σ}
    (hx : x.run.run s = (.ok a, s')) (hsame : s'.transport = s.transport) {f : α → Task τ σ β}
    (h : Unsent s' ((f a).run.run s')) : Unsent s ((x >>= f).run.run s) := by
  rw [Task.run_bind_ok hx]
  exact ⟨h.failed, h.unasked.trans hsame⟩

end Unsent

namespace Query

variable {q : Query} {fault : Fault}

theorem value_text_of_fault (h : q.fault = some fault) : q.text.value = .error fault := by
  rw [value_text, h]

theorem run_traceText {answer : Except Fault String} (h : q.text.value = answer)
    (s : Session τ σ) :
    (Task.trace q.text).run.run s = (answer, { s with log := s.log ++ q.text.events }) := by
  rw [← h]
  rfl

theorem unsent_traceText (h : q.text.value = .error fault) (s : Session τ σ) :
    Unsent s ((Task.trace q.text).run.run s) := by
  rw [run_traceText h]
  exact ⟨⟨fault, rfl⟩, rfl⟩

theorem unsent_openStream (store : Store τ σ) (h : q.text.value = .error fault) (s : Session τ σ) :
    Unsent s ((q.openStream store).run.run s) :=
  (unsent_traceText h s).bind _

theorem unsent_run (h : q.text.value = .error fault) (s : Session τ σ) :
    Unsent s ((q.run store).run.run s) := by
  have hbegan := Task.run_emit (.began q.object) s
  exact .of_bind_ok hbegan rfl ((unsent_openStream store h _).bind _)

theorem unsent_runFirstPage (h : q.text.value = .error fault) (s : Session τ σ) :
    Unsent s ((q.runFirstPage store).run.run s) :=
  (unsent_traceText h s).bind _

/-- A walk over the pages of a query without a text hands nothing over. -/
theorem run_walkPages_of_unsent {s : Session τ σ} (h : Unsent s ((q.openStream store).run.run s))
    (prepare : List Row → Task τ σ β) (consume : κ → β → Bool × κ) (seen : κ) :
    ∃ fault s', (q.walkPages store prepare consume seen).run s = ((.error fault, seen), s') ∧
      s'.transport = s.transport := by
  obtain ⟨fault, after, hopen, hsame⟩ := h.exists_eq
  refine ⟨fault, after, ?_, hsame⟩
  unfold walkPages
  rw [StateT.run_bind, hopen]
  rfl

theorem run_runChunked_of_unsent (h : q.text.value = .error fault)
    (consume : κ → List Row → Bool × κ) (seen : κ) (s : Session τ σ) :
    ∃ fault s', (q.runChunked store consume seen).run s = ((.error fault, seen), s') ∧
      s'.transport = s.transport := by
  obtain ⟨fault', s', hrun, hsame⟩ := run_walkPages_of_unsent
    (unsent_openStream store h { s with log := s.log ++ [.began q.object] })
    pure consume seen
  exact ⟨fault', s', hrun, hsame⟩

/-- Queries with the same mistakes have no text for the same reason. -/
theorem value_text_congr {q' : Query} (hfault : q'.fault = q.fault)
    (hstatement : q'.unwritable = q.unwritable) (h : q.text.value = .error fault) :
    q'.text.value = .error fault := by
  have hhead := head?_faults_text q'
  rw [hfault, hstatement, ← head?_faults_text, h] at hhead
  cases h' : q'.text.value with
  | ok text =>
    rw [h'] at hhead
    exact nomatch hhead
  | error cause =>
    rw [h'] at hhead
    obtain rfl := Option.some.inj hhead
    rfl

/-- Naming fields where none are selected does not help a query that cannot be written. -/
theorem unwritable_select (hfields : q.statement.fields = []) (names : List String) :
    (q.select names).unwritable = q.unwritable := by
  refine Select.faults_text_congr ?_ _ _
  rw [Select.walk_eq, Select.walk_eq, hfields]
  exact congrArg (· ++ _) (Selected.walkAll_fields names)

end Query

namespace Finder

variable {f : Finder} {fault : Fault}

/-- The query that is run once the schema is known. -/
def preparedBy (f : Finder) (schema : Schema) : Query :=
  let query := f.query.withSchema schema
  if query.statement.fields.isEmpty && !schema.fields.isEmpty then query.select schema.fieldNames
  else query

/-- Preparing asks the source of schemas alone. -/
theorem exists_run_prepared (store : Store τ σ) {f : Finder} (s : Session τ σ)
    {answer : Except Fault Schema}
    (h : (store.schemas.describe f.type.object s.schemas).value.1 = answer) :
    ∃ s', (f.prepared store).run.run s =
        (answer.map fun schema => (schema, f.preparedBy schema), s') ∧
      s'.transport = s.transport := by
  have hschema : ∃ s', (store.schema f.type.object).run.run s = (answer, s') ∧
      s'.transport = s.transport := ⟨_, Prod.ext h rfl, rfl⟩
  obtain ⟨s', hschema, hsame⟩ := hschema
  refine ⟨s', ?_, hsame⟩
  rw [prepared, Task.run_bind, hschema]
  cases answer with
  | error fault => rfl
  | ok schema =>
    dsimp only [preparedBy, Except.map]
    split <;> rfl

/-- A finder whose query has no text gets no schema, or prepares a query without a text. -/
theorem prepared_of_unwritten (store : Store τ σ) (h : f.query.text.value = .error fault)
    (s : Session τ σ) :
    Unsent s ((f.prepared store).run.run s) ∨
      ∃ schema q s', (f.prepared store).run.run s = (.ok (schema, q), s') ∧
        s'.transport = s.transport ∧ q.text.value = .error fault := by
  cases hanswer : (store.schemas.describe f.type.object s.schemas).value.1 with
  | error cause =>
    obtain ⟨s', hprepared, hsame⟩ := exists_run_prepared store s hanswer
    left
    rw [hprepared]
    exact ⟨⟨cause, rfl⟩, hsame⟩
  | ok schema =>
    obtain ⟨s', hprepared, hsame⟩ := exists_run_prepared store s hanswer
    refine .inr ⟨schema, f.preparedBy schema, s', hprepared, hsame, ?_⟩
    -- A schema changes the literals of a text, never whether there is one.
    have hwith : (f.query.withSchema schema).text.value = .error fault :=
      Query.value_text_congr (q := f.query) rfl (Select.faults_text_congr rfl _ _) h
    unfold preparedBy
    by_cases hselect : (f.query.withSchema schema).statement.fields.isEmpty &&
        !schema.fields.isEmpty
    · have hfields := List.isEmpty_iff.1 (Bool.and_eq_true_iff.1 hselect).1
      simp only [hselect, if_true]
      exact Query.value_text_congr (q := f.query.withSchema schema) rfl
        (Query.unwritable_select hfields schema.fieldNames) hwith
    · simp only [hselect]
      exact hwith

theorem unsent_of_prepared (h : f.query.text.value = .error fault) {g : Schema × Query → Task τ σ β}
    (hg : ∀ schema q s, q.text.value = .error fault → Unsent s ((g (schema, q)).run.run s))
    (s : Session τ σ) : Unsent s ((f.prepared store >>= g).run.run s) := by
  obtain hfailed | ⟨schema, q, s', hq, hsame, htext⟩ := prepared_of_unwritten store h s
  · exact hfailed.bind g
  · exact .of_bind_ok hq hsame (hg schema q s' htext)

theorem unsent_bare (h : f.query.text.value = .error fault) (s : Session τ σ) :
    Unsent s ((f.bare store).run.run s) :=
  unsent_of_prepared h (fun _ _ s htext => (Query.unsent_run htext s).bind _) s

theorem unsent_get (h : f.query.text.value = .error fault) (s : Session τ σ) :
    Unsent s ((f.get store).run.run s) :=
  (unsent_bare h s).bind _

theorem unsent_getRows (h : f.query.text.value = .error fault) (s : Session τ σ) :
    Unsent s ((f.getRows store).run.run s) :=
  unsent_of_prepared h (fun _ _ s htext => (Query.unsent_run htext s).bind _) s

theorem run_chunk_of_unwritten (h : f.query.text.value = .error fault)
    (consume : κ → List Record → Bool × κ) (seen : κ) (s : Session τ σ) :
    ∃ fault s', (f.chunk store consume seen).run s = ((.error fault, seen), s') ∧
      s'.transport = s.transport := by
  obtain hfailed | ⟨schema, q, s', hq, hsame, htext⟩ := prepared_of_unwritten store h s
  · obtain ⟨cause, after, hprepared, hsame⟩ := hfailed.exists_eq
    refine ⟨cause, after, ?_, hsame⟩
    unfold chunk
    rw [StateT.run_bind, hprepared]
    rfl
  · let prepare (rows : List Row) := f.complete store (rows.map (Record.hydrate schema))
    obtain ⟨cause, s'', hwalk, hkept⟩ := Query.run_walkPages_of_unsent
      (Query.unsent_openStream store htext
        { s' with log := s'.log ++ [.began f.type.object] }) prepare consume seen
    refine ⟨cause, s'', ?_, hkept.trans hsame⟩
    unfold chunk
    rw [StateT.run_bind, hq]
    exact hwalk

/-- A chain of steps keeps the first mistake of its evaluation, inner queries included, and whatever
follows, the query then has no text but that mistake. A query or a finder without a text, for this
or another reason, comes to a fault in every kind of run, hands nothing over, and makes no call. -/
theorem first_mistake_kept (store : Store τ σ) (c : Catalog) :
    (∀ (q : Query) (ss : List QueryStep), QueryStep.AllContinue ss →
      (q.steps ss).value.fault = q.fault.or (q.allMistakes ss).head? ∧
      ∀ fault, q.fault = some fault → (q.steps ss).value.fault = some fault) ∧
    (∀ (f : Finder) (ss : List FinderStep), FinderStep.AllContinue ss →
      (f.steps c ss).value.query.fault =
        f.query.fault.or (f.query.allFindMistakes c f.type ss).head? ∧
      ∀ fault, f.query.fault = some fault → (f.steps c ss).value.query.fault = some fault) ∧
    (∀ (q : Query) fault, q.fault = some fault → q.text.value = .error fault) ∧
    (∀ (q : Query) fault, q.text.value = .error fault → ∀ s : Session (τ × List Call) σ,
      Unsent s ((q.openStream store.recorded).run.run s) ∧
      Unsent s ((q.run store.recorded).run.run s) ∧
      Unsent s ((q.runFirstPage store.recorded).run.run s) ∧
      ∀ (κ : Type) (consume : κ → List Row → Bool × κ) (seen : κ), ∃ cause s',
        (q.runChunked store.recorded consume seen).run s = ((.error cause, seen), s') ∧
          s'.transport = s.transport) ∧
    (∀ (f : Finder) fault, f.query.text.value = .error fault → ∀ s : Session (τ × List Call) σ,
      Unsent s ((f.get store.recorded).run.run s) ∧
      Unsent s ((f.getRows store.recorded).run.run s) ∧
      ∀ (κ : Type) (consume : κ → List Record → Bool × κ) (seen : κ), ∃ cause s',
        (f.chunk store.recorded consume seen).run s = ((.error cause, seen), s') ∧
          s'.transport = s.transport) := by
  refine ⟨?_, ?_, fun q fault => Query.value_text_of_fault, ?_, ?_⟩
  · intro q ss hss
    have hfault := Query.fault_steps q ss hss
    refine ⟨hfault, fun fault h => ?_⟩
    rw [hfault, h]
    rfl
  · intro f ss hss
    have hfault := Query.fault_findSteps c f.type f.query ss hss
    refine ⟨hfault, fun fault h => ?_⟩
    change (f.query.findSteps c f.type ss).value.fault = some fault
    rw [hfault, h]
    rfl
  · intro q fault h s
    exact ⟨Query.unsent_openStream _ h s, Query.unsent_run h s, Query.unsent_runFirstPage h s,
      fun κ consume seen => Query.run_runChunked_of_unsent h consume seen s⟩
  · intro f fault h s
    exact ⟨unsent_get h s, unsent_getRows h s,
      fun κ consume seen => run_chunk_of_unwritten h consume seen s⟩

/-- Two mistakes: an operator inside a group, and a relation that no object has. -/
def mistaken : List FinderStep :=
  [.query (.group [.compareBy "Name" "~" (.text "x")]), .whereHas "Widgets" []]

/-- The operator is the mistake that is kept, and no account is asked for. -/
theorem operator_kept :
    FinderStep.AllContinue mistaken ∧
    ((all .default ⟨"Account", "Id", []⟩).steps ⟨[]⟩ mistaken).value.query.fault =
      some (.invalidOperator "~") ∧
    ∀ s : Session (List Page × List Call) Unit, Unsent s
      ((((all .default ⟨"Account", "Id", []⟩).steps ⟨[]⟩ mistaken).value.get
        (Store.scripted (fun object => .ok ⟨object, []⟩) ⟨[]⟩).recorded).run.run s) := by
  have hcontinue : FinderStep.AllContinue mistaken := by
    simp [mistaken, FinderStep.AllContinue, FinderStep.Continues, QueryStep.Continues,
      QueryStep.AllContinue]
  obtain ⟨-, hkept, htext, -, hunsent⟩ :=
    first_mistake_kept (Store.scripted (fun object => .ok ⟨object, []⟩) ⟨[]⟩) ⟨[]⟩
  have hfault : ((all .default ⟨"Account", "Id", []⟩).steps ⟨[]⟩ mistaken).value.query.fault =
      some (.invalidOperator "~") := by
    rw [(hkept _ mistaken hcontinue).1]
    decide
  exact ⟨hcontinue, hfault, fun s => (hunsent _ _ (htext _ _ hfault) s).1⟩

end Finder

end RecordQuery
