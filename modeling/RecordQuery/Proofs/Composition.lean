import RecordQuery.Entity.Basic
import RecordQuery.Proofs.Loading.Basic
import RecordQuery.Proofs.Pages.Basic

namespace RecordQuery

variable {τ σ α β κ : Type} {store : Store τ σ}

/-- A property of the steps that a store takes, and of steps one after the other. Of the answers to
a first step only those count that it comes to in some session. -/
structure Inherited (store : Store τ σ) (P : {α : Type} → StateM (Session τ σ) α → Prop) :
    Prop where
  pure : ∀ {α : Type} (a : α), P (Pure.pure a : StateM (Session τ σ) α)
  bind : ∀ {α β : Type} {x : StateM (Session τ σ) α} {f : α → StateM (Session τ σ) β},
    P x → (∀ s, P (f (x.run s).1)) → P (x >>= f)
  report : ∀ events, P (Session.report events : StateM (Session τ σ) Unit)
  schema : ∀ object, P (store.schema object).run
  send : ∀ endpoint text, P (store.send endpoint text).run
  request : ∀ url, P (ExceptT.mk (Session.withTransport fun t =>
    store.transport.request "GET" url t) : Task τ σ Response).run

namespace Inherited

variable {P : {α : Type} → StateM (Session τ σ) α → Prop}

theorem task_bind (h : Inherited store P) {x : Task τ σ α} {f : α → Task τ σ β} (hx : P x.run)
    (hf : ∀ a, P (f a).run) : P (x >>= f).run := by
  rw [ExceptT.run_bind]
  refine h.bind hx fun s => ?_
  cases (x.run.run s).1 with
  | error fault => exact h.pure _
  | ok a => exact hf a

theorem always (h : Inherited store P) {x : StateM (Session τ σ) α} (hx : P x) :
    P (Task.always x).run := by
  have hlift : (Task.always x).run = x >>= fun a => Pure.pure (.ok a) := by
    funext s
    exact Task.run_always rfl
  rw [hlift]
  exact h.bind hx fun s => h.pure _

theorem emit (h : Inherited store P) (e : Event) : P (Task.emit e : Task τ σ Unit).run :=
  h.always (h.report [e])

theorem trace (h : Inherited store P) (x : Traced α) :
    P (Session.trace x : StateM (Session τ σ) α) :=
  h.bind (h.report x.events) fun _ => h.pure _

theorem fetch (h : Inherited store P) (url : String) : P (store.fetch url).run :=
  h.task_bind (h.request url) fun _ => h.pure _

theorem follow (h : Inherited store P) (stream : PageStream) (cursor : String) :
    P (stream.follow store cursor).run := by
  unfold PageStream.follow
  split
  · exact h.pure _
  · refine h.task_bind (h.pure _) fun url => ?_
    exact h.task_bind (h.emit _) fun _ => h.fetch url

theorem next (h : Inherited store P) (stream : PageStream) : P (stream.next store) := by
  unfold PageStream.next
  split
  · exact h.pure _
  · exact h.pure _
  · refine h.bind (h.follow _ _) fun s => ?_
    split <;> exact h.pure _

/-- A walk takes one page after the other. -/
theorem walk_eq_bind (store : Store τ σ) (prepare : List Row → Task τ σ β)
    (consume : κ → β → Bool × κ) (stream : PageStream) (seen : κ) (pages : Nat) :
    stream.walk store prepare consume seen pages = (do
      match ← stream.next store with
      | (.error fault, rest) => return ⟨.error fault, seen, rest⟩
      | (.ok none, rest) => return ⟨.ok pages, seen, rest⟩
      | (.ok (some rows), rest) =>
        match ← (prepare rows).run with
        | .error fault => return ⟨.error fault, seen, rest⟩
        | .ok batch =>
          let (more, seen) := consume seen batch
          if more then rest.walk store prepare consume seen (pages + 1)
          else return ⟨.ok (pages + 1), seen, rest⟩) := by
  funext s
  refine (PageStream.run_walk prepare consume stream seen pages s).trans ?_
  change _ = StateT.run _ s
  rw [StateT.run_bind]
  rcases (stream.next store).run s with ⟨⟨_ | _ | rows, rest⟩, s'⟩
  · rfl
  · rfl
  · change _ = StateT.run _ s'
    dsimp only
    rw [StateT.run_bind]
    rcases (prepare rows).run.run s' with ⟨_ | batch, s''⟩
    · rfl
    · change (if (consume seen batch).1 then _ else _) =
        StateT.run (if (consume seen batch).1 then _ else _) s''
      split <;> rfl

/-- A walk has the property if the preparation of its pages has. -/
theorem walk (h : Inherited store P) {prepare : List Row → Task τ σ β}
    (hprepare : ∀ rows, P (prepare rows).run) (consume : κ → β → Bool × κ) (stream : PageStream)
    (seen : κ) (pages : Nat) : P (stream.walk store prepare consume seen pages) := by
  -- On the pages that the stream may still ask for, as the walk ends on them.
  induction hn : stream.remaining using Nat.strongRecOn generalizing stream seen pages with
  | ind n ih =>
    rw [walk_eq_bind]
    refine h.bind (h.next stream) fun s => ?_
    rcases hnext : (stream.next store).run s with ⟨⟨_ | _ | rows, rest⟩, s'⟩
    · exact h.pure _
    · exact h.pure _
    · have hless := PageStream.remaining_lt_of_next hnext
      refine h.bind (hprepare rows) fun s => ?_
      cases ((prepare rows).run.run s).1 with
      | error fault => exact h.pure _
      | ok batch =>
        dsimp only
        split
        · exact ih rest.remaining (hn ▸ hless) rest _ _ rfl
        · exact h.pure _

theorem collect (h : Inherited store P) (stream : PageStream) : P (stream.collect store).run := by
  have hpure (rows : List Row) : P (Pure.pure rows : Task τ σ (List Row)).run := h.pure _
  have hwalk := h.walk hpure (fun (seen rows : List Row) => (true, seen ++ rows)) stream [] 0
  refine h.task_bind (h.always hwalk) fun walked => ?_
  split
  · exact h.pure _
  · exact h.task_bind (h.emit _) fun _ => h.pure _

theorem openStream (h : Inherited store P) (q : Query) : P (q.openStream store).run := by
  refine h.task_bind (h.trace q.text) fun text => ?_
  exact h.task_bind (h.send _ text) fun page => h.pure _

theorem run (h : Inherited store P) (q : Query) : P (q.run store).run :=
  h.task_bind (h.emit _) fun _ => h.task_bind (h.openStream q) h.collect

theorem walkPages (h : Inherited store P) {prepare : List Row → Task τ σ β}
    (hprepare : ∀ rows, P (prepare rows).run) (q : Query) (consume : κ → β → Bool × κ)
    (seen : κ) : P (q.walkPages store prepare consume seen) := by
  refine h.bind (h.openStream q) fun s => ?_
  cases ((q.openStream store).run.run s).1 with
  | error fault => exact h.pure _
  | ok stream => exact h.bind (h.walk hprepare consume stream seen 0) fun _ => h.pure _

theorem runFirstPage (h : Inherited store P) (q : Query) : P (q.runFirstPage store).run := by
  refine h.task_bind (h.trace q.text) fun text => ?_
  exact h.task_bind (h.emit _) fun _ => h.send _ text

theorem prepared (h : Inherited store P) (f : Finder) : P (f.prepared store).run := by
  refine h.task_bind (h.schema f.type.object) fun schema => ?_
  dsimp only
  split <;> exact h.pure _

theorem bare (h : Inherited store P) (f : Finder) : P (f.bare store).run := by
  refine h.task_bind (h.prepared f) fun (schema, query) => ?_
  exact h.task_bind (h.run query) fun _ => h.pure _

/-- What a batch is related to is read with the property if its finders are run with it. -/
theorem results (h : Inherited store P) {get : Finder → Task τ σ (List Record)}
    (hget : ∀ f, P (get f).run) (b : Batch) : P (b.results store get).run := by
  have hanswered (f : Finder) (b' : Batch) : P (do return (← get f, b') :
      Task τ σ (List Record × Batch)).run := h.task_bind (hget f) fun _ => h.pure _
  unfold Batch.results
  split
  · exact h.pure _
  · dsimp only
    split
    · refine h.task_bind (h.run _) fun rows => ?_
      refine h.task_bind (h.emit _) fun _ => ?_
      split
      · exact h.pure _
      · exact hanswered _ _
    · exact hanswered _ _

theorem loadBelow (h : Inherited store P) {below : List LoadPlan.Tree}
    (hbelow : ∀ t records, P (LoadPlan.loadForest store t records below)) (f : Finder) :
    P (LoadPlan.loadBelow store below f).run := by
  refine h.task_bind (h.bare f) fun found => ?_
  split
  · exact h.pure _
  · refine h.task_bind (h.always (hbelow f.type found)) fun loaded => ?_
    split <;> exact h.pure _

mutual

theorem loadTree (h : Inherited store P) (t : ObjectType) (records : List Record) :
    ∀ tree : LoadPlan.Tree, P (LoadPlan.loadTree store t records tree)
  | .node relation steps below => by
    rw [LoadPlan.loadTree]
    split
    · exact h.pure _
    · refine h.bind (h.trace _) fun s => ?_
      have hbelow := h.loadBelow fun t found => loadForest h t found below
      refine h.bind (h.results hbelow _) fun s => ?_
      split <;> exact h.pure _

theorem loadForest (h : Inherited store P) (t : ObjectType) (records : List Record) :
    ∀ forest : List LoadPlan.Tree, P (LoadPlan.loadForest store t records forest)
  | [] => by
    rw [LoadPlan.loadForest]
    exact h.pure _
  | tree :: rest => by
    rw [LoadPlan.loadForest]
    refine h.bind (loadTree h t records tree) fun s => ?_
    split
    · exact h.pure _
    · exact loadForest h t _ rest

end

theorem loadRelations (h : Inherited store P) (f : Finder) (records : List Record) :
    P (f.loadRelations store records) := by
  unfold Finder.loadRelations LoadPlan.load
  split
  · exact h.pure _
  · exact h.loadForest f.type records _

theorem complete (h : Inherited store P) (f : Finder) (records : List Record) :
    P (f.complete store records).run := by
  refine h.task_bind (h.always (h.loadRelations f records)) fun loaded => ?_
  split <;> exact h.pure _

theorem get (h : Inherited store P) (f : Finder) : P (f.get store).run :=
  h.task_bind (h.bare f) (h.complete f)

theorem first (h : Inherited store P) (f : Finder) : P (f.first store).run :=
  h.task_bind (h.get _) fun _ => h.pure _

theorem getRows (h : Inherited store P) (f : Finder) : P (f.getRows store).run :=
  h.task_bind (h.prepared f) fun (_, query) => h.task_bind (h.run query) fun _ => h.pure _

theorem paginate (h : Inherited store P) (f : Finder) (perPage page : Nat) :
    P (f.paginate store perPage page).run :=
  h.task_bind (h.get _) fun _ => h.pure _

theorem chunk (h : Inherited store P) (f : Finder) (consume : κ → List Record → Bool × κ)
    (seen : κ) : P (f.chunk store consume seen) := by
  refine h.bind (h.prepared f) fun s => ?_
  cases ((f.prepared store).run.run s).1 with
  | error fault => exact h.pure _
  | ok found =>
    refine h.bind (h.report _) fun _ => ?_
    exact h.walkPages (fun rows => h.complete f _) found.2 consume seen

theorem count (h : Inherited store P) (f : Finder) : P (f.count store).run := by
  refine h.task_bind (h.schema f.type.object) fun schema => ?_
  exact h.task_bind (h.runFirstPage _) fun _ => h.pure _

theorem lookup (h : Inherited store P) (l : Lookup) : P (l.results store).run := by
  unfold Lookup.results
  dsimp only
  split
  · exact h.pure _
  · split
    · exact h.task_bind (h.first l.finder) fun _ => h.pure _
    · exact h.task_bind (h.get l.finder) fun _ => h.pure _

theorem load (h : Inherited store P) (t : ObjectType) (record : Record) (relation : String) :
    P (record.load store t relation) := by
  unfold Record.load
  split
  · exact h.pure _
  · split
    · exact h.pure _
    · refine h.bind (h.trace _) fun s => ?_
      refine h.bind (h.lookup _) fun s => ?_
      split <;> exact h.pure _

theorem values (h : Inherited store P) (e : Entity α) (f : Finder) : P (e.get store f).run :=
  h.task_bind (h.get f) fun _ => h.pure _

theorem chunkValues (h : Inherited store P) (e : Entity α) (f : Finder)
    (consume : κ → List α → Bool × κ) (seen : κ) : P (e.chunk store f consume seen) := by
  refine h.bind (h.chunk f _ (none, seen)) fun s => ?_
  split <;> exact h.pure _

end Inherited

end RecordQuery
