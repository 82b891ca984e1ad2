import RecordQuery.Proofs.Loading.Alone
import RecordQuery.Proofs.Pages.Delivery

namespace RecordQuery

variable {τ σ κ : Type} {store : Store τ σ}

namespace Retrieval

variable {α : Type}

def map {β : Type} (r : Retrieval α) (g : α → β) : Retrieval β :=
  ⟨r.batches.map (List.map g), r.fault, r.calls⟩

theorem map_map_congr {β γ : Type} (r : Retrieval α) {g : α → β} {g' : β → γ} {k : α → γ}
    (h : ∀ a, g' (g a) = k a) : (r.map g).map g' = r.map k := by
  have hk : (g' ∘ g) = k := funext h
  simp [map, Function.comp_def, ← hk]

/-- Everything in one list, if nothing failed. -/
def whole (r : Retrieval α) : Except Fault (List α) := r.fault.elim (.ok r.batches.flatten) .error

/-- In every session a run collects all that is retrieved, with these calls. -/
def Collects (r : Retrieval α) (run : Task (τ × List Call) σ (List α)) : Prop :=
  ∀ s, ∃ s', run.run.run s = (r.whole, s') ∧ s'.transport.2 = s.transport.2 ++ r.calls

/-- In every session a walk hands the batches over. A reader who wants more after each of them gets
them all, and the fault after them. A reader who declines one gets the batches up to it, with one
call for each and no fault. -/
structure HandsOver (r : Retrieval α)
    (walk : ∀ {κ : Type}, (κ → List α → Bool × κ) → κ →
      StateM (Session (τ × List Call) σ) (Except Fault Nat × κ)) : Prop where
  all : ∀ {κ : Type} (consume : κ → List α → Bool × κ) (seen : κ) (s : Session (τ × List Call) σ),
    Continues consume seen r.batches →
      ∃ s', (walk consume seen).run s =
          ((r.fault.elim (.ok r.batches.length) .error, handed consume seen r.batches), s') ∧
        s'.transport.2 = s.transport.2 ++ r.calls
  some : ∀ {κ : Type} (consume : κ → List α → Bool × κ) (seen : κ) (s : Session (τ × List Call) σ)
    (front : List (List α)) (last : List α), front ++ [last] <+: r.batches →
      Declines consume seen front last →
        ∃ s' made, (walk consume seen).run s =
            ((.ok (front.length + 1), handed consume seen (front ++ [last])), s') ∧
          s'.transport.2 = s.transport.2 ++ made ∧ made.length = front.length + 1 ∧
          made <+: r.calls

namespace HandsOver

variable {r : Retrieval α}
  {walk : ∀ {κ : Type}, (κ → List α → Bool × κ) → κ →
    StateM (Session (τ × List Call) σ) (Except Fault Nat × κ)}

/-- A reader of other items reads them as it gets them. -/
theorem map {β : Type} (h : r.HandsOver walk) (g : α → β) :
    (r.map g).HandsOver fun consume seen =>
      walk (fun seen batch => consume seen (batch.map g)) seen where
  all consume seen s hc := by
    have hc' := (continues_map consume (List.map g) seen r.batches).2 hc
    obtain ⟨s', hwalk, hcalls⟩ := h.all _ seen s hc'
    refine ⟨s', ?_, hcalls⟩
    rw [hwalk, handed_map]
    simp [Retrieval.map]
  some consume seen s front last hpages hc := by
    obtain ⟨pages, hpages', hmap⟩ := List.prefix_map_iff.1 hpages
    obtain ⟨front, rest, rfl, rfl, hrest⟩ := List.map_eq_append_iff.1 hmap.symm
    obtain ⟨last, rfl, rfl⟩ := List.map_eq_singleton_iff.1 hrest
    obtain ⟨s', made, hwalk, hcalls, hlen, hmade⟩ :=
      h.some _ seen s front last hpages' (declines_map _ _ seen hc)
    refine ⟨s', made, ?_, hcalls, by rw [hlen, List.length_map], hmade⟩
    rw [hwalk, handed_map]
    simp

/-- A walk hands over what another does, if it only leaves the transport alone before that one. -/
theorem of_run_eq {walk' : ∀ {κ : Type}, (κ → List α → Bool × κ) → κ →
      StateM (Session (τ × List Call) σ) (Except Fault Nat × κ)} (h : r.HandsOver walk)
    (heq : ∀ {κ : Type} (consume : κ → List α → Bool × κ) (seen : κ)
      (s : Session (τ × List Call) σ), ∃ s₁,
        (walk' consume seen).run s = (walk consume seen).run s₁ ∧ s₁.transport = s.transport) :
    r.HandsOver walk' where
  all consume seen s hc := by
    obtain ⟨s₁, hrun, hsame⟩ := heq consume seen s
    obtain ⟨s', hwalk, hcalls⟩ := h.all consume seen s₁ hc
    exact ⟨s', hrun.trans hwalk, by rw [hcalls, hsame]⟩
  some consume seen s front last hpages hc := by
    obtain ⟨s₁, hrun, hsame⟩ := heq consume seen s
    obtain ⟨s', made, hwalk, hcalls, hmade⟩ := h.some consume seen s₁ front last hpages hc
    exact ⟨s', made, hrun.trans hwalk, by rw [hcalls, hsame], hmade⟩

end HandsOver

end Retrieval

namespace Query

variable {β : Type} {q : Query}

theorem collects_run (h : store.Settled) (q : Query) (t : τ) :
    (q.delivery store t).toRetrieval.Collects (q.run store.recorded) := by
  rintro ⟨⟨t', calls⟩, schemas, log⟩
  obtain ⟨log', hrun⟩ := run_run store q t' calls schemas log
  rw [delivery_settled h q t t']
  exact ⟨_, hrun, rfl⟩

theorem handsOver_walkPages (h : store.Settled) (q : Query) (t : τ) :
    (q.delivery store t).toRetrieval.HandsOver fun consume seen =>
      q.walkPages store.recorded pure consume seen where
  all := by
    rintro κ consume seen ⟨⟨t', calls⟩, schemas, log⟩ hc
    rw [delivery_settled h q t t'] at hc ⊢
    obtain ⟨log', hwalk⟩ := run_walkPages hc calls schemas log
    exact ⟨_, hwalk, rfl⟩
  some := by
    rintro κ consume seen ⟨⟨t', calls⟩, schemas, log⟩ front last ⟨rest, hrest⟩ hc
    rw [delivery_settled h q t t'] at hrest ⊢
    rw [List.append_assoc] at hrest
    obtain ⟨t'', log', hwalk⟩ := run_walkPages_declined hrest.symm hc calls schemas log
    refine ⟨_, _, hwalk, rfl, ?_, List.take_prefix _ _⟩
    have hlen : front.length + 1 ≤ (q.delivery store t').batches.length := by
      rw [← hrest, List.length_append, List.singleton_append, List.length_cons]
      omega
    exact List.length_take_of_le (hlen.trans (length_batches_le store q t'))

/-- Pages that are prepared without a fault are handed over as the reader is to get them. -/
theorem walkPages_prepared {prepare : List Row → Task τ σ β} {g : List Row → β}
    (hprepare : ∀ rows s, (prepare rows).run.run s = (.ok (g rows), s))
    (consume : κ → β → Bool × κ) (seen : κ) (s : Session τ σ) :
    (q.walkPages store prepare consume seen).run s =
      (q.walkPages store pure (fun seen rows => consume seen (g rows)) seen).run s := by
  rcases hopen : (q.openStream store).run.run s with ⟨fault | stream, s'⟩
  · rw [run_walkPages_of_error hopen, run_walkPages_of_error hopen]
  · rcases hwalk : (stream.walk store pure (fun seen rows => consume seen (g rows)) seen 0).run s'
      with ⟨walk, s''⟩
    have hwalk' := (PageStream.walk_prepared hprepare consume stream seen 0 s').trans hwalk
    rw [run_walkPages_of_ok hopen hwalk', run_walkPages_of_ok hopen hwalk]

end Query

theorem agreeOn_withoutEnvelope {names : List String} (h : envelopeName ∉ names) (row : Row) :
    Row.AgreeOn names (withoutEnvelope row) row := by
  intro name hname
  have hne : (name != envelopeName) = true := bne_iff_ne.2 fun heq => h (heq ▸ hname)
  rw [withoutEnvelope, Fields.erase, Fields.find?_filter (· != envelopeName), if_pos hne]

/-- The envelope of a row is no part of its record, unless the schema declares a field of its
name. -/
theorem Record.hydrate_withoutEnvelope {schema : Schema} (h : envelopeName ∉ schema.fieldNames)
    (row : Row) : hydrate schema (withoutEnvelope row) = hydrate schema row :=
  hydrate_congr (agreeOn_withoutEnvelope h row)

namespace Finder

variable {f : Finder} {schema : Schema}

/-- What every run comes to when the schema is refused. -/
def refused (α : Type) (fault : Fault) : Retrieval α := ⟨[], some fault, []⟩

/-- A run on the prepared query collects what the query delivers. -/
theorem collects_prepared {α : Type} (h : store.Settled)
    (hd : ∀ state, (store.schemas.describe f.type.object state).value.1 = .ok schema)
    (g : Schema → Row → α) (t : τ) :
    (((f.preparedBy schema).delivery store t).toRetrieval.map (g schema)).Collects
      (do
        let (schema, query) ← f.prepared store.recorded
        return (← query.run store.recorded).map (g schema)) := by
  intro s
  obtain ⟨s₁, hprepared, hsame⟩ := exists_run_prepared store.recorded s (hd s.schemas)
  obtain ⟨s₂, hrun, hcalls⟩ := Query.collects_run h (f.preparedBy schema) t s₁
  rw [Task.run_bind_ok hprepared]
  refine ⟨s₂, ?_, by rw [hcalls, hsame]; rfl⟩
  dsimp only
  rw [Task.run_bind, hrun]
  unfold Retrieval.whole Retrieval.map
  cases ((f.preparedBy schema).delivery store t).fault with
  | none => simp [List.map_flatten]; rfl
  | some fault => rfl

theorem collects_refused {α : Type} {fault : Fault}
    (hd : ∀ state, (store.schemas.describe f.type.object state).value.1 = .error fault)
    (g : Schema × Query → Task (τ × List Call) σ (List α)) :
    (refused α fault).Collects (f.prepared store.recorded >>= g) := by
  intro s
  obtain ⟨s', hprepared, hsame⟩ := exists_run_prepared store.recorded s (hd s.schemas)
  refine ⟨s', Task.run_bind_error hprepared g, ?_⟩
  rw [hsame]
  exact (List.append_nil _).symm

theorem collects_get (hplan : f.plan = .empty) {r : Retrieval Record}
    (h : r.Collects (f.bare store.recorded)) : r.Collects (f.get store.recorded) := by
  intro s
  obtain ⟨s', hbare, hcalls⟩ := h s
  refine ⟨s', ?_, hcalls⟩
  rw [get, Task.run_bind, hbare]
  cases r.whole with
  | error fault => rfl
  | ok records => exact run_complete_of_empty hplan records s'

/-- The chunks of a finder without a plan are the pages of its query, as records. -/
theorem run_chunk_of_prepared (hplan : f.plan = .empty) {q : Query} {s s' : Session τ σ}
    (h : (f.prepared store).run.run s = (.ok (schema, q), s'))
    (consume : κ → List Record → Bool × κ) (seen : κ) :
    (f.chunk store consume seen).run s =
      (q.walkPages store pure (fun seen rows => consume seen (rows.map (Record.hydrate schema)))
        seen).run { s' with log := s'.log ++ [.began f.type.object] } := by
  have hprepare (rows : List Row) (s : Session τ σ) :
      (f.complete store (rows.map (Record.hydrate schema))).run.run s =
        (.ok (rows.map (Record.hydrate schema)), s) := run_complete_of_empty hplan _ s
  rw [← Query.walkPages_prepared hprepare]
  unfold chunk
  rw [StateT.run_bind, h]
  rfl

theorem handsOver_chunk (h : store.Settled) (hplan : f.plan = .empty)
    (hd : ∀ state, (store.schemas.describe f.type.object state).value.1 = .ok schema) (t : τ) :
    (((f.preparedBy schema).delivery store t).toRetrieval.map (Record.hydrate schema)).HandsOver
      fun consume seen => f.chunk store.recorded consume seen := by
  refine ((Query.handsOver_walkPages h (f.preparedBy schema) t).map
    (Record.hydrate schema)).of_run_eq fun consume seen s => ?_
  obtain ⟨s₁, hprepared, hsame⟩ := exists_run_prepared store.recorded s (hd s.schemas)
  exact ⟨_, run_chunk_of_prepared hplan hprepared consume seen, hsame⟩

theorem handsOver_refused {fault : Fault}
    (hd : ∀ state, (store.schemas.describe f.type.object state).value.1 = .error fault) :
    (refused Record fault).HandsOver fun consume seen => f.chunk store.recorded consume seen where
  all consume seen s _ := by
    obtain ⟨s', hprepared, hsame⟩ := exists_run_prepared store.recorded s (hd s.schemas)
    refine ⟨s', ?_, by rw [hsame]; exact (List.append_nil _).symm⟩
    unfold chunk
    rw [StateT.run_bind, hprepared]
    rfl
  some consume seen s front last hpages _ := by
    have hnil := List.prefix_nil.1 hpages
    exact absurd hnil (by simp)

/-- What the three ways to the findings of a finder come to. Rows are as the pages have them,
without their envelopes, and records are made from these rows by the schema of the object. -/
structure Retrieved (store : Store τ σ) (f : Finder) (schema : Schema) (rows : Retrieval Row) :
    Prop where
  described : rows.batches ≠ [] →
    ∀ state, (store.schemas.describe f.type.object state).value.1 = .ok schema
  getRows : rows.Collects (f.getRows store.recorded)
  get : (rows.map (Record.hydrate schema)).Collects (f.get store.recorded)
  chunk : (rows.map (Record.hydrate schema)).HandsOver fun consume seen =>
    f.chunk store.recorded consume seen

/-- Against a store that always answers alike, a finder without a plan gets the same by every way:
rows at once, records at once and records page by page are read with the same calls up to the same
fault, and the records are those of the rows. A reader of pages who declines one gets the pages up
to it, with one call for each. That holds of the pages of a bare query as well. -/
theorem retrievals_agree (h : store.Settled) (start : Session τ σ) :
    (∀ f : Finder, f.plan = .empty →
      (∀ state schema, (store.schemas.describe f.type.object state).value.1 = .ok schema →
        envelopeName ∉ schema.fieldNames) →
      ∃ schema rows, f.Retrieved store schema rows) ∧
    ∀ q : Query, ∃ rows : Retrieval Row, rows.Collects (q.run store.recorded) ∧
      rows.HandsOver fun consume seen => q.runChunked store.recorded consume seen := by
  refine ⟨fun f hplan henvelope => ?_, fun q => ?_⟩
  · cases hanswer : (store.schemas.describe f.type.object start.schemas).value.1 with
    | error fault =>
      have hd (state : σ) : (store.schemas.describe f.type.object state).value.1 = .error fault :=
        (h.described _ state start.schemas).trans hanswer
      exact ⟨⟨"", []⟩, refused Row fault, fun hne => absurd rfl hne, collects_refused hd _,
        collects_get hplan (collects_refused hd _), handsOver_refused hd⟩
    | ok schema =>
      have hd (state : σ) : (store.schemas.describe f.type.object state).value.1 = .ok schema :=
        (h.described _ state start.schemas).trans hanswer
      let rows := ((f.preparedBy schema).delivery store start.transport).toRetrieval
      have hrecords : (rows.map withoutEnvelope).map (Record.hydrate schema) =
          rows.map (Record.hydrate schema) :=
        rows.map_map_congr (Record.hydrate_withoutEnvelope (henvelope start.schemas schema hanswer))
      refine ⟨schema, rows.map withoutEnvelope, fun _ => hd,
        collects_prepared h hd (fun _ => withoutEnvelope) start.transport, ?_, ?_⟩
      · rw [hrecords]
        exact collects_get hplan (collects_prepared h hd Record.hydrate start.transport)
      · rw [hrecords]
        exact handsOver_chunk h hplan hd start.transport
  · let rows := (q.delivery store start.transport).toRetrieval
    refine ⟨rows, Query.collects_run h q start.transport,
      (Query.handsOver_walkPages h q start.transport).of_run_eq fun consume seen s => ?_⟩
    exact ⟨{ s with log := s.log ++ [.began q.object] }, rfl, rfl⟩

/-- A store that answers every query with a page that names another, and allows one page only. -/
def crowded : Store Unit Unit where
  transport := {
    instanceUrl := ""
    query := fun _ _ u =>
      (.ok (.before [[("Id", .text "001"), (envelopeName, .object [])]] "/more"), u)
    request := fun _ _ u => (.error (.transport "refused"), u) }
  schemas := ⟨fun object u => pure (.ok ⟨object, [("Id", .text)]⟩, u)⟩
  settings := { Settings.default with maxPages := 1 }
  catalog := ⟨[]⟩

def allAccounts : Finder := all .default ⟨"Account", "Id", []⟩

/-- Nothing is found as a whole, and still a reader who declines the first page has got it. -/
theorem retrieved_crowded :
    crowded.Settled ∧ allAccounts.plan = .empty ∧
    (∀ state schema,
      (crowded.schemas.describe allAccounts.type.object state).value.1 = .ok schema →
        envelopeName ∉ schema.fieldNames) ∧
    ∃ schema rows, allAccounts.Retrieved crowded schema rows ∧
      rows.whole = .error (.pageLimit 1) ∧
      ((allAccounts.chunk crowded.recorded (fun _ batch => (false, batch)) []).run
        ⟨((), []), (), []⟩).1 = (.ok 1, [.ofAttributes "Account" [("Id", .text "001")]]) := by
  have hsettled : crowded.Settled := ⟨fun _ _ _ _ => rfl, fun _ _ _ _ => rfl, fun _ _ _ => rfl⟩
  have henvelope (state : Unit) (schema : Schema)
      (h : (crowded.schemas.describe allAccounts.type.object state).value.1 = .ok schema) :
      envelopeName ∉ schema.fieldNames := by
    obtain rfl := Except.ok.inj h
    decide
  obtain ⟨schema, rows, hrows⟩ :=
    (retrievals_agree hsettled ⟨(), (), []⟩).1 allAccounts rfl henvelope
  refine ⟨hsettled, rfl, henvelope, schema, rows, hrows, ?_, ?_⟩
  · obtain ⟨s', hrun, -⟩ := hrows.getRows ⟨((), []), (), []⟩
    have hfailed : ((allAccounts.getRows crowded.recorded).run.run ⟨((), []), (), []⟩).1 =
        .error (.pageLimit 1) := by
      with_unfolding_all rfl
    rw [hrun] at hfailed
    exact hfailed
  · with_unfolding_all rfl

end Finder

end RecordQuery
