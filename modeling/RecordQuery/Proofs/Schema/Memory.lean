import Mathlib.Data.Finset.Card
import RecordQuery.Proofs.Composition
import RecordQuery.Sample.Crm

namespace RecordQuery

variable {τ σ α κ : Type}

namespace SchemaSource

variable {source : SchemaSource σ} {memo : SchemaMemo σ} {object : String}

theorem value_memorised_of_known {schema : Schema}
    (h : memo.known.find? object = some schema) :
    (source.memorised.describe object memo).value = (.ok schema, memo) := by
  simp only [memorised, h]
  rfl

theorem value_memorised_of_new (h : memo.known.find? object = none) :
    (source.memorised.describe object memo).value =
      match (source.describe object memo.inner).value with
      | (.error fault, inner) => (.error fault, ⟨inner, memo.known⟩)
      | (.ok schema, inner) => (.ok schema, ⟨inner, memo.known.insert object schema⟩) := by
  simp only [memorised, h, Traced.value_bind]
  rcases (source.describe object memo.inner).value with ⟨_ | schema, inner⟩ <;> rfl

end SchemaSource

namespace SchemaTable

variable {t : SchemaTable} {objects : List String} {object : String} {memo : SchemaMemo Nat}

def describes (t : SchemaTable) (object : String) : Bool := t.schemas.contains object

/-- How often the table is asked for these objects: once for all requests of an object that it
describes, and for each request of any other. -/
def lookupsFor (t : SchemaTable) (objects : List String) : Nat :=
  (objects.filter t.describes).toFinset.card + objects.countP fun object => !t.describes object

theorem lookupsFor_concat_of_undescribed (h : t.describes object = false) :
    t.lookupsFor (objects ++ [object]) = t.lookupsFor objects + 1 := by
  simp [lookupsFor, h, Nat.add_assoc]

theorem lookupsFor_concat_of_old (h : t.describes object = true) (hold : object ∈ objects) :
    t.lookupsFor (objects ++ [object]) = t.lookupsFor objects := by
  simp [lookupsFor, h, hold]

theorem lookupsFor_concat_of_new (h : t.describes object = true) (hnew : object ∉ objects) :
    t.lookupsFor (objects ++ [object]) = t.lookupsFor objects + 1 := by
  simp [lookupsFor, h, hnew, Nat.add_right_comm]

/-- What a memory holds after requests for these objects: the schemas of those among them that the
table describes, and how often the table was asked. -/
structure Remembers (t : SchemaTable) (objects : List String) (memo : SchemaMemo Nat) : Prop where
  known : ∀ object, memo.known.find? object =
    if object ∈ objects then t.schemas.find? object else none
  lookups : memo.inner = t.lookupsFor objects

theorem remembers_nothing (t : SchemaTable) : t.Remembers [] ⟨0, .empty⟩ :=
  ⟨fun _ => rfl, rfl⟩

/-- After one more request the object that it was for is known if the table describes it, and
nothing else has changed. -/
theorem Remembers.known_concat (h : t.Remembers objects memo) (object other : String) :
    (if other ∈ objects ++ [object] then t.schemas.find? other else none) =
      if other = object then t.schemas.find? object else memo.known.find? other := by
  rw [h.known other]
  by_cases hother : other = object <;> simp [hother]

/-- One request. The answer is the table's, and the memory holds what it is to hold after it. -/
theorem Remembers.request (h : t.Remembers objects memo) (object : String) :
    ∃ memo', (t.source.memorised.describe object memo).value = (t.describe object, memo') ∧
      t.Remembers (objects ++ [object]) memo' := by
  have hknown := h.known object
  cases htable : t.schemas.find? object with
  | none =>
    have hundescribed : t.describes object = false := by
      rw [describes, FieldMap.contains, htable]
      rfl
    rw [htable, ite_self] at hknown
    refine ⟨⟨memo.inner + 1, memo.known⟩, ?_, fun other => ?_, ?_⟩
    · rw [SchemaSource.value_memorised_of_new hknown]
      simp only [source, describe, htable, Traced.value_pure]
    · rw [h.known_concat, htable]
      split
      · rename_i hother
        rw [hother, hknown]
      · rfl
    · rw [lookupsFor_concat_of_undescribed hundescribed, h.lookups]
  | some schema =>
    have hdescribed : t.describes object = true := by
      rw [describes, FieldMap.contains, htable]
      rfl
    by_cases hold : object ∈ objects
    · rw [if_pos hold, htable] at hknown
      refine ⟨memo, ?_, fun other => ?_, ?_⟩
      · rw [SchemaSource.value_memorised_of_known hknown, describe, htable]
      · rw [h.known_concat, htable]
        split
        · rename_i hother
          rw [hother, hknown]
        · rfl
      · rw [lookupsFor_concat_of_old hdescribed hold, h.lookups]
    · rw [if_neg hold] at hknown
      refine ⟨⟨memo.inner + 1, memo.known.insert object schema⟩, ?_, fun other => ?_, ?_⟩
      · rw [SchemaSource.value_memorised_of_new hknown]
        simp only [source, describe, htable, Traced.value_pure]
      · rw [h.known_concat, htable, FieldMap.find?_insert]
      · rw [lookupsFor_concat_of_new hdescribed hold, h.lookups]

end SchemaTable

/-- Requests for some objects, one after the other, and their answers. -/
def SchemaSource.answers {σ : Type} (source : SchemaSource σ) :
    List String → σ → List (Except Fault Schema) × σ
  | [], state => ([], state)
  | object :: rest, state =>
    let (answer, state) := (source.describe object state).value
    let (answers, state) := source.answers rest state
    (answer :: answers, state)

namespace SchemaTable

variable {t : SchemaTable} {objects : List String} {memo : SchemaMemo Nat}

theorem Remembers.answers (h : t.Remembers objects memo) (requested : List String) :
    ∃ memo', t.source.memorised.answers requested memo = (requested.map t.describe, memo') ∧
      t.Remembers (objects ++ requested) memo' := by
  induction requested generalizing objects memo with
  | nil => exact ⟨memo, rfl, by rwa [List.append_nil]⟩
  | cons object rest ih =>
    obtain ⟨memo₁, hanswer, h₁⟩ := h.request object
    obtain ⟨memo₂, hanswers, h₂⟩ := ih h₁
    rw [List.append_assoc] at h₂
    refine ⟨memo₂, ?_, h₂⟩
    rw [SchemaSource.answers, hanswer]
    dsimp only
    rw [hanswers, List.map_cons]

end SchemaTable

/-- A request for the schema of an object, with its answer. -/
structure SchemaRequest where
  object : String
  answer : Except Fault Schema

/-- The source with a list of the requests made of it, the first one first. -/
def SchemaSource.recorded {σ : Type} (source : SchemaSource σ) :
    SchemaSource (σ × List SchemaRequest) where
  describe object := fun (state, requests) => do
    let (answer, state) ← source.describe object state
    return (answer, state, requests ++ [⟨object, answer⟩])

/-- A run keeps what holds of the state of the source of schemas. -/
def KeepsSchemas (I : σ → Prop) (x : StateM (Session τ σ) α) : Prop :=
  ∀ s, I s.schemas → I (x.run s).2.schemas

/-- What each request for a schema keeps, every run keeps. -/
theorem inherited_keepsSchemas {store : Store τ σ} {I : σ → Prop}
    (h : ∀ object state, I state → I (store.schemas.describe object state).value.2) :
    Inherited store (KeepsSchemas I) where
  pure _ _ hs := hs
  bind hx hf s hs := hf s _ (hx s hs)
  report _ _ hs := hs
  schema object s hs := h object s.schemas hs
  send _ _ _ hs := hs
  request _ _ hs := hs

/-- Something that is done against a store. -/
inductive Operation : Type 1 where
  | schema (object : String)
  | get (f : Finder)
  | first (f : Finder)
  | rows (f : Finder)
  | paginate (f : Finder) (perPage page : Nat)
  | count (f : Finder)
  | chunk {κ : Type} (f : Finder) (consume : κ → List Record → Bool × κ) (seen : κ)
  | values {α : Type} (e : Entity α) (f : Finder)
  | chunkValues {α κ : Type} (e : Entity α) (f : Finder) (consume : κ → List α → Bool × κ)
    (seen : κ)
  | loadRelations (f : Finder) (records : List Record)
  | load (t : ObjectType) (record : Record) (relation : String)

namespace Operation

/-- Carries the operation out, whatever it comes to. -/
def run (store : Store τ σ) : Operation → StateM (Session τ σ) Unit
  | schema object => discard (store.schema object).run
  | get f => discard (f.get store).run
  | first f => discard (f.first store).run
  | rows f => discard (f.getRows store).run
  | paginate f perPage page => discard (f.paginate store perPage page).run
  | count f => discard (f.count store).run
  | chunk f consume seen => discard (f.chunk store consume seen)
  | values e f => discard (e.get store f).run
  | chunkValues e f consume seen => discard (e.chunk store f consume seen)
  | loadRelations f records => discard (f.loadRelations store records)
  | load t record relation => discard (record.load store t relation)

def runAll (store : Store τ σ) : List Operation → StateM (Session τ σ) Unit
  | [] => return ()
  | operation :: rest => do
    operation.run store
    runAll store rest

variable {store : Store τ σ} {P : {α : Type} → StateM (Session τ σ) α → Prop}

theorem inherited_discard (h : Inherited store P) {x : StateM (Session τ σ) α} (hx : P x) :
    P (discard x) := by
  have hbind : discard x = x >>= fun _ => pure () := rfl
  rw [hbind]
  exact h.bind hx fun _ => h.pure ()

theorem inherited_run (h : Inherited store P) (operation : Operation) :
    P (operation.run store) := by
  cases operation with
  | schema object => exact inherited_discard h (h.schema object)
  | get f => exact inherited_discard h (h.get f)
  | first f => exact inherited_discard h (h.first f)
  | rows f => exact inherited_discard h (h.getRows f)
  | paginate f perPage page => exact inherited_discard h (h.paginate f perPage page)
  | count f => exact inherited_discard h (h.count f)
  | chunk f consume seen => exact inherited_discard h (h.chunk f consume seen)
  | values e f => exact inherited_discard h (h.values e f)
  | chunkValues e f consume seen => exact inherited_discard h (h.chunkValues e f consume seen)
  | loadRelations f records => exact inherited_discard h (h.loadRelations f records)
  | load t record relation => exact inherited_discard h (h.load t record relation)

theorem inherited_runAll (h : Inherited store P) (operations : List Operation) :
    P (runAll store operations) := by
  induction operations with
  | nil => exact h.pure ()
  | cons operation rest ih =>
    rw [runAll]
    exact h.bind (inherited_run h operation) fun _ => ih

end Operation

namespace SchemaTable

variable {t : SchemaTable}

/-- All requests so far were answered as the table answers, and the memory holds what it is to hold
after them. -/
structure Answered (t : SchemaTable) (state : SchemaMemo Nat × List SchemaRequest) : Prop where
  answers : ∀ request ∈ state.2, request.answer = t.describe request.object
  remembers : t.Remembers (state.2.map (·.object)) state.1

theorem Answered.request {state : SchemaMemo Nat × List SchemaRequest} (h : t.Answered state)
    (object : String) :
    t.Answered (t.source.memorised.recorded.describe object state).value.2 := by
  obtain ⟨memo, requests⟩ := state
  obtain ⟨memo', hanswer, hremembers⟩ := h.remembers.request object
  have hafter : (t.source.memorised.recorded.describe object (memo, requests)).value.2 =
      (memo', requests ++ [⟨object, t.describe object⟩]) := by
    simp only [SchemaSource.recorded, Traced.value_bind, hanswer, Traced.value_pure]
  rw [hafter]
  refine ⟨List.forall_mem_append.2 ⟨h.answers, List.forall_mem_singleton.2 rfl⟩, ?_⟩
  rw [List.map_append]
  exact hremembers

/-- Requests of a fresh memory before a table, made one after the other or on the way of any
operations, are all answered as the table alone would answer them; and the table has been asked once
for each object requested that it describes, and once for each request of any other. -/
theorem memorised_faithful (t : SchemaTable) :
    (∀ objects, ∃ memo, t.source.memorised.answers objects ⟨0, .empty⟩ =
      (objects.map t.describe, memo) ∧ memo.inner = t.lookupsFor objects) ∧
    ∀ {τ : Type} (transport : Transport τ) (settings : Settings) (catalog : Catalog)
      (operations : List Operation) (start : τ) (log : List Event),
      let store := ⟨transport, t.source.memorised.recorded, settings, catalog⟩
      let after := ((Operation.runAll store operations).run ⟨start, (⟨0, .empty⟩, []), log⟩).2
      let (memo, requests) := after.schemas
      (∀ request ∈ requests, request.answer = t.describe request.object) ∧
        memo.inner = t.lookupsFor (requests.map (·.object)) := by
  refine ⟨fun objects => ?_, fun transport settings catalog operations start log => ?_⟩
  · obtain ⟨memo, hanswers, hremembers⟩ := t.remembers_nothing.answers objects
    exact ⟨memo, hanswers, hremembers.lookups⟩
  · intro store
    have hkeeps : Inherited store (KeepsSchemas t.Answered) :=
      inherited_keepsSchemas fun object _ h => h.request object
    have hfresh : t.Answered (⟨0, .empty⟩, []) := ⟨(fun _ h => nomatch h), t.remembers_nothing⟩
    have hafter := Operation.inherited_runAll hkeeps operations ⟨start, (⟨0, .empty⟩, []), log⟩ hfresh
    exact ⟨hafter.answers, hafter.remembers.lookups⟩

/-- Two runs over contacts need one look-up, and two requests for an object that is not described
need two. -/
example :
    let store : Store (List Page) _ :=
      { Store.scripted (fun object => .error (.schemaUnavailable object)) Crm.catalog with
        schemas := Crm.schemaSource.recorded }
    let contacts := Finder.all store.settings Crm.contact
    let operations := [.count contacts, .schema "Nope", .get contacts, .schema "Nope"]
    let after := ((Operation.runAll store operations).run ⟨[], (Crm.noSchemas, []), []⟩).2.schemas
    after.2.map (·.object) = ["Contact", "Nope", "Contact", "Nope"] ∧ after.1.inner = 3 := by
  with_unfolding_all decide

end SchemaTable

end RecordQuery
