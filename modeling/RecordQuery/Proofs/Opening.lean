import RecordQuery.Proofs.Composition
import RecordQuery.Proofs.Pages.Delivery
import RecordQuery.Proofs.Query.Segments

namespace RecordQuery

variable {τ σ κ α β : Type} {store : Store τ σ}

/-- A run keeps the calls that were made before it. -/
def AddsCalls (x : StateM (Session (τ × List Call) σ) α) : Prop :=
  ∀ s, s.transport.2 <+: (x.run s).2.transport.2

/-- The first call that a run makes in a session. -/
def AsksFirst (x : StateM (Session (τ × List Call) σ) α) (s : Session (τ × List Call) σ)
    (call : Call) : Prop :=
  s.transport.2 ++ [call] <+: (x.run s).2.transport.2

namespace AddsCalls

variable {x : StateM (Session (τ × List Call) σ) α}

theorem pure (a : α) : AddsCalls (Pure.pure a : StateM (Session (τ × List Call) σ) α) :=
  fun _ => List.prefix_rfl

theorem bind {f : α → StateM (Session (τ × List Call) σ) β} (hx : AddsCalls x)
    (hf : ∀ s, AddsCalls (f (x.run s).1)) : AddsCalls (x >>= f) := by
  intro s
  have hfirst := hx s
  have hrest := hf s (x.run s).2
  exact hfirst.trans hrest

end AddsCalls

/-- No run takes a call back. -/
theorem Store.addsCalls (store : Store τ σ) : Inherited store.recorded AddsCalls where
  pure := .pure
  bind := .bind
  report _ _ := List.prefix_rfl
  schema _ _ := List.prefix_rfl
  send _ _ _ := List.prefix_append _ _
  request _ _ := List.prefix_append _ _

namespace AsksFirst

variable {s s' : Session (τ × List Call) σ} {call : Call}

/-- Steps after the first call do not change which it was. -/
theorem bind {x : StateM (Session (τ × List Call) σ) α}
    {f : α → StateM (Session (τ × List Call) σ) β} (hx : AsksFirst x s call)
    (hf : ∀ a, AddsCalls (f a)) : AsksFirst (x >>= f) s call := by
  have hrest := hf (x.run s).1 (x.run s).2
  exact hx.trans hrest

theorem task_bind {x : Task (τ × List Call) σ α} {f : α → Task (τ × List Call) σ β}
    (hx : AsksFirst x.run s call) (hf : ∀ a, AddsCalls (f a).run) :
    AsksFirst (x >>= f).run s call := by
  rw [ExceptT.run_bind]
  refine hx.bind fun answer => ?_
  cases answer with
  | error fault => exact .pure _
  | ok a => exact hf a

/-- Neither do steps before it that leave the transport alone. -/
theorem of_bind_ok {x : Task (τ × List Call) σ α} {a : α} (hx : x.run.run s = (.ok a, s'))
    (hsame : s'.transport = s.transport) {f : α → Task (τ × List Call) σ β}
    (h : AsksFirst (f a).run s' call) : AsksFirst (x >>= f).run s call := by
  rw [AsksFirst, Task.run_bind_ok hx, ← hsame]
  exact h

end AsksFirst

namespace Query

variable {q : Query} {text : String}

theorem asksFirst_send (store : Store τ σ) (endpoint : Endpoint) (text : String)
    (s : Session (τ × List Call) σ) :
    AsksFirst (store.recorded.send endpoint text).run s (.query endpoint text) := by
  obtain ⟨⟨t, calls⟩, schemas, log⟩ := s
  rw [AsksFirst, Store.run_send]
  exact List.prefix_rfl

theorem asksFirst_openStream (store : Store τ σ) (h : q.text.value = .ok text)
    (s : Session (τ × List Call) σ) :
    AsksFirst (q.openStream store.recorded).run s (.query (q.endpoint store.settings) text) := by
  refine .of_bind_ok (run_traceText h s) rfl ?_
  exact (asksFirst_send store _ text _).task_bind fun page => .pure _

theorem asksFirst_run (store : Store τ σ) (h : q.text.value = .ok text)
    (s : Session (τ × List Call) σ) :
    AsksFirst (q.run store.recorded).run s (.query (q.endpoint store.settings) text) := by
  refine .of_bind_ok (Task.run_emit (.began q.object) s) rfl ?_
  exact (asksFirst_openStream store h _).task_bind fun stream =>
    store.addsCalls.collect stream

theorem asksFirst_runFirstPage (store : Store τ σ) (h : q.text.value = .ok text)
    (s : Session (τ × List Call) σ) :
    AsksFirst (q.runFirstPage store.recorded).run s (.query (q.endpoint store.settings) text) := by
  refine .of_bind_ok (run_traceText h s) rfl ?_
  refine .of_bind_ok (Task.run_emit (.began q.object) _) rfl ?_
  exact asksFirst_send store _ text _

theorem asksFirst_walkPages (store : Store τ σ) (h : q.text.value = .ok text)
    {prepare : List Row → Task (τ × List Call) σ β} (hprepare : ∀ rows, AddsCalls (prepare rows).run)
    (consume : κ → β → Bool × κ) (seen : κ) (s : Session (τ × List Call) σ) :
    AsksFirst (q.walkPages store.recorded prepare consume seen) s
      (.query (q.endpoint store.settings) text) := by
  have hopen := asksFirst_openStream store h s
  refine hopen.bind fun answer => ?_
  cases answer with
  | error fault => exact .pure _
  | ok stream =>
    exact (store.addsCalls.walk hprepare consume stream seen 0).bind fun _ => .pure _

end Query

/-- What stands in the segments of a query that is written. -/
structure Query.Writes (q : Query) (g : Segments) : Prop where
  faultless : q.fault = none
  segments : q.statement.segments q.dialect = .ok g

namespace Query.Writes

variable {q : Query} {g : Segments} {c : Clause} {condition : String}

theorem text (h : q.Writes g) : q.text.value = .ok g.text :=
  value_text_eq_ok.2 ⟨h.faultless, Select.text_eq_ok.2 ⟨g, h.segments, rfl⟩⟩

theorem of_text {text : String} (h : q.text.value = .ok text) : ∃ g, q.Writes g ∧ text = g.text := by
  obtain ⟨hfault, htext⟩ := value_text_eq_ok.1 h
  obtain ⟨g, hg, rfl⟩ := Select.text_eq_ok.1 htext
  exact ⟨g, ⟨hfault, hg⟩, rfl⟩

theorem limit (h : q.Writes g) (n : Nat) : (q.limit n).Writes { g with limit := some n } :=
  ⟨h.faultless, Select.segments_limit h.segments (some n)⟩

theorem offset (h : q.Writes g) (n : Nat) : (q.offset n).Writes { g with offset := some n } :=
  ⟨h.faultless, Select.segments_offset h.segments (some n)⟩

theorem unordered (h : q.Writes g) : q.unordered.Writes { g with orders := [] } :=
  ⟨h.faultless, Select.segments_orders h.segments []⟩

theorem select (h : q.Writes g) {names : List String} (hnames : names ≠ []) :
    (q.select names).Writes { g with selection := names } :=
  ⟨h.faultless, Select.segments_names h.segments hnames⟩

theorem require (h : q.Writes g) (hc : Clause.text? q.dialect c = .ok (some condition)) :
    (q.require c).Writes { g with conditions := g.conditions ++ [condition] } :=
  ⟨h.faultless, Select.segments_require h.segments hc⟩

end Query.Writes

/-- A comparison for equality has a text whatever the value is, and is about its field. -/
theorem Query.exists_text_comparison_eq (d : Dialect) (field : String) (v : Value) :
    (∃ condition, Clause.text? d (comparison field .eq v) = .ok (some condition)) ∧
      (comparison field .eq v).field? = some field := by
  cases v <;> exact ⟨⟨_, rfl⟩, rfl⟩

theorem Query.endpoint_eq_queryAll (q : Query) (settings : Settings) :
    q.endpoint settings = .queryAll ↔
      ∃ c ∈ q.statement.clauses, ∃ field, c.field? = some field ∧
        field ∈ settings.archiveMarkers := by
  have harchive : q.asksForArchive settings = true ↔
      ∃ c ∈ q.statement.clauses, ∃ field, c.field? = some field ∧
        field ∈ settings.archiveMarkers := by
    simp only [asksForArchive, List.any_eq_true, List.mem_filterMap, Settings.isArchiveMarker,
      List.contains_iff_mem]
    constructor
    · rintro ⟨field, ⟨c, hc, hfield⟩, hmarker⟩
      exact ⟨c, hc, field, hfield, hmarker⟩
    · rintro ⟨c, hc, field, hfield, hmarker⟩
      exact ⟨field, ⟨c, hc, hfield⟩, hmarker⟩
  rw [← harchive, endpoint]
  cases q.asksForArchive settings <;> simp

theorem Query.endpoint_congr {q q' : Query} {settings : Settings}
    (h : q.statement.clauses = q'.statement.clauses) :
    q.endpoint settings = q'.endpoint settings := by
  rw [endpoint, endpoint, asksForArchive, asksForArchive, h]

theorem Query.endpoint_require {q : Query} {settings : Settings} {c : Clause} {field : String}
    (h : c.field? = some field) :
    (q.require c).endpoint settings =
      if field ∈ settings.archiveMarkers then .queryAll else q.endpoint settings := by
  have harchive : (q.require c).asksForArchive settings =
      (q.asksForArchive settings || settings.isArchiveMarker field) := by
    simp [asksForArchive, require, h]
  rw [endpoint, endpoint, harchive, Settings.isArchiveMarker]
  by_cases hmarker : field ∈ settings.archiveMarkers <;> simp [hmarker]

namespace Finder

variable {f : Finder} {schema : Schema} {g : Segments}

/-- Preparing names the fields where none are selected, and changes nothing else. -/
theorem preparedBy_mapQuery {h : Query → Query}
    (hfields : ∀ q, (h q).statement.fields = q.statement.fields)
    (hschema : ∀ q, (h q).withSchema schema = h (q.withSchema schema))
    (hselect : ∀ q names, (h q).select names = h (q.select names)) :
    (f.mapQuery h).preparedBy schema = h (f.preparedBy schema) := by
  have hsame : ((f.mapQuery h).query.withSchema schema).statement.fields =
      (f.query.withSchema schema).statement.fields := hfields f.query
  unfold preparedBy
  dsimp only
  rw [hsame]
  split
  · exact (congrArg (·.select schema.fieldNames) (hschema f.query)).trans (hselect _ _)
  · exact hschema f.query

theorem select_preparedBy (f : Finder) (schema : Schema) (names : List String) :
    (f.preparedBy schema).select names = (f.query.withSchema schema).select names := by
  unfold preparedBy
  dsimp only
  split <;> rfl

theorem clauses_preparedBy (f : Finder) (schema : Schema) :
    (f.preparedBy schema).statement.clauses = f.query.statement.clauses := by
  unfold preparedBy
  dsimp only
  split <;> rfl

section Prepared

variable {s : Session (τ × List Call) σ} {text : String}

/-- A run of a finder that gets its schema goes on with the query that was prepared. -/
theorem asksFirst_prepared {call : Call}
    (hschema : (store.schemas.describe f.type.object s.schemas).value.1 = .ok schema)
    {next : Schema × Query → Task (τ × List Call) σ α}
    (h : ∀ s, AsksFirst (next (schema, f.preparedBy schema)).run s call) :
    AsksFirst (f.prepared store.recorded >>= next).run s call := by
  obtain ⟨s', hprepared, hsame⟩ := exists_run_prepared store.recorded s hschema
  exact .of_bind_ok hprepared hsame (h s')

variable (hschema : (store.schemas.describe f.type.object s.schemas).value.1 = .ok schema)
  (hwrites : (f.preparedBy schema).Writes g)
include hschema hwrites

theorem asksFirst_get : AsksFirst (f.get store.recorded).run s
    (.query ((f.preparedBy schema).endpoint store.settings) g.text) := by
  have hbare : AsksFirst (f.bare store.recorded).run s
      (.query ((f.preparedBy schema).endpoint store.settings) g.text) :=
    asksFirst_prepared hschema fun s =>
      (Query.asksFirst_run store hwrites.text s).task_bind fun _ => .pure _
  exact hbare.task_bind (store.addsCalls.complete f)

theorem asksFirst_getRows : AsksFirst (f.getRows store.recorded).run s
    (.query ((f.preparedBy schema).endpoint store.settings) g.text) :=
  asksFirst_prepared hschema fun s =>
    (Query.asksFirst_run store hwrites.text s).task_bind fun _ => .pure _

theorem asksFirst_chunk (consume : κ → List Record → Bool × κ) (seen : κ) :
    AsksFirst (f.chunk store.recorded consume seen) s
      (.query ((f.preparedBy schema).endpoint store.settings) g.text) := by
  obtain ⟨s', hprepared, hsame⟩ := exists_run_prepared store.recorded s hschema
  let prepare (rows : List Row) := f.complete store.recorded (rows.map (Record.hydrate schema))
  have hprepare (rows : List Row) : AddsCalls (prepare rows).run := store.addsCalls.complete f _
  have hwalk := Query.asksFirst_walkPages store hwrites.text hprepare consume seen
    { s' with log := s'.log ++ [.began f.type.object] }
  rw [AsksFirst, chunk, StateT.run_bind, hprepared, ← hsame]
  exact hwalk

theorem asksFirst_count : AsksFirst (f.count store.recorded).run s
    (.query ((f.preparedBy schema).endpoint store.settings)
      { g with selection := ["COUNT()"], orders := [] }.text) := by
  have hnames : ["COUNT()"] ≠ [] := List.cons_ne_nil _ _
  have hcount := (hwrites.select hnames).unordered
  have hendpoint : ((f.preparedBy schema).select ["COUNT()"]).unordered.endpoint store.settings =
    (f.preparedBy schema).endpoint store.settings := rfl
  have hschema' : ∃ s', (store.recorded.schema f.type.object).run.run s = (.ok schema, s') ∧
      s'.transport = s.transport := ⟨_, Prod.ext hschema rfl, rfl⟩
  obtain ⟨s', hrun, hsame⟩ := hschema'
  refine .of_bind_ok hrun hsame ?_
  rw [select_preparedBy] at hcount hendpoint
  rw [← hendpoint]
  exact (Query.asksFirst_runFirstPage store hcount.text s').task_bind fun _ => .pure _

omit hwrites in
/-- A finder with something more said about its query begins with the query that is prepared, with
the same said about it. -/
theorem asksFirst_get_mapQuery {h : Query → Query}
    (hfields : ∀ q, (h q).statement.fields = q.statement.fields)
    (hwith : ∀ q, (h q).withSchema schema = h (q.withSchema schema))
    (hselect : ∀ q names, (h q).select names = h (q.select names))
    (hwrites : (h (f.preparedBy schema)).Writes g) :
    AsksFirst ((f.mapQuery h).get store.recorded).run s
      (.query ((h (f.preparedBy schema)).endpoint store.settings) g.text) := by
  have hprepared := preparedBy_mapQuery (f := f) hfields hwith hselect
  rw [← hprepared] at hwrites ⊢
  exact asksFirst_get hschema hwrites

theorem asksFirst_first : AsksFirst (f.first store.recorded).run s
    (.query ((f.preparedBy schema).endpoint store.settings) { g with limit := some 1 }.text) := by
  have hget := asksFirst_get_mapQuery hschema (h := (·.limit 1)) (fun _ => rfl) (fun _ => rfl)
    (fun _ _ => rfl) (hwrites.limit 1)
  exact hget.task_bind fun _ => .pure _

theorem asksFirst_paginate (perPage page : Nat) :
    AsksFirst (f.paginate store.recorded perPage page).run s
      (.query ((f.preparedBy schema).endpoint store.settings)
        { g with
          limit := some (min (perPage + 1) maxCount)
          offset := some (min ((max page 1 - 1) * perPage) maxCount) }.text) := by
  let skipped := min ((max page 1 - 1) * perPage) maxCount
  let most := min (perPage + 1) maxCount
  have hget := asksFirst_get_mapQuery hschema (h := fun q => (q.offset skipped).limit most)
    (fun _ => rfl) (fun _ => rfl) (fun _ _ => rfl) ((hwrites.offset skipped).limit most)
  exact hget.task_bind fun _ => .pure _

theorem asksFirst_find (key : Value) {condition : String}
    (hkey : Clause.text? (f.preparedBy schema).dialect (Query.comparison f.type.key .eq key) =
      .ok (some condition)) :
    AsksFirst (f.find store.recorded key).run s
      (.query (((f.preparedBy schema).compare f.type.key .eq key).endpoint store.settings)
        { g with conditions := g.conditions ++ [condition], limit := some 1 }.text) := by
  have hget := asksFirst_get_mapQuery hschema (h := fun q => (q.compare f.type.key .eq key).limit 1)
    (fun _ => rfl) (fun _ => rfl) (fun _ _ => rfl) ((hwrites.require hkey).limit 1)
  exact hget.task_bind fun _ => .pure _

end Prepared

/-- A finder that gets its schema, and whose query can be written once it is prepared, asks for that
query first in every way to run it, at one endpoint. Only the limit and the offset differ for the
first record or a page, the key is one condition more, and a count leaves out the order and what is
selected. Archived records are asked for exactly if a clause outside every group is about a field
that marks them. -/
theorem runs_begin_alike (store : Store τ σ) (f : Finder) (schema : Schema)
    (s : Session (τ × List Call) σ) {text : String}
    (hschema : (store.schemas.describe f.type.object s.schemas).value.1 = .ok schema)
    (htext : (f.preparedBy schema).text.value = .ok text) :
    let endpoint := f.query.endpoint store.settings
    ∃ g, (f.preparedBy schema).Writes g ∧ text = g.text ∧
      (endpoint = .queryAll ↔ ∃ c ∈ f.query.statement.clauses, ∃ field, c.field? = some field ∧
        field ∈ store.settings.archiveMarkers) ∧
      AsksFirst (f.get store.recorded).run s (.query endpoint g.text) ∧
      AsksFirst (f.getRows store.recorded).run s (.query endpoint g.text) ∧
      (∀ (κ : Type) (consume : κ → List Record → Bool × κ) (seen : κ),
        AsksFirst (f.chunk store.recorded consume seen) s (.query endpoint g.text)) ∧
      AsksFirst (f.first store.recorded).run s
        (.query endpoint { g with limit := some 1 }.text) ∧
      (∀ perPage page, AsksFirst (f.paginate store.recorded perPage page).run s
        (.query endpoint { g with
          limit := some (min (perPage + 1) maxCount)
          offset := some (min ((max page 1 - 1) * perPage) maxCount) }.text)) ∧
      AsksFirst (f.count store.recorded).run s
        (.query endpoint { g with selection := ["COUNT()"], orders := [] }.text) ∧
      ∀ key, (Query.comparison f.type.key .eq key).field? = some f.type.key ∧
        ∃ condition, Clause.text? (f.preparedBy schema).dialect
            (Query.comparison f.type.key .eq key) = .ok (some condition) ∧
        AsksFirst (f.find store.recorded key).run s
          (.query (if f.type.key ∈ store.settings.archiveMarkers then .queryAll else endpoint)
            { g with conditions := g.conditions ++ [condition], limit := some 1 }.text) := by
  intro endpoint
  obtain ⟨g, hwrites, rfl⟩ := Query.Writes.of_text htext
  have hendpoint : (f.preparedBy schema).endpoint store.settings = endpoint :=
    Query.endpoint_congr (clauses_preparedBy f schema)
  rw [← hendpoint]
  refine ⟨g, hwrites, rfl, ?_, asksFirst_get hschema hwrites, asksFirst_getRows hschema hwrites,
    fun κ => asksFirst_chunk hschema hwrites, asksFirst_first hschema hwrites,
    asksFirst_paginate hschema hwrites, asksFirst_count hschema hwrites, ?_⟩
  · rw [hendpoint]
    exact f.query.endpoint_eq_queryAll store.settings
  · intro key
    obtain ⟨⟨condition, hkey⟩, hfield⟩ :=
      Query.exists_text_comparison_eq (f.preparedBy schema).dialect f.type.key key
    refine ⟨hfield, condition, hkey, ?_⟩
    have hfind := asksFirst_find hschema hwrites key hkey
    rwa [Query.compare, Query.endpoint_require hfield] at hfind

/-- The count of some records is asked for with the literal that the records are asked for with. -/
theorem count_begins_alike :
    let schema : Schema := ⟨"Account", [("Id", .text), ("Active", .boolean)]⟩
    let store := Store.scripted (fun _ => .ok schema) ⟨[]⟩
    let f := (all .default ⟨"Account", "Id", []⟩).mapQuery fun q =>
      (q.compare "Active" .eq (.text "TRUE")).orderBy ⟨"Name", .ascending, none⟩
    (f.preparedBy schema).text.value =
      .ok "SELECT Id, Active FROM Account WHERE Active = true ORDER BY Name ASC" ∧
    ∀ s : Session (List Page × List Call) Unit,
      (store.schemas.describe f.type.object s.schemas).value.1 = .ok schema ∧
      AsksFirst (f.count store.recorded).run s
        (.query .query "SELECT COUNT() FROM Account WHERE Active = true") := by
  intro schema store f
  have htext : (f.preparedBy schema).text.value =
    .ok "SELECT Id, Active FROM Account WHERE Active = true ORDER BY Name ASC" := rfl
  refine ⟨htext, fun s => ?_⟩
  have hschema : (store.schemas.describe f.type.object s.schemas).value.1 = .ok schema := rfl
  obtain ⟨g, hwrites, -, -, -, -, -, -, -, hcount, -⟩ := runs_begin_alike store f schema s hschema htext
  have hg : g = ⟨["Id", "Active"], "Account", ["Active = true"], ["Name ASC"], none, none⟩ :=
    (Except.ok.inj hwrites.segments).symm
  rw [hg] at hcount
  exact ⟨hschema, hcount⟩

end Finder

end RecordQuery
