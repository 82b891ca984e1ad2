import RecordQuery.Entity.Basic
import RecordQuery.Proofs.Retrieval
import RecordQuery.Proofs.Wire.Page

namespace RecordQuery

variable {τ σ κ α β : Type} {store : Store τ σ}

section Lists

variable {ε : Type} {f : α → Except ε β}

theorem mapM_eq_ok_iff {xs : List α} {ys : List β} :
    xs.mapM f = .ok ys ↔ List.Forall₂ (fun x y => f x = .ok y) xs ys := by
  induction xs generalizing ys with
  | nil =>
    rw [List.forall₂_nil_left_iff]
    exact ⟨fun h => (Except.ok.inj h).symm, fun h => congrArg Except.ok h.symm⟩
  | cons x xs ih =>
    rw [List.mapM_cons, List.forall₂_cons_left_iff]
    constructor
    · intro h
      cases hx : f x with
      | error fault =>
        rw [hx] at h
        exact nomatch h
      | ok y =>
        cases hxs : xs.mapM f with
        | error fault =>
          rw [hx, hxs] at h
          exact nomatch h
        | ok rest =>
          rw [hx, hxs] at h
          exact ⟨y, rest, rfl, ih.1 hxs, (Except.ok.inj h).symm⟩
    · rintro ⟨y, rest, hx, hxs, rfl⟩
      rw [hx, ih.2 hxs]
      rfl

/-- What comes after the first failure is not looked at. -/
theorem mapM_of_failure {front : List α} {values : List β} (hfront : front.mapM f = .ok values)
    {x : α} {fault : ε} (hx : f x = .error fault) (rest : List α) :
    (front ++ x :: rest).mapM f = .error fault := by
  rw [List.mapM_append, hfront, List.mapM_cons, hx]
  rfl

/-- A list is converted as a whole, or it has a first item that is not. -/
theorem mapM_or_first_failure (f : α → Except ε β) (xs : List α) :
    (∃ ys, xs.mapM f = .ok ys) ∨
      ∃ front x rest values fault, xs = front ++ x :: rest ∧ front.mapM f = .ok values ∧
        f x = .error fault := by
  induction xs with
  | nil => exact .inl ⟨[], rfl⟩
  | cons x xs ih =>
    cases hx : f x with
    | error fault => exact .inr ⟨[], x, xs, [], fault, rfl, rfl, hx⟩
    | ok y =>
      obtain ⟨ys, hys⟩ | ⟨front, failing, rest, values, fault, rfl, hfront, hfailing⟩ := ih
      · refine .inl ⟨y :: ys, ?_⟩
        rw [List.mapM_cons, hx, hys]
        rfl
      · refine .inr ⟨x :: front, failing, rest, y :: values, fault, rfl, ?_, hfailing⟩
        rw [List.mapM_cons, hx, hfront]
        rfl

/-- A list of lists is converted as the one list of all their items. -/
theorem mapM_flatten {batches : List (List α)} {values : List (List β)}
    (h : batches.mapM (List.mapM f) = .ok values) : batches.flatten.mapM f = .ok values.flatten := by
  have hvalues := mapM_eq_ok_iff.1 h
  clear h
  induction hvalues with
  | nil => rfl
  | cons hbatch _ ih =>
    rw [List.flatten_cons, List.mapM_append, hbatch, ih]
    rfl

end Lists

namespace Entity

variable {e : Entity α}

/-- These are the values of these records, one for each. -/
def Values (e : Entity α) : List Record → List α → Prop :=
  List.Forall₂ fun record value => e.ofRecord record = .ok value

theorem ofRecords_eq_ok_iff {records : List Record} {values : List α} :
    e.ofRecords records = .ok values ↔ e.Values records values := mapM_eq_ok_iff

theorem mapM_ofRecords_iff {batches : List (List Record)} {values : List (List α)} :
    batches.mapM e.ofRecords = .ok values ↔ List.Forall₂ e.Values batches values := by
  rw [mapM_eq_ok_iff]
  exact ⟨fun h => h.imp fun _ _ => ofRecords_eq_ok_iff.1, fun h => h.imp fun _ _ =>
    ofRecords_eq_ok_iff.2⟩

/-- The reader of records that hands a reader of values what the records are converted to. It keeps
the fault of a page that is not converted, and declines that page. -/
def reader (e : Entity α) (consume : κ → List α → Bool × κ) :
    Option Fault × κ → List Record → Bool × Option Fault × κ := fun (failure, seen) records =>
  match e.ofRecords records with
  | .error fault => (false, some fault, seen)
  | .ok items =>
    let (more, seen) := consume seen items
    (more, failure, seen)

theorem run_chunk (store : Store τ σ) (f : Finder) (consume : κ → List α → Bool × κ) (seen : κ)
    (s : Session τ σ) :
    (e.chunk store f consume seen).run s =
      match (f.chunk store (e.reader consume) (none, seen)).run s with
      | ((.error fault, _, seen), s') => ((.error fault, seen), s')
      | ((.ok _, some fault, seen), s') => ((.error fault, seen), s')
      | ((.ok pages, none, seen), s') => ((.ok pages, seen), s') := by
  unfold chunk
  rw [StateT.run_bind]
  change ((f.chunk store (e.reader consume) (none, seen)).run s >>= _) = _
  rcases (f.chunk store (e.reader consume) (none, seen)).run s with
    ⟨⟨_ | pages, _ | fault, seen⟩, s'⟩ <;> rfl

variable {consume : κ → List α → Bool × κ}

theorem reader_of_fault {records : List Record} {fault : Fault}
    (h : e.ofRecords records = .error fault) (failure : Option Fault) (seen : κ) :
    e.reader consume (failure, seen) records = (false, some fault, seen) := by
  unfold reader
  rw [h]

theorem reader_of_values {records : List Record} {values : List α}
    (h : e.Values records values) (failure : Option Fault) (seen : κ) :
    e.reader consume (failure, seen) records =
      ((consume seen values).1, failure, (consume seen values).2) := by
  unfold reader
  rw [ofRecords_eq_ok_iff.2 h]

/-- Along pages that are converted the reader goes on as the reader of their values does. -/
theorem reader_along {batches : List (List Record)} {values : List (List α)}
    (h : List.Forall₂ e.Values batches values) {seen : κ} (hc : Continues consume seen values)
    (failure : Option Fault) :
    Continues (e.reader consume) (failure, seen) batches ∧
      handed (e.reader consume) (failure, seen) batches = (failure, handed consume seen values) := by
  induction h generalizing seen with
  | nil => exact ⟨trivial, rfl⟩
  | cons hbatch _ ih =>
    obtain ⟨hmore, hhanded⟩ := ih hc.2
    rw [Continues, handed, List.foldl_cons, reader_of_values hbatch]
    exact ⟨⟨hc.1, hmore⟩, hhanded⟩

theorem reader_declines {front : List (List Record)} {values : List (List α)}
    (h : List.Forall₂ e.Values front values) {seen : κ} (hc : Continues consume seen values)
    {batch : List Record} {fault : Fault} (hbatch : e.ofRecords batch = .error fault) :
    Declines (e.reader consume) (none, seen) front batch ∧
      handed (e.reader consume) (none, seen) (front ++ [batch]) =
        (some fault, handed consume seen values) := by
  obtain ⟨hmore, hhanded⟩ := reader_along h hc none
  refine ⟨⟨hmore, ?_⟩, ?_⟩
  · rw [hhanded, reader_of_fault hbatch]
  · rw [handed, List.foldl_append, List.foldl_cons, List.foldl_nil]
    change (e.reader consume (handed (e.reader consume) (none, seen) front) batch).2 = _
    rw [hhanded, reader_of_fault hbatch]

end Entity

/-- The query of a finder is answered, in a state of the transport and of the source of schemas, by
a chain of pages that comes to its last page within the limit. -/
structure Finder.Drains (store : Store τ σ) (f : Finder) (schema : Schema) (text : String)
    (first : Page) (links : List (String × Page)) (t : τ) (state : σ) : Prop where
  described : (store.schemas.describe f.type.object state).value.1 = .ok schema
  written : (f.preparedBy schema).text.value = .ok text
  answered : ∃ t', PageStream.Answers store ((f.preparedBy schema).endpoint store.settings) text t
    first links t'
  done : (PageStream.endOf first links).done = true
  limit : links.length + 1 ≤ max 1 store.settings.maxPages.toNat

namespace Finder

/-- The pages of a chain as records. -/
def batchesOf (schema : Schema) (first : Page) (links : List (String × Page)) :
    List (List Record) :=
  (first :: links.map (·.2)).map fun page => page.records.map (Record.hydrate schema)

theorem flatten_batchesOf (schema : Schema) (first : Page) (links : List (String × Page)) :
    (batchesOf schema first links).flatten =
      ((first :: links.map (·.2)).map (·.records)).flatten.map (Record.hydrate schema) := by
  rw [batchesOf, List.map_flatten, List.map_map]
  rfl

/-- The calls that a chain of pages takes from the query of a finder on. -/
def callsFor (f : Finder) (store : Store τ σ) (schema : Schema) (text : String)
    (links : List (String × Page)) : List Call :=
  PageStream.callsOf ((f.preparedBy schema).endpoint store.settings) text links

namespace Drains

variable {f : Finder} {schema : Schema} {text : String} {first : Page}
  {links : List (String × Page)} {s : Session (τ × List Call) σ}

/-- What the query comes to are the pages of the chain, without a fault and with a call for each. -/
theorem delivery {t : τ} {state : σ} (h : f.Drains store schema text first links t state) :
    ((f.preparedBy schema).delivery store t).toRetrieval =
      ⟨(first :: links.map (·.2)).map (·.records), none, f.callsFor store schema text links⟩ := by
  obtain ⟨t', t₁, hquery, chain⟩ := h.answered
  have hlimit : links.length ≤ store.settings.maxPages.toNat - 1 := by
    have := h.limit
    omega
  have hreading := PageStream.reading_of_done chain h.done 1 hlimit
  unfold Query.delivery
  rw [h.written]
  dsimp only
  rw [hquery]
  dsimp only
  rw [hreading]
  simp only [callsFor, PageStream.callsOf, List.map_map]
  rfl

/-- The finder is prepared without a call, and then its query comes to the pages of the chain. -/
theorem exists_prepared (h : f.Drains store schema text first links s.transport.1 s.schemas) :
    ∃ s₁, (f.prepared store.recorded).run.run s = (.ok (schema, f.preparedBy schema), s₁) ∧
      s₁.transport.2 = s.transport.2 ∧
      ((f.preparedBy schema).delivery store s₁.transport.1).toRetrieval =
        ⟨(first :: links.map (·.2)).map (·.records), none, f.callsFor store schema text links⟩ := by
  obtain ⟨s₁, hprepared, hsame⟩ := exists_run_prepared store.recorded s h.described
  exact ⟨s₁, hprepared, congrArg Prod.snd hsame, by rw [hsame, h.delivery]⟩

/-- All records are those of the pages of the chain. -/
theorem run_get (h : f.Drains store schema text first links s.transport.1 s.schemas)
    (hplan : f.plan = .empty) :
    ∃ s', (f.get store.recorded).run.run s = (.ok (batchesOf schema first links).flatten, s') ∧
      s'.transport.2 = s.transport.2 ++ f.callsFor store schema text links := by
  obtain ⟨⟨⟨t, calls⟩, schemas, log⟩, hprepared, hcalls, hdelivery⟩ := h.exists_prepared
  obtain ⟨log', hrun⟩ := Query.run_run store (f.preparedBy schema) t calls schemas log
  rw [hdelivery] at hrun
  have hbare : ∃ s', (f.bare store.recorded).run.run s =
      (.ok (batchesOf schema first links).flatten, s') ∧
        s'.transport.2 = calls ++ f.callsFor store schema text links := by
    rw [bare, Task.run_bind_ok hprepared]
    dsimp only
    rw [Task.run_bind_ok hrun, flatten_batchesOf]
    exact ⟨_, rfl, rfl⟩
  obtain ⟨s', hbare, hmade⟩ := hbare
  exact ⟨s', run_get_of_bare hplan hbare, by rw [hmade, ← hcalls]⟩

variable {consume : κ → List Record → Bool × κ} {seen : κ}

/-- A reader who wants more after each page gets them all. -/
theorem run_chunk (h : f.Drains store schema text first links s.transport.1 s.schemas)
    (hplan : f.plan = .empty) (hc : Continues consume seen (batchesOf schema first links)) :
    ∃ s', (f.chunk store.recorded consume seen).run s =
        ((.ok (batchesOf schema first links).length,
          handed consume seen (batchesOf schema first links)), s') ∧
      s'.transport.2 = s.transport.2 ++ f.callsFor store schema text links := by
  obtain ⟨⟨⟨t, calls⟩, schemas, log⟩, hprepared, hcalls, hdelivery⟩ := h.exists_prepared
  have hbatches : batchesOf schema first links =
      ((f.preparedBy schema).delivery store t).batches.map (List.map (Record.hydrate schema)) := by
    rw [hdelivery, List.map_map]
    rfl
  rw [hbatches] at hc ⊢
  obtain ⟨log', hwalk⟩ := Query.run_walkPages ((continues_map consume _ seen _).2 hc) calls schemas
    (log ++ [.began f.type.object])
  have hchunk := (run_chunk_of_prepared hplan hprepared consume seen).trans hwalk
  rw [handed_map, hdelivery] at hchunk
  rw [hdelivery, List.length_map]
  exact ⟨_, hchunk, by rw [← hcalls]⟩

/-- A reader who declines a page gets the pages up to it, and no page after it is asked for. -/
theorem run_chunk_declined (h : f.Drains store schema text first links s.transport.1 s.schemas)
    (hplan : f.plan = .empty) {front rest : List (List Record)} {last : List Record}
    (hbatches : batchesOf schema first links = front ++ last :: rest)
    (hc : Declines consume seen front last) :
    ∃ s', (f.chunk store.recorded consume seen).run s =
        ((.ok (front.length + 1), handed consume seen (front ++ [last])), s') ∧
      s'.transport.2 = s.transport.2 ++ f.callsFor store schema text (links.take front.length) := by
  obtain ⟨⟨⟨t, calls⟩, schemas, log⟩, hprepared, hcalls, hdelivery⟩ := h.exists_prepared
  have hpages : ((f.preparedBy schema).delivery store t).batches.map
      (List.map (Record.hydrate schema)) = front ++ last :: rest := by
    rw [hdelivery, ← hbatches, List.map_map]
    rfl
  obtain ⟨front, others, hsplit, rfl, hothers⟩ := List.map_eq_append_iff.1 hpages
  obtain ⟨last, rest, rfl, rfl, rfl⟩ := List.map_eq_cons_iff.1 hothers
  obtain ⟨t', log', hwalk⟩ := Query.run_walkPages_declined hsplit (declines_map _ _ seen hc) calls
    schemas (log ++ [.began f.type.object])
  have hchunk := (run_chunk_of_prepared hplan hprepared consume seen).trans hwalk
  rw [handed_map, List.map_append] at hchunk
  rw [List.length_map]
  refine ⟨_, hchunk, ?_⟩
  rw [hdelivery, ← hcalls, callsFor, callsFor, PageStream.callsOf, List.take_succ_cons,
    ← List.map_take]
  rfl

end Drains

end Finder

namespace Entity

variable {e : Entity α} {f : Finder} {schema : Schema} {text : String} {first : Page}
  {links : List (String × Page)} {s s' : Session (τ × List Call) σ}
  {consume : κ → List α → Bool × κ}

/-- Every record of some pages has a value, or there is a first one that has none: all pages before
the one it stands on are converted, and so are the records before it on that page. -/
theorem values_or_first_fault (e : Entity α) (batches : List (List Record)) :
    (∃ values, List.Forall₂ e.Values batches values) ∨
    ∃ front before record after rest values earlier fault,
      batches = front ++ (before ++ record :: after) :: rest ∧
      List.Forall₂ e.Values front values ∧ e.Values before earlier ∧
      e.ofRecord record = .error fault := by
  obtain ⟨values, hvalues⟩ | ⟨front, batch, rest, values, fault, rfl, hfront, hbatch⟩ :=
    mapM_or_first_failure e.ofRecords batches
  · exact .inl ⟨values, mapM_ofRecords_iff.1 hvalues⟩
  · obtain ⟨earlier, hearlier⟩ | ⟨before, record, after, earlier, fault', rfl, hbefore, hrecord⟩ :=
      mapM_or_first_failure e.ofRecord batch
    · exact nomatch hearlier.symm.trans hbatch
    · exact .inr ⟨front, before, record, after, rest, values, earlier, fault', rfl,
        mapM_ofRecords_iff.1 hfront, mapM_eq_ok_iff.1 hbefore, hrecord⟩

variable {front rest : List (List Record)} {before after : List Record} {record : Record}
  {values : List (List α)} {earlier : List α} {fault : Fault}

/-- What stands after the first record without a value does not matter to its page. -/
theorem ofRecords_of_fault (hbefore : e.Values before earlier)
    (hrecord : e.ofRecord record = .error fault) :
    e.ofRecords (before ++ record :: after) = .error fault :=
  mapM_of_failure (mapM_eq_ok_iff.2 hbefore) hrecord after

/-- Nor does it matter to all pages together. -/
theorem ofRecords_flatten_of_fault (hfront : List.Forall₂ e.Values front values)
    (hbefore : e.Values before earlier) (hrecord : e.ofRecord record = .error fault) :
    e.ofRecords (front ++ (before ++ record :: after) :: rest).flatten = .error fault := by
  have hall : (front.flatten ++ before).mapM e.ofRecord = .ok (values.flatten ++ earlier) := by
    rw [List.mapM_append, mapM_flatten (mapM_ofRecords_iff.2 hfront), mapM_eq_ok_iff.2 hbefore]
    rfl
  have hsplit : (front ++ (before ++ record :: after) :: rest).flatten =
      (front.flatten ++ before) ++ record :: (after ++ rest.flatten) := by
    rw [List.flatten_append, List.flatten_cons]
    simp only [List.append_assoc, List.cons_append]
  rw [hsplit]
  exact mapM_of_failure hall hrecord _

/-- All values at once are those of all records, once every page has been read. -/
theorem run_get (h : f.Drains store schema text first links s.transport.1 s.schemas)
    (hplan : f.plan = .empty) :
    ∃ t, (e.get store.recorded f).run.run s =
        (e.ofRecords (Finder.batchesOf schema first links).flatten, t) ∧
      t.transport.2 = s.transport.2 ++ f.callsFor store schema text links := by
  obtain ⟨t, hget, hcalls⟩ := h.run_get hplan
  refine ⟨t, ?_, hcalls⟩
  rw [get, Task.run_bind_ok hget]
  rfl

/-- If every record has a value, a reader who always wants more gets the values of all pages. -/
theorem run_chunk_values (h : f.Drains store schema text first links s.transport.1 s.schemas)
    (hplan : f.plan = .empty)
    (hvalues : List.Forall₂ e.Values (Finder.batchesOf schema first links) values) {seen : κ}
    (hc : Continues consume seen values) :
    ∃ t, (e.chunk store.recorded f consume seen).run s =
        ((.ok values.length, handed consume seen values), t) ∧
      t.transport.2 = s.transport.2 ++ f.callsFor store schema text links := by
  obtain ⟨hmore, hhanded⟩ := reader_along hvalues hc none
  obtain ⟨t, hchunk, hcalls⟩ := h.run_chunk hplan hmore
  refine ⟨t, ?_, hcalls⟩
  rw [run_chunk, hchunk, hhanded, hvalues.length_eq]

/-- If there is a first record without a value, the reader gets the values of the pages before it,
and then the walk ends with the fault of this record. -/
theorem run_chunk_fault (h : f.Drains store schema text first links s.transport.1 s.schemas)
    (hplan : f.plan = .empty)
    (hbatches : Finder.batchesOf schema first links =
      front ++ (before ++ record :: after) :: rest)
    (hfront : List.Forall₂ e.Values front values) (hbefore : e.Values before earlier)
    (hrecord : e.ofRecord record = .error fault) {seen : κ} (hc : Continues consume seen values) :
    ∃ t, (e.chunk store.recorded f consume seen).run s =
        ((.error fault, handed consume seen values), t) ∧
      t.transport.2 = s.transport.2 ++ f.callsFor store schema text (links.take front.length) := by
  obtain ⟨hdeclines, hhanded⟩ := reader_declines hfront hc (ofRecords_of_fault hbefore hrecord)
  obtain ⟨t, hchunk, hcalls⟩ := h.run_chunk_declined hplan hbatches hdeclines
  refine ⟨t, ?_, hcalls⟩
  rw [run_chunk, hchunk, hhanded]

/-- All values at once and the values page by page are those of the same records: either every
record has a value, and both runs read every page and hand over the values, in one list or one for
each page; or both fail with the fault of the first record that has none. Then the reader of pages
has got the values of exactly the pages before the one that this record stands on, and no page
after it was asked for. -/
theorem get_chunk_agree (e : Entity α) (hplan : f.plan = .empty)
    (h : f.Drains store schema text first links s.transport.1 s.schemas)
    (h' : f.Drains store schema text first links s'.transport.1 s'.schemas)
    (hc : ∀ seen batch, (consume seen batch).1 = true) (seen : κ) :
    (∃ values t t', List.Forall₂ e.Values (Finder.batchesOf schema first links) values ∧
      (e.get store.recorded f).run.run s = (.ok values.flatten, t) ∧
      t.transport.2 = s.transport.2 ++ f.callsFor store schema text links ∧
      (e.chunk store.recorded f consume seen).run s' =
        ((.ok values.length, handed consume seen values), t') ∧
      t'.transport.2 = s'.transport.2 ++ f.callsFor store schema text links) ∨
    ∃ front before record after rest values earlier fault t t',
      Finder.batchesOf schema first links = front ++ (before ++ record :: after) :: rest ∧
      List.Forall₂ e.Values front values ∧ e.Values before earlier ∧
      e.ofRecord record = .error fault ∧
      (e.get store.recorded f).run.run s = (.error fault, t) ∧
      t.transport.2 = s.transport.2 ++ f.callsFor store schema text links ∧
      (e.chunk store.recorded f consume seen).run s' =
        ((.error fault, handed consume seen values), t') ∧
      t'.transport.2 =
        s'.transport.2 ++ f.callsFor store schema text (links.take front.length) := by
  obtain ⟨t, hget, hcalls⟩ := e.run_get h hplan
  obtain ⟨values, hvalues⟩ | ⟨front, before, record, after, rest, values, earlier, fault, hbatches,
    hfront, hbefore, hrecord⟩ := e.values_or_first_fault (Finder.batchesOf schema first links)
  · have hall : e.ofRecords (Finder.batchesOf schema first links).flatten = .ok values.flatten :=
      mapM_flatten (mapM_ofRecords_iff.2 hvalues)
    rw [hall] at hget
    obtain ⟨t', hchunk, hcalls'⟩ := run_chunk_values h' hplan hvalues
      (continues_of_always hc seen values)
    exact .inl ⟨values, t, t', hvalues, hget, hcalls, hchunk, hcalls'⟩
  · rw [hbatches, ofRecords_flatten_of_fault hfront hbefore hrecord] at hget
    obtain ⟨t', hchunk, hcalls'⟩ := run_chunk_fault h' hplan hbatches hfront hbefore hrecord
      (continues_of_always hc seen values)
    exact .inr ⟨front, before, record, after, rest, values, earlier, fault, t, t', hbatches, hfront,
      hbefore, hrecord, hget, hcalls, hchunk, hcalls'⟩

/-- A page with a record that has no fields, and so no key. -/
def keyless : Page := .last [[]]

def halfKeyed : Store Unit Unit where
  transport := {
    instanceUrl := "https://crm.example"
    query := fun _ _ u => (.ok (.before [[("Id", .text "001")]] "/more"), u)
    request := fun _ _ u => (.ok (.ok keyless.toJson.toText), u) }
  schemas := ⟨fun object u => pure (.ok ⟨object, [("Id", .text)]⟩, u)⟩
  settings := .default
  catalog := ⟨[]⟩

def keys : Entity String := ⟨⟨"Account", "Id", []⟩, fun record => record.read Value.readText "Id"⟩

/-- Both runs end with the fault of the second record; the reader has got the key of the first. -/
theorem keys_of_halfKeyed :
    let f := keys.all .default
    let schema : Schema := ⟨"Account", [("Id", .text)]⟩
    let first : Page := .before [[("Id", .text "001")]] "/more"
    let links := [("https://crm.example/more", keyless)]
    let consume (seen : List (List String)) (batch : List String) := (true, seen ++ [batch])
    let s : Session (Unit × List Call) Unit := ⟨((), []), (), []⟩
    f.plan = .empty ∧
    f.Drains halfKeyed schema "SELECT Id FROM Account" first links s.transport.1 s.schemas ∧
    (∀ seen batch, (consume seen batch).1 = true) ∧
    ((keys.get halfKeyed.recorded f).run.run s).1 = .error (.missingField "Account" "Id") ∧
    ((keys.chunk halfKeyed.recorded f consume []).run s).1 =
      (.error (.missingField "Account" "Id"), [["001"]]) := by
  intro f schema first links consume s
  have hrow : [Json.Document.object []].mapM (Json.Document.row? (Json.maxDepth - 2)) =
      some [[]] := by
    simp [Json.Document.row?, Json.Document.members?, Json.Document.memberList?, Json.maxDepth,
      Fields.ofList]
  have hone : (⟨1, by decide⟩ : WireInt).val = 1 := rfl
  have hread : keyless.ReadsBack := Page.readsBack_last (by with_unfolding_all rfl) hrow hone
  have hdrains : f.Drains halfKeyed schema "SELECT Id FROM Account" first links s.transport.1
      s.schemas := {
    described := rfl
    written := by with_unfolding_all rfl
    answered := ⟨(), (), rfl, .cons rfl rfl (by with_unfolding_all rfl) rfl hread (.nil _ _)⟩
    done := rfl
    limit := by decide }
  let keyed : Record := .ofAttributes "Account" [("Id", .text "001")]
  let unkeyed : Record := .ofAttributes "Account" []
  have hpages : Finder.batchesOf schema first links = [[keyed], [unkeyed]] := by
    with_unfolding_all rfl
  have hkeyed : keys.ofRecord keyed = .ok "001" := rfl
  have hunkeyed : keys.ofRecord unkeyed = .error (.missingField "Account" "Id") := rfl
  refine ⟨rfl, hdrains, fun _ _ => rfl, ?_⟩
  obtain ⟨values, _, _, hvalues, -⟩ | ⟨front, before, record, after, rest, values, earlier, fault,
    t, t', hbatches, hfront, hbefore, hrecord, hget, -, hchunk, -⟩ :=
    get_chunk_agree keys rfl hdrains hdrains
      (fun seen batch => (rfl : (consume seen batch).1 = true)) []
  · have hnone : [[keyed], [unkeyed]].mapM keys.ofRecords = .error (.missingField "Account" "Id") :=
      rfl
    rw [hpages, ← mapM_ofRecords_iff, hnone] at hvalues
    cases hvalues
  · rw [hpages] at hbatches
    rcases front with _ | ⟨batch, _ | ⟨_, _⟩⟩
    · obtain ⟨hpage, -⟩ := List.cons.inj hbatches
      obtain ⟨-, rfl, -⟩ | ⟨-, hnil⟩ := List.append_eq_singleton_iff.1 hpage.symm
      · rw [hkeyed] at hrecord
        cases hrecord
      · exact absurd hnil (List.cons_ne_nil _ _)
    · obtain ⟨rfl, hlater⟩ := List.cons.inj hbatches
      obtain ⟨hpage, -⟩ := List.cons.inj hlater
      obtain ⟨-, heq⟩ | ⟨-, hnil⟩ := List.append_eq_singleton_iff.1 hpage.symm
      · obtain ⟨rfl, -⟩ := List.cons.inj heq
        obtain rfl := Except.error.inj (hunkeyed.symm.trans hrecord)
        obtain rfl : [["001"]] = values := Except.ok.inj (mapM_ofRecords_iff.2 hfront)
        exact ⟨congrArg Prod.fst hget, congrArg Prod.fst hchunk⟩
      · exact absurd hnil (List.cons_ne_nil _ _)
    · have hlength := congrArg List.length hbatches
      simp only [List.length_append, List.length_cons, List.length_nil] at hlength
      omega

end Entity

end RecordQuery
