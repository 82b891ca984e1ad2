import Mathlib.Data.List.Forall2
import RecordQuery.Proofs.Pages.Drain
import RecordQuery.Query.Run

namespace RecordQuery

variable {τ σ : Type} {store : Store τ σ}

namespace PageStream

variable {κ : Type} {consume : κ → List Row → Bool × κ}

/-- A reader who always wants more is handed every page of a chain. -/
theorem walk_chain (hc : ∀ seen rows, (consume seen rows).1 = true) {page : Page} {t t' : τ}
    {links : List (String × Page)} (chain : Chain store page t links t')
    (hd : (endOf page links).done = true) (schemas : σ) (log : List Event) {fetched most : Nat}
    (hlen : links.length ≤ most - fetched) (seen : κ) (pages : Nat) :
    ∃ stream log', ((⟨some page, none, fetched, most⟩ : PageStream).walk store pure consume seen
        pages).run ⟨t, schemas, log⟩ =
      (⟨.ok (pages + links.length + 1),
        (page :: links.map (·.2)).foldl (fun seen page => (consume seen page.records).2) seen,
        stream⟩, ⟨t', schemas, log'⟩) := by
  induction chain generalizing fetched log seen pages with
  | nil page t => exact ⟨_, log, walk_of_done hd (hc seen _) fetched most pages _⟩
  | @cons page next t t₁ t₂ cursor url response links undone named located answered decoded _ ih =>
    have hlimit : ¬most ≤ fetched := by
      simp only [List.length_cons] at hlen
      omega
    have hfollow : ((⟨none, some cursor, fetched, most⟩ : PageStream).follow store cursor).run.run
        ⟨t, schemas, log⟩ = (.ok next, ⟨t₁, schemas, log ++ [.following url (fetched + 1)]⟩) := by
      rw [run_follow, if_neg hlimit, located]
      dsimp only
      rw [Store.run_fetch]
      dsimp only
      rw [answered]
      dsimp only
      rw [decoded]
    have hrest : links.length ≤ most - (fetched + 1) := by
      simp only [List.length_cons] at hlen
      omega
    obtain ⟨stream, log', h⟩ := ih hd (log ++ [.following url (fetched + 1)]) hrest
      (consume seen page.records).2 (pages + 1)
    refine ⟨stream, log', ?_⟩
    rw [walk_of_more undone named (hc _ _), walk_of_follow_ok hfollow, h]
    simp only [List.map_cons, List.foldl_cons, List.length_cons]
    congr 4
    omega

/-- Collecting a chain comes to the rows of its pages. -/
theorem run_collect_chain {page : Page} {t t' : τ} {links : List (String × Page)}
    (chain : Chain store page t links t') (hd : (endOf page links).done = true) (schemas : σ)
    (log : List Event) {fetched most : Nat} (hlen : links.length ≤ most - fetched) :
    ∃ s', ((⟨some page, none, fetched, most⟩ : PageStream).collect store).run.run
      ⟨t, schemas, log⟩ = (.ok (rowsOf page links), s') := by
  let keep (seen rows : List Row) : Bool × List Row := (true, seen ++ rows)
  have hkeep (seen rows : List Row) : (keep seen rows).1 = true := rfl
  obtain ⟨stream, log', h⟩ := walk_chain hkeep chain hd schemas log hlen [] 0
  have hrows : (page :: links.map (·.2)).foldl (fun seen page => (keep seen page.records).2) [] =
      rowsOf page links := foldl_append_records _ []
  rw [hrows] at h
  rw [collect, Task.run_bind_ok (Task.run_always h)]
  exact ⟨_, rfl⟩

end PageStream

/-- Two rows have the same under these names. -/
def Row.AgreeOn (names : List String) (a b : Row) : Prop :=
  ∀ name ∈ names, Fields.find? a name = Fields.find? b name

/-- In every state of the transport the query is answered by pages within the limit, whose rows have
what these rows have under the names. -/
def Store.Yields (store : Store τ σ) (endpoint : Endpoint) (text : String) (names : List String)
    (rows : List Row) : Prop :=
  ∀ t, ∃ first links t', PageStream.Answers store endpoint text t first links t' ∧
    (PageStream.endOf first links).done = true ∧
    links.length + 1 ≤ max 1 store.settings.maxPages.toNat ∧
    List.Forall₂ (Row.AgreeOn names) (PageStream.rowsOf first links) rows

/-- A store that answers a query with one page yields the rows of the page. -/
theorem Store.yields_last {endpoint : Endpoint} {text : String} {rows : List Row}
    (h : ∀ t, (store.transport.query endpoint text t).1 = .ok (.last rows)) (names : List String) :
    store.Yields endpoint text names rows := by
  intro t
  refine ⟨.last rows, [], _, ⟨_, Prod.ext (h t) rfl, .nil _ _⟩, rfl, Nat.le_max_left _ _, ?_⟩
  simp only [PageStream.rowsOf, Page.last, List.map_nil, List.flatMap_cons, List.flatMap_nil,
    List.append_nil]
  exact List.forall₂_same.2 fun _ _ _ _ => rfl

/-- A query that is answered by pages within the limit is run without a fault, and comes to the rows
of the pages. -/
theorem Query.run_of_answers {q : Query} {text : String} (htext : q.text.value = .ok text)
    {s : Session τ σ} {first : Page} {links : List (String × Page)} {t' : τ}
    (h : PageStream.Answers store (q.endpoint store.settings) text s.transport first links t')
    (hdone : (PageStream.endOf first links).done = true)
    (hlen : links.length + 1 ≤ max 1 store.settings.maxPages.toNat) :
    ∃ s', (q.run store).run.run s = (.ok (PageStream.rowsOf first links), s') := by
  obtain ⟨t₁, hquery, chain⟩ := h
  have htrace (s : Session τ σ) : (Task.trace q.text : Task τ σ String).run.run s =
      (.ok text, { s with log := s.log ++ q.text.events }) := by
    rw [← htext]
    rfl
  have hopen : (q.openStream store).run.run { s with log := s.log ++ [.began q.object] } =
      (.ok ⟨some first, none, 1, store.settings.maxPages.toNat⟩,
        ⟨t₁, s.schemas, s.log ++ [.began q.object] ++ q.text.events⟩) := by
    rw [openStream, Task.run_bind_ok (htrace _), PageStream.run_opened]
    dsimp only
    rw [hquery]
  obtain ⟨s', hcollect⟩ := PageStream.run_collect_chain chain hdone s.schemas
    (s.log ++ [.began q.object] ++ q.text.events)
    (show links.length ≤ store.settings.maxPages.toNat - 1 by omega)
  exact ⟨s', by rw [run, Task.run_bind_ok (Task.run_emit _ s), Task.run_bind_ok hopen, hcollect]⟩

/-- A query that a store answers is run without a fault. -/
theorem Query.run_of_yields {q : Query} {text : String} (htext : q.text.value = .ok text)
    {names : List String} {rows : List Row}
    (h : store.Yields (q.endpoint store.settings) text names rows) (s : Session τ σ) :
    ∃ got s', (q.run store).run.run s = (.ok got, s') ∧
      List.Forall₂ (Row.AgreeOn names) got rows := by
  obtain ⟨first, links, t', hanswers, hdone, hlen, hrows⟩ := h s.transport
  obtain ⟨s', hrun⟩ := run_of_answers htext hanswers hdone hlen
  exact ⟨_, s', hrun, hrows⟩

end RecordQuery
