import RecordQuery.PageStream
import RecordQuery.Proofs.Session

namespace RecordQuery.PageStream

variable {τ σ : Type} {store : Store τ σ}

/-- Nothing is held and no cursor is known. -/
def Spent (s : PageStream) : Prop := s.first = none ∧ s.cursor = none

/-- A page is held only as long as no cursor is known. -/
def Orderly (s : PageStream) : Prop := s.first = none ∨ s.cursor = none

theorem accept_done {page : Page} (h : page.done = true) (s : PageStream) :
    s.accept page = (.ok page.records, s) := by
  unfold accept
  rw [if_pos h]

theorem accept_more {page : Page} {cursor : String} (h : page.done = false)
    (hn : page.next = some cursor) (s : PageStream) :
    s.accept page = (.ok page.records, { s with cursor := some cursor }) := by
  simp [accept, h, hn]

theorem accept_lost {page : Page} (h : page.done = false) (hn : page.next = none)
    (s : PageStream) :
    s.accept page =
      (.error (.malformedResponse "page is not done but carries no nextRecordsUrl"), s) := by
  simp [accept, h, hn]

theorem run_opened (endpoint : Endpoint) (text : String) (maxPages : Nat)
    (session : Session τ σ) :
    (opened store endpoint text maxPages).run.run session =
      match store.transport.query endpoint text session.transport with
      | (.error fault, t) => (.error fault, { session with transport := t })
      | (.ok page, t) => (.ok ⟨some page, none, 1, maxPages⟩, { session with transport := t }) := by
  rw [opened, Task.run_bind, Store.run_send]
  rcases store.transport.query endpoint text session.transport with ⟨_ | page, t⟩ <;> rfl

/-- The page limit is checked first, then the address; what is fetched is reported. -/
theorem run_follow (s : PageStream) (cursor : String) (session : Session τ σ) :
    (s.follow store cursor).run.run session =
      if s.maxPages ≤ s.pagesFetched then (.error (.pageLimit s.pagesFetched), session)
      else
        match address store.transport.instanceUrl cursor with
        | .error fault => (.error fault, session)
        | .ok url => (store.fetch url).run.run
            { session with log := session.log ++ [.following url (s.pagesFetched + 1)] } := by
  unfold follow
  by_cases h : s.maxPages ≤ s.pagesFetched
  · rw [if_pos h, if_pos h]
    rfl
  · rw [if_neg h, if_neg h, Task.run_bind]
    cases address store.transport.instanceUrl cursor <;> rfl

theorem next_of_first {s : PageStream} {page : Page} (h : s.first = some page)
    (session : Session τ σ) :
    (s.next store).run session =
      (((({ s with first := none } : PageStream).accept page).1.map some,
        (({ s with first := none } : PageStream).accept page).2), session) := by
  unfold next
  rw [h]
  rfl

theorem next_held (page : Page) (fetched most : Nat) (session : Session τ σ) :
    ((⟨some page, none, fetched, most⟩ : PageStream).next store).run session =
      ((((⟨none, none, fetched, most⟩ : PageStream).accept page).1.map some,
        ((⟨none, none, fetched, most⟩ : PageStream).accept page).2), session) :=
  next_of_first rfl session

theorem next_of_spent {s : PageStream} (h : s.Spent) (session : Session τ σ) :
    (s.next store).run session = ((.ok none, s), session) := by
  unfold next
  rw [h.1, h.2]
  rfl

theorem next_of_cursor {s : PageStream} {cursor : String} (hf : s.first = none)
    (hc : s.cursor = some cursor) (session : Session τ σ) :
    (s.next store).run session =
      match (s.follow store cursor).run.run session with
      | (.error fault, session') => ((.error fault, { s with cursor := none }), session')
      | (.ok page, session') =>
        let s' : PageStream := { s with cursor := none, pagesFetched := s.pagesFetched + 1 }
        (((s'.accept page).1.map some, (s'.accept page).2), session') := by
  obtain ⟨_, _, fetched, most⟩ := s
  subst hf hc
  rcases h : ((⟨none, some cursor, fetched, most⟩ : PageStream).follow store cursor).run.run session
    with ⟨answer, session'⟩
  have h' : ((⟨none, none, fetched, most⟩ : PageStream).follow store cursor).run.run session =
      (answer, session') := h
  simp only [next, StateT.run_bind, h']
  cases answer <;> rfl

/-- A page that was fetched is handed out as if it had been held. -/
theorem next_of_fetched {s : PageStream} {cursor : String} {page : Page}
    {session session' : Session τ σ} (hf : s.first = none) (hc : s.cursor = some cursor)
    (h : (s.follow store cursor).run.run session = (.ok page, session')) :
    (s.next store).run session =
      ((⟨some page, none, s.pagesFetched + 1, s.maxPages⟩ : PageStream).next store).run
        session' := by
  rw [next_of_cursor hf hc, h, next_held]
  simp only [hf]

/-- A walk asks for one page, and goes on only if the page could be prepared and the reader wants
more. -/
theorem run_walk {β κ : Type} (prepare : List Row → Task τ σ β) (consume : κ → β → Bool × κ)
    (s : PageStream) (seen : κ) (pages : Nat) (session : Session τ σ) :
    (s.walk store prepare consume seen pages).run session =
      match (s.next store).run session with
      | ((.error fault, s'), session') => (⟨.error fault, seen, s'⟩, session')
      | ((.ok none, s'), session') => (⟨.ok pages, seen, s'⟩, session')
      | ((.ok (some rows), s'), session') =>
        match (prepare rows).run.run session' with
        | (.error fault, session') => (⟨.error fault, seen, s'⟩, session')
        | (.ok batch, session') =>
          let (more, seen) := consume seen batch
          if more then (s'.walk store prepare consume seen (pages + 1)).run session'
          else (⟨.ok (pages + 1), seen, s'⟩, session') := by
  change s.walk store prepare consume seen pages session = _
  rw [walk]
  split <;> rename_i h <;> rw [h]
  rfl

end RecordQuery.PageStream
