import RecordQuery.Store
import RecordQuery.Web.Url

namespace RecordQuery

/-- Where a reader of pages stands. The first page is held until it is asked for; from then on the
cursor of the page handed out last is followed. -/
structure PageStream where
  first : Option Page
  cursor : Option String
  pagesFetched : Nat
  maxPages : Nat

namespace PageStream

variable {τ σ : Type}

/-- Sends a query and keeps its first page. -/
def opened (store : Store τ σ) (endpoint : Endpoint) (text : String) (maxPages : Nat) :
    Task τ σ PageStream := do
  return ⟨some (← store.send endpoint text), none, 1, maxPages⟩

def shown (s : PageStream) : String :=
  let cursor := match s.cursor with
    | none => "None"
    | some c => "Some(" ++ Text.quoted c ++ ")"
  "PageStream \x7b cursor: " ++ cursor ++ ", pages_fetched: " ++ toString s.pagesFetched ++
    ", max_pages: " ++ toString s.maxPages ++ ", .. \x7d"

/-- The rows of a page, and the stream after it. A page that is not the last must name the next. -/
def accept (s : PageStream) (page : Page) : Except Fault (List Row) × PageStream :=
  if page.done then (.ok page.records, s)
  else
    match page.next with
    | some cursor => (.ok page.records, { s with cursor := some cursor })
    | none =>
      (.error (.malformedResponse "page is not done but carries no nextRecordsUrl"), s)

/-- The address of the page that a cursor names. -/
def address (instanceUrl cursor : String) : Except Fault String :=
  match Web.Url.ofText? instanceUrl with
  | none => .error (.configuration ("invalid instance url " ++ Text.quoted instanceUrl))
  | some base =>
    match base.join? cursor with
    | none => .error (.malformedResponse ("invalid cursor " ++ Text.quoted cursor))
    | some url => .ok url.text

def follow (store : Store τ σ) (s : PageStream) (cursor : String) : Task τ σ Page := do
  if s.maxPages ≤ s.pagesFetched then throw (.pageLimit s.pagesFetched)
  let url ← ExceptT.mk (pure (address store.transport.instanceUrl cursor))
  Task.emit (.following url (s.pagesFetched + 1))
  store.fetch url

/-- The rows of the next page, or nothing when there is none. The first page and the cursor are
given up before they are used. -/
def next (store : Store τ σ) (s : PageStream) :
    StateM (Session τ σ) (Except Fault (Option (List Row)) × PageStream) :=
  match s.first, s.cursor with
  | some page, _ =>
    let (rows, s) := { s with first := none }.accept page
    return (rows.map some, s)
  | none, none => return (.ok none, s)
  | none, some cursor => do
    let s := { s with cursor := none }
    match ← (s.follow store cursor).run with
    | .error fault => return (.error fault, s)
    | .ok page =>
      let (rows, s) := { s with pagesFetched := s.pagesFetched + 1 }.accept page
      return (rows.map some, s)

/-- How many pages the stream may still hand out. -/
def remaining (s : PageStream) : Nat :=
  (if s.first.isSome then 1 else 0) + (s.maxPages - s.pagesFetched)

theorem remaining_accept (s : PageStream) (page : Page) :
    (s.accept page).2.remaining = s.remaining := by
  unfold accept
  split
  · rfl
  · split <;> rfl

/-- The page limit holds before a page is fetched. -/
theorem lt_maxPages_of_follow {store : Store τ σ} {s : PageStream} {cursor : String}
    {session session' : Session τ σ} {page : Page}
    (h : (s.follow store cursor).run.run session = (.ok page, session')) :
    s.pagesFetched < s.maxPages := by
  rcases Nat.lt_or_ge s.pagesFetched s.maxPages with hlt | hge
  · exact hlt
  · have : (s.follow store cursor).run.run session = (.error (.pageLimit s.pagesFetched), session) := by
      unfold follow
      rw [if_pos hge]
      rfl
    rw [this] at h
    exact nomatch congrArg Prod.fst h

/-- Every page that is handed out is one less to come. -/
theorem remaining_lt_of_next {store : Store τ σ} {s s' : PageStream}
    {session session' : Session τ σ} {rows : List Row}
    (h : (s.next store).run session = ((.ok (some rows), s'), session')) :
    s'.remaining < s.remaining := by
  rcases s with ⟨first, cursor, fetched, most⟩
  cases first with
  | some page =>
    have hs : ((⟨none, cursor, fetched, most⟩ : PageStream).accept page).2 = s' :=
      congrArg (fun r => r.1.2) h
    rw [← hs, remaining_accept]
    simp [remaining]
  | none =>
    cases cursor with
    | none =>
      have hn : (.ok none : Except Fault (Option (List Row))) = .ok (some rows) :=
        congrArg (fun r => r.1.1) h
      simp at hn
    | some cursor =>
      rcases hf : ((⟨none, none, fetched, most⟩ : PageStream).follow store cursor).run.run session with
        ⟨answer, after⟩
      cases answer with
      | error fault =>
        simp only [next, StateT.run_bind, hf] at h
        have hn : (.error fault : Except Fault (Option (List Row))) = .ok (some rows) :=
          congrArg (fun r => r.1.1) h
        simp at hn
      | ok page =>
        have hlt := lt_maxPages_of_follow hf
        simp only [next, StateT.run_bind, hf] at h
        have hs : ((⟨none, none, fetched + 1, most⟩ : PageStream).accept page).2 = s' :=
          congrArg (fun r => r.1.2) h
        rw [← hs, remaining_accept]
        simp only [remaining] at hlt ⊢
        omega

/-- How a walk over the pages ended: how many pages were handed over, what the reader has by
then, and the stream. -/
structure Walk (κ : Type) where
  pages : Except Fault Nat
  seen : κ
  stream : PageStream

/-- Hands the pages over one by one, each prepared first, until there is none, a fault arises or
the reader has enough. -/
def walk {β κ : Type} (store : Store τ σ) (prepare : List Row → Task τ σ β)
    (consume : κ → β → Bool × κ) (stream : PageStream) (seen : κ) (pages : Nat) :
    StateM (Session τ σ) (Walk κ) := fun session =>
  match _h : (stream.next store).run session with
  | ((.error fault, stream'), session') => (⟨.error fault, seen, stream'⟩, session')
  | ((.ok none, stream'), session') => (⟨.ok pages, seen, stream'⟩, session')
  | ((.ok (some rows), stream'), session') =>
    match (prepare rows).run session' with
    | (.error fault, session') => (⟨.error fault, seen, stream'⟩, session')
    | (.ok batch, session') =>
      let (more, seen) := consume seen batch
      if more then walk store prepare consume stream' seen (pages + 1) session'
      else (⟨.ok (pages + 1), seen, stream'⟩, session')
termination_by stream.remaining
decreasing_by exact remaining_lt_of_next _h

/-- Reads every page that is left into one list of rows. -/
def collect (store : Store τ σ) (stream : PageStream) : Task τ σ (List Row) := do
  let keep (seen rows : List Row) : Bool × List Row := (true, seen ++ rows)
  let walked ← Task.always (stream.walk store pure keep [] 0)
  match walked.pages with
  | .error fault => throw fault
  | .ok _ =>
    Task.emit (.drained walked.seen.length walked.stream.pagesFetched)
    return walked.seen

end PageStream

end RecordQuery
