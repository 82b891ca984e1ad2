import RecordQuery.Proofs.Pages.Basic

namespace RecordQuery

section Readers

variable {β κ : Type}

/-- A reader wants more after each of some batches. -/
def Continues (consume : κ → β → Bool × κ) : κ → List β → Prop
  | _, [] => True
  | seen, batch :: rest =>
    (consume seen batch).1 = true ∧ Continues consume (consume seen batch).2 rest

theorem continues_of_always {consume : κ → β → Bool × κ}
    (hc : ∀ seen batch, (consume seen batch).1 = true) (seen : κ) (batches : List β) :
    Continues consume seen batches := by
  induction batches generalizing seen with
  | nil => trivial
  | cons batch rest ih => exact ⟨hc seen batch, ih (consume seen batch).2⟩

end Readers

namespace PageStream

variable {τ σ : Type} {store : Store τ σ}

/-- The pages that cursors lead to from a page, in a state of the transport, with the addresses
they were fetched from, and the state after them. Only the final page may be done. -/
inductive Chain (store : Store τ σ) : Page → τ → List (String × Page) → τ → Prop
  | nil (page : Page) (t : τ) : Chain store page t [] t
  | cons {page next : Page} {t t' t'' : τ} {cursor url : String} {response : Response}
      {links : List (String × Page)} (more : page.done = false) (named : page.next = some cursor)
      (located : address store.transport.instanceUrl cursor = .ok url)
      (answered : store.transport.request "GET" url t = (.ok response, t'))
      (decoded : response.page = .ok next) (rest : Chain store next t' links t'') :
      Chain store page t ((url, next) :: links) t''

def endOf (page : Page) : List (String × Page) → Page
  | [] => page
  | (_, next) :: links => endOf next links

/-- The rows of a chain in the order of its pages. -/
def rowsOf (page : Page) (links : List (String × Page)) : List Row :=
  (page :: links.map (·.2)).flatMap (·.records)

theorem dropLast_append_endOf (page : Page) (links : List (String × Page)) :
    (page :: links.map (·.2)).dropLast ++ [endOf page links] = page :: links.map (·.2) := by
  induction links generalizing page with
  | nil => rfl
  | cons link links ih =>
    simp only [List.map_cons, List.dropLast_cons_cons, List.cons_append]
    exact congrArg (List.cons page) (ih link.2)

/-- What reading on from a page comes to: the pages whose rows were handed out, the fault at their
end if there was one, the addresses asked for and the state of the transport. -/
structure Reading (τ : Type) where
  pages : List Page
  fault : Option Fault
  urls : List String
  transport : τ

/-- Reads on from a page with so many pages fetched, when so many more may be fetched. -/
def reading (store : Store τ σ) (fetched : Nat) : Nat → Page → τ → Reading τ
  | more, page, t =>
    if page.done then ⟨[page], none, [], t⟩
    else
      match page.next with
      | none =>
        ⟨[], some (.malformedResponse "page is not done but carries no nextRecordsUrl"), [], t⟩
      | some cursor =>
        match more with
        | 0 => ⟨[page], some (.pageLimit fetched), [], t⟩
        | more + 1 =>
          match address store.transport.instanceUrl cursor with
          | .error fault => ⟨[page], some fault, [], t⟩
          | .ok url =>
            match store.transport.request "GET" url t with
            | (.error fault, t) => ⟨[page], some fault, [url], t⟩
            | (.ok response, t) =>
              match response.page with
              | .error fault => ⟨[page], some fault, [url], t⟩
              | .ok next =>
                let r := reading store (fetched + 1) more next t
                ⟨page :: r.pages, r.fault, url :: r.urls, r.transport⟩

/-- Along a chain the reading collects the pages before the end, and then it goes on from there. -/
theorem reading_chain {page : Page} {t t' : τ} {links : List (String × Page)}
    (chain : Chain store page t links t') (fetched more : Nat) :
    reading store fetched (links.length + more) page t =
      let r := reading store (fetched + links.length) more (endOf page links) t'
      ⟨(page :: links.map (·.2)).dropLast ++ r.pages, r.fault, links.map (·.1) ++ r.urls,
        r.transport⟩ := by
  induction chain generalizing fetched with
  | nil page t => simp [endOf]
  | @cons page next t t₁ t₂ cursor url response links undone named located answered decoded rest
      ih =>
    have hlen : ((url, next) :: links).length + more = links.length + more + 1 := by
      simp only [List.length_cons]
      omega
    have hfetched : fetched + ((url, next) :: links).length = fetched + 1 + links.length := by
      simp only [List.length_cons]
      omega
    rw [hlen, hfetched, reading]
    simp only [undone, named, located, answered, decoded, ih (fetched + 1)]
    simp [endOf]

/-- A chain that ends with the last page is read to its end. -/
theorem reading_of_done {page : Page} {t t' : τ} {links : List (String × Page)}
    (chain : Chain store page t links t') (hd : (endOf page links).done = true) (fetched : Nat)
    {more : Nat} (hm : links.length ≤ more) :
    reading store fetched more page t =
      ⟨page :: links.map (·.2), none, links.map (·.1), t'⟩ := by
  obtain ⟨rest, rfl⟩ := Nat.exists_eq_add_of_le hm
  rw [reading_chain chain, reading, if_pos hd]
  simp only [dropLast_append_endOf, List.append_nil]

/-- A chain that uses up the limit and could go on ends in the limit. -/
theorem reading_of_more {page : Page} {t t' : τ} {links : List (String × Page)}
    (chain : Chain store page t links t') (hd : (endOf page links).done = false)
    (hn : (endOf page links).next.isSome) (fetched : Nat) :
    reading store fetched links.length page t =
      ⟨page :: links.map (·.2), some (.pageLimit (fetched + links.length)), links.map (·.1),
        t'⟩ := by
  obtain ⟨cursor, hn⟩ := Option.isSome_iff_exists.1 hn
  have hlimit : reading store (fetched + links.length) 0 (endOf page links) t' =
      ⟨[endOf page links], some (.pageLimit (fetched + links.length)), [], t'⟩ := by
    simp [reading, hd, hn]
  have h := reading_chain chain fetched 0
  rw [Nat.add_zero] at h
  rw [h, hlimit]
  simp only [dropLast_append_endOf, List.append_nil]

/-- Reading that ends without a fault has come to the last page of a chain. -/
theorem chain_of_reading {page : Page} {t : τ} {fetched more : Nat}
    (h : (reading store fetched more page t).fault = none) :
    ∃ links t', Chain store page t links t' ∧ (endOf page links).done = true ∧
      links.length ≤ more := by
  fun_induction reading store fetched more page t with
  | case1 fetched more page t hd => exact ⟨[], t, .nil page t, hd, Nat.zero_le _⟩
  | case7 fetched page t hd cursor hn more url hu t' response ha next hp r ih =>
    obtain ⟨links, t'', chain, hend, hle⟩ := ih h
    exact ⟨(url, next) :: links, t'', .cons (by simpa using hd) hn hu ha hp chain, hend,
      Nat.succ_le_succ hle⟩
  | _ => exact nomatch h

/-- No more pages are asked for than may be fetched. -/
theorem length_urls_le (store : Store τ σ) (fetched more : Nat) (page : Page) (t : τ) :
    (reading store fetched more page t).urls.length ≤ more := by
  fun_induction reading store fetched more page t with
  | case7 fetched page t hd cursor hn more url hu t' response ha next hp r ih =>
    exact Nat.succ_le_succ ih
  | _ => simp

section Walk

variable {κ : Type} {consume : κ → List Row → Bool × κ}

theorem walk_congr {s u : PageStream} {session session' : Session τ σ}
    (h : (s.next store).run session = (u.next store).run session') (seen : κ) (pages : Nat) :
    (s.walk store pure consume seen pages).run session =
      (u.walk store pure consume seen pages).run session' := by
  rw [run_walk, run_walk, h]

theorem walk_of_done {page : Page} (hd : page.done = true) {seen : κ}
    (hc : (consume seen page.records).1 = true) (fetched most pages : Nat)
    (session : Session τ σ) :
    ((⟨some page, none, fetched, most⟩ : PageStream).walk store pure consume seen pages).run
        session =
      (⟨.ok (pages + 1), (consume seen page.records).2, ⟨none, none, fetched, most⟩⟩,
        session) := by
  rw [run_walk, next_held, accept_done hd]
  change (if (consume seen page.records).1 then _ else _) = _
  rw [if_pos hc, run_walk, next_of_spent ⟨rfl, rfl⟩]

theorem walk_of_lost {page : Page} (hd : page.done = false) (hn : page.next = none)
    (fetched most : Nat) (seen : κ) (pages : Nat) (session : Session τ σ) :
    ((⟨some page, none, fetched, most⟩ : PageStream).walk store pure consume seen pages).run
        session =
      (⟨.error (.malformedResponse "page is not done but carries no nextRecordsUrl"), seen,
        ⟨none, none, fetched, most⟩⟩, session) := by
  rw [run_walk, next_held, accept_lost hd hn]
  rfl

theorem walk_of_more {page : Page} {cursor : String} (hd : page.done = false)
    (hn : page.next = some cursor) {seen : κ} (hc : (consume seen page.records).1 = true)
    (fetched most pages : Nat) (session : Session τ σ) :
    ((⟨some page, none, fetched, most⟩ : PageStream).walk store pure consume seen pages).run
        session =
      ((⟨none, some cursor, fetched, most⟩ : PageStream).walk store pure consume
        (consume seen page.records).2 (pages + 1)).run session := by
  rw [run_walk, next_held, accept_more hd hn]
  change (if (consume seen page.records).1 then _ else _) = _
  rw [if_pos hc]

theorem walk_of_follow_error {cursor : String} {fetched most : Nat} {fault : Fault}
    {session session' : Session τ σ}
    (h : ((⟨none, some cursor, fetched, most⟩ : PageStream).follow store cursor).run.run session =
      (.error fault, session')) (seen : κ) (pages : Nat) :
    ((⟨none, some cursor, fetched, most⟩ : PageStream).walk store pure consume seen pages).run
        session = (⟨.error fault, seen, ⟨none, none, fetched, most⟩⟩, session') := by
  rw [run_walk, next_of_cursor rfl rfl, h]

/-- A page that was fetched is walked from as if it had been held. -/
theorem walk_of_follow_ok {cursor : String} {fetched most : Nat} {page : Page}
    {session session' : Session τ σ}
    (h : ((⟨none, some cursor, fetched, most⟩ : PageStream).follow store cursor).run.run session =
      (.ok page, session')) (seen : κ) (pages : Nat) :
    ((⟨none, some cursor, fetched, most⟩ : PageStream).walk store pure consume seen pages).run
        session =
      ((⟨some page, none, fetched + 1, most⟩ : PageStream).walk store pure consume seen pages).run
        session' := by
  exact walk_congr (next_of_fetched rfl rfl h) seen pages

theorem run_recorded_follow {s : PageStream} {cursor url : String}
    (hlt : ¬s.maxPages ≤ s.pagesFetched)
    (hu : address store.transport.instanceUrl cursor = .ok url) {t t' : τ}
    {answer : Except Fault Response} (ha : store.transport.request "GET" url t = (answer, t'))
    (calls : List Call) (schemas : σ) (log : List Event) :
    (s.follow store.recorded cursor).run.run ⟨(t, calls), schemas, log⟩ =
      (answer.bind Response.page, ⟨(t', calls ++ [.request "GET" url]), schemas,
        log ++ [.following url (s.pagesFetched + 1)]⟩) := by
  have hu' : address store.recorded.transport.instanceUrl cursor = .ok url := hu
  rw [run_follow, if_neg hlt, hu']
  refine (Store.run_recorded_fetch ..).trans ?_
  rw [ha]
  cases answer <;> rfl

/-- A reader who wants more after each page gets the pages of the reading, one after the other. -/
theorem walk_eq_reading (fetched more most : Nat) (hmore : more = most - fetched) (page : Page)
    (t : τ) (calls : List Call) (schemas : σ) (log : List Event) (seen : κ) (pages : Nat)
    (hc : Continues consume seen
      ((reading store fetched more page t).pages.map (·.records))) :
    let r := reading store fetched more page t
    ∃ s log', ((⟨some page, none, fetched, most⟩ : PageStream).walk store.recorded pure consume seen
        pages).run ⟨(t, calls), schemas, log⟩ =
      (⟨r.fault.elim (.ok (pages + r.pages.length)) .error,
        r.pages.foldl (fun seen page => (consume seen page.records).2) seen, s⟩,
        ⟨(r.transport, calls ++ r.urls.map (.request "GET")), schemas, log'⟩) := by
  intro r
  subst r
  fun_induction reading store fetched more page t generalizing calls log seen pages with
  | case1 fetched more page t hd =>
    rw [walk_of_done hd hc.1]
    exact ⟨⟨none, none, fetched, most⟩, log, by simp⟩
  | case2 fetched more page t hd hn =>
    rw [walk_of_lost (by simpa using hd) hn]
    exact ⟨⟨none, none, fetched, most⟩, log, by simp⟩
  | case3 fetched page t hd cursor hn =>
    have hlimit : most ≤ fetched := by omega
    rw [walk_of_more (by simpa using hd) hn hc.1,
      walk_of_follow_error (by rw [run_follow, if_pos hlimit])]
    exact ⟨⟨none, none, fetched, most⟩, log, by simp⟩
  | case4 fetched page t hd cursor hn more fault hu =>
    have hfollow : ¬most ≤ fetched := by omega
    have hu' : address store.recorded.transport.instanceUrl cursor = .error fault := hu
    rw [walk_of_more (by simpa using hd) hn hc.1,
      walk_of_follow_error (by rw [run_follow, if_neg hfollow, hu'])]
    exact ⟨⟨none, none, fetched, most⟩, log, by simp⟩
  | case5 fetched page t hd cursor hn more url hu fault t' ha =>
    have hfollow : ¬most ≤ fetched := by omega
    rw [walk_of_more (by simpa using hd) hn hc.1,
      walk_of_follow_error (run_recorded_follow hfollow hu ha calls schemas log)]
    exact ⟨⟨none, none, fetched, most⟩, log ++ [.following url (fetched + 1)], by simp⟩
  | case6 fetched page t hd cursor hn more url hu response t' ha fault hp =>
    have hfollow : ¬most ≤ fetched := by omega
    rw [walk_of_more (by simpa using hd) hn hc.1,
      walk_of_follow_error (by rw [run_recorded_follow hfollow hu ha, Except.bind, hp])]
    exact ⟨⟨none, none, fetched, most⟩, log ++ [.following url (fetched + 1)], by simp⟩
  | case7 fetched page t hd cursor hn more url hu response t' ha next hp r ih =>
    have hfollow : ¬most ≤ fetched := by omega
    rw [walk_of_more (by simpa using hd) hn hc.1,
      walk_of_follow_ok (by rw [run_recorded_follow hfollow hu ha, Except.bind, hp])]
    obtain ⟨s, log', h⟩ := ih (by omega) (calls ++ [.request "GET" url])
      (log ++ [.following url (fetched + 1)]) (consume seen page.records).2 (pages + 1)
      hc.2
    refine ⟨s, log', ?_⟩
    rw [h]
    simp [r, List.append_assoc, Nat.add_assoc, Nat.add_comm 1]

end Walk

/-- Sends a query and reads all of its pages. -/
def drain (store : Store τ σ) (endpoint : Endpoint) (text : String) (maxPages : Nat) :
    Task τ σ (List Row) := do
  (← opened store endpoint text maxPages).collect store

/-- The answer to a query in a state of the transport, the pages that its cursors lead to, and the
state after them. -/
def Answers (store : Store τ σ) (endpoint : Endpoint) (text : String) (t : τ) (first : Page)
    (links : List (String × Page)) (t'' : τ) : Prop :=
  ∃ t', store.transport.query endpoint text t = (.ok first, t') ∧ Chain store first t' links t''

def callsOf (endpoint : Endpoint) (text : String) (links : List (String × Page)) : List Call :=
  .query endpoint text :: links.map fun link => .request "GET" link.1

theorem foldl_append_records (pages : List Page) (seen : List Row) :
    pages.foldl (fun seen page => seen ++ page.records) seen =
      seen ++ pages.flatMap (·.records) := by
  induction pages generalizing seen with
  | nil => simp
  | cons page pages ih => simp [ih, List.append_assoc]

theorem run_collect (fetched most : Nat) (page : Page) (t : τ) (calls : List Call) (schemas : σ)
    (log : List Event) :
    let r := reading store fetched (most - fetched) page t
    ∃ log', ((⟨some page, none, fetched, most⟩ : PageStream).collect store.recorded).run.run
        ⟨(t, calls), schemas, log⟩ =
      (r.fault.elim (.ok (r.pages.flatMap (·.records))) .error,
        ⟨(r.transport, calls ++ r.urls.map (.request "GET")), schemas, log'⟩) := by
  intro r
  let keep (seen rows : List Row) : Bool × List Row := (true, seen ++ rows)
  have hkeep (seen rows : List Row) : (keep seen rows).1 = true := rfl
  obtain ⟨s, log', h⟩ :=
    walk_eq_reading fetched _ most rfl page t calls schemas log [] 0
      (continues_of_always hkeep [] _)
  have hrows : r.pages.foldl (fun seen page => (keep seen page.records).2) [] =
      r.pages.flatMap (·.records) := foldl_append_records r.pages []
  rw [hrows] at h
  rw [collect, Task.run_bind_ok (Task.run_always h)]
  cases hfault : r.fault with
  | none => exact ⟨_, rfl⟩
  | some fault => exact ⟨log', rfl⟩

theorem run_recorded_opened {endpoint : Endpoint} {text : String} {t t' : τ} {first : Page}
    (h : store.transport.query endpoint text t = (.ok first, t')) (maxPages : Nat)
    (calls : List Call) (schemas : σ) (log : List Event) :
    (opened store.recorded endpoint text maxPages).run.run ⟨(t, calls), schemas, log⟩ =
      (.ok ⟨some first, none, 1, maxPages⟩,
        ⟨(t', calls ++ [.query endpoint text]), schemas, log⟩) := by
  rw [run_opened, Store.recorded_query, h]

theorem run_drain (endpoint : Endpoint) (text : String) (maxPages : Nat) (t : τ)
    (calls : List Call) (schemas : σ) (log : List Event) {first : Page} {t' : τ}
    (h : store.transport.query endpoint text t = (.ok first, t')) :
    let r := reading store 1 (maxPages - 1) first t'
    ∃ log', (drain store.recorded endpoint text maxPages).run.run ⟨(t, calls), schemas, log⟩ =
      (r.fault.elim (.ok (r.pages.flatMap (·.records))) .error,
        ⟨(r.transport, calls ++ .query endpoint text :: r.urls.map (.request "GET")), schemas,
          log'⟩) := by
  intro r
  obtain ⟨log', hcollect⟩ := run_collect 1 maxPages first t' (calls ++ [.query endpoint text])
    schemas log
  rw [drain, Task.run_bind_ok (run_recorded_opened h maxPages calls schemas log)]
  exact ⟨log', by rw [hcollect, List.append_assoc]; rfl⟩

/-- A chain that comes to its last page within the limit is read to its end. -/
theorem run_drain_of_done {endpoint : Endpoint} {text : String} {maxPages : Nat} {t t' : τ}
    {first : Page} {links : List (String × Page)}
    (h : Answers store endpoint text t first links t') (hdone : (endOf first links).done = true)
    (hlimit : links.length + 1 ≤ max 1 maxPages) (calls : List Call) (schemas : σ)
    (log : List Event) :
    ∃ log', (drain store.recorded endpoint text maxPages).run.run ⟨(t, calls), schemas, log⟩ =
      (.ok (rowsOf first links), ⟨(t', calls ++ callsOf endpoint text links), schemas, log'⟩) := by
  obtain ⟨t₁, hquery, chain⟩ := h
  obtain ⟨log', hrun⟩ := run_drain endpoint text maxPages t calls schemas log hquery
  have hreading := reading_of_done chain hdone 1 (show links.length ≤ maxPages - 1 by omega)
  rw [hreading] at hrun
  refine ⟨log', hrun.trans ?_⟩
  simp only [callsOf, List.map_map]
  rfl

theorem run_drain_of_error (endpoint : Endpoint) (text : String) (maxPages : Nat) (t : τ)
    (calls : List Call) (schemas : σ) (log : List Event) {fault : Fault} {t' : τ}
    (h : store.transport.query endpoint text t = (.error fault, t')) :
    (drain store.recorded endpoint text maxPages).run.run ⟨(t, calls), schemas, log⟩ =
      (.error fault, ⟨(t', calls ++ [.query endpoint text]), schemas, log⟩) := by
  rw [drain]
  apply Task.run_bind_error
  rw [run_opened, Store.recorded_query, h]

/-- Draining hands out the rows of all pages, in order and after one call for each, if the chain of
pages comes to its last page within the limit. It fails otherwise, it never makes more calls than
the limit, and it ends in the limit if the pages go on without a last one. -/
theorem drain_spec (store : Store τ σ) (endpoint : Endpoint) (text : String) (maxPages : Nat)
    (t : τ) (calls : List Call) (schemas : σ) (log : List Event) :
    let run := (drain store.recorded endpoint text maxPages).run.run ⟨(t, calls), schemas, log⟩
    (∀ first links t', Answers store endpoint text t first links t' →
      (endOf first links).done = true → links.length + 1 ≤ max 1 maxPages →
      run.1 = .ok (rowsOf first links) ∧
        run.2.transport = (t', calls ++ callsOf endpoint text links)) ∧
    ((¬∃ first links t', Answers store endpoint text t first links t' ∧
        (endOf first links).done = true ∧ links.length + 1 ≤ max 1 maxPages) →
      ∃ fault, run.1 = .error fault) ∧
    (∃ made, run.2.transport.2 = calls ++ made ∧ made.length ≤ max 1 maxPages) ∧
    (∀ first links t', Answers store endpoint text t first links t' →
      (endOf first links).done = false → (endOf first links).next.isSome →
      links.length + 1 = max 1 maxPages →
      run.1 = .error (.pageLimit (max 1 maxPages)) ∧
        run.2.transport = (t', calls ++ callsOf endpoint text links)) := by
  intro run
  refine ⟨?_, ?_, ?_, ?_⟩
  · intro first links t' h hdone hle
    obtain ⟨log', hrun⟩ := run_drain_of_done h hdone hle calls schemas log
    have hrun' : run = _ := hrun
    rw [hrun']
    exact ⟨rfl, rfl⟩
  · intro hnone
    cases hq : store.transport.query endpoint text t with
    | mk answer t' =>
      cases answer with
      | error fault =>
        exact ⟨fault, by simp only [run, run_drain_of_error _ _ _ _ _ _ _ hq]⟩
      | ok first =>
        obtain ⟨log', h⟩ := run_drain endpoint text maxPages t calls schemas log hq
        cases hr : (reading store 1 (maxPages - 1) first t').fault with
        | some fault => exact ⟨fault, by simp only [run, h, hr, Option.elim_some]⟩
        | none =>
          obtain ⟨links, t'', chain, hdone, hle⟩ := chain_of_reading hr
          exact absurd ⟨first, links, t'', ⟨t', hq, chain⟩, hdone, by omega⟩ hnone
  · cases hq : store.transport.query endpoint text t with
    | mk answer t' =>
      cases answer with
      | error fault =>
        simp only [run, run_drain_of_error _ _ _ _ _ _ _ hq]
        exact ⟨_, rfl, Nat.le_max_left 1 maxPages⟩
      | ok first =>
        obtain ⟨log', h⟩ := run_drain endpoint text maxPages t calls schemas log hq
        have hle := length_urls_le store 1 (maxPages - 1) first t'
        simp only [run, h]
        refine ⟨_, rfl, ?_⟩
        simp only [List.length_cons, List.length_map]
        omega
  · rintro first links t'' ⟨t', hq, chain⟩ hdone hnext hlen
    obtain ⟨log', h⟩ := run_drain endpoint text maxPages t calls schemas log hq
    have hr := reading_of_more chain hdone hnext 1
    have hlimit : maxPages - 1 = links.length := by omega
    rw [hlimit, hr] at h
    simp only [run, h, ← hlen, Nat.add_comm links.length 1]
    exact ⟨rfl, by simp [callsOf]⟩

end PageStream

end RecordQuery
