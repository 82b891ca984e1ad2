import RecordQuery.Proofs.Pages.Drain
import RecordQuery.Proofs.Query.Unsent

namespace RecordQuery

variable {τ σ κ β : Type} {store : Store τ σ}

/-- What a reader has after some batches. -/
def handed (consume : κ → β → Bool × κ) (seen : κ) (batches : List β) : κ :=
  batches.foldl (fun seen batch => (consume seen batch).2) seen

theorem continues_map {α : Type} (consume : κ → β → Bool × κ) (g : α → β) (seen : κ)
    (batches : List α) :
    Continues (fun seen batch => consume seen (g batch)) seen batches ↔
      Continues consume seen (batches.map g) := by
  induction batches generalizing seen with
  | nil => exact Iff.rfl
  | cons batch rest ih => exact and_congr_right fun _ => ih _

theorem handed_map {α : Type} (consume : κ → β → Bool × κ) (g : α → β) (seen : κ)
    (batches : List α) :
    handed (fun seen batch => consume seen (g batch)) seen batches =
      handed consume seen (batches.map g) := by
  rw [handed, handed, List.foldl_map]

/-- A reader wants more after each of some batches, and declines after the next one. -/
structure Declines (consume : κ → β → Bool × κ) (seen : κ) (front : List β) (last : β) :
    Prop where
  more : Continues consume seen front
  enough : (consume (handed consume seen front) last).1 = false

theorem declines_map {α : Type} (consume : κ → β → Bool × κ) (g : α → β) (seen : κ)
    {front : List α} {last : α} (h : Declines consume seen (front.map g) (g last)) :
    Declines (fun seen batch => consume seen (g batch)) seen front last where
  more := (continues_map consume g seen front).2 h.more
  enough := by
    rw [handed_map]
    exact h.enough

namespace PageStream

variable {consume : κ → List Row → Bool × κ}

/-- A reader who declines a page that could be handed out ends the walk there. -/
theorem walk_of_enough {page : Page} (hp : page.done = true ∨ page.next.isSome) {seen : κ}
    (hc : (consume seen page.records).1 = false) (fetched most pages : Nat)
    (session : Session τ σ) :
    ∃ stream, ((⟨some page, none, fetched, most⟩ : PageStream).walk store pure consume seen
        pages).run session =
      (⟨.ok (pages + 1), (consume seen page.records).2, stream⟩, session) := by
  have haccept : ∃ stream, (⟨none, none, fetched, most⟩ : PageStream).accept page =
      (.ok page.records, stream) := by
    cases hd : page.done with
    | true => exact ⟨_, accept_done hd _⟩
    | false =>
      rw [hd] at hp
      obtain ⟨cursor, hn⟩ := Option.isSome_iff_exists.1 (hp.resolve_left Bool.false_ne_true)
      exact ⟨_, accept_more hd hn _⟩
  obtain ⟨stream, haccept⟩ := haccept
  refine ⟨stream, ?_⟩
  rw [run_walk, next_held, haccept]
  change (if (consume seen page.records).1 then _ else _) = _
  rw [if_neg (by rw [hc]; exact Bool.false_ne_true)]

/-- The first page of a reading is the one it begins with, and could be handed out. -/
theorem exists_of_pages_reading {fetched more : Nat} {page : Page} {t : τ} {rows : List Row}
    {rest : List (List Row)}
    (h : (reading store fetched more page t).pages.map (·.records) = rows :: rest) :
    page.records = rows ∧ (page.done = true ∨ page.next.isSome) := by
  fun_induction reading store fetched more page t with
  | case1 fetched more page t hd => exact ⟨(List.cons.inj h).1, .inl hd⟩
  | case2 => cases h
  | case3 _ _ _ _ _ hn | case4 _ _ _ _ _ hn | case5 _ _ _ _ _ hn | case6 _ _ _ _ _ hn
  | case7 _ _ _ _ _ hn => exact ⟨(List.cons.inj h).1, .inr (by rw [hn]; rfl)⟩

/-- A reading of more than one page has followed the cursor of the first. -/
theorem exists_of_two_pages {fetched more : Nat} {page : Page} {t : τ} {rows rows' : List Row}
    {rest : List (List Row)}
    (h : (reading store fetched more page t).pages.map (·.records) = rows :: rows' :: rest) :
    ∃ cursor url response next t' more', page.done = false ∧ page.next = some cursor ∧
      more = more' + 1 ∧ address store.transport.instanceUrl cursor = .ok url ∧
      store.transport.request "GET" url t = (.ok response, t') ∧ response.page = .ok next ∧
      page.records = rows ∧
      (reading store (fetched + 1) more' next t').pages.map (·.records) = rows' :: rest ∧
      (reading store fetched more page t).urls =
        url :: (reading store (fetched + 1) more' next t').urls := by
  fun_induction reading store fetched more page t with
  | case7 fetched page t hd cursor hn more url hu response t' ha next hp r ih =>
    obtain ⟨hrows, hrest⟩ := List.cons.inj h
    exact ⟨cursor, url, response, next, t', more, by simpa using hd, hn, rfl, hu, ha, hp, hrows,
      hrest, rfl⟩
  | _ => cases h

/-- A reader who declines a page of the reading gets the pages up to it, and no page after it is
asked for. -/
theorem walk_declined {front rest : List (List Row)} {last : List Row} {fetched more most : Nat}
    (hmore : more = most - fetched) {page : Page} {t : τ}
    (hpages : (reading store fetched more page t).pages.map (·.records) = front ++ last :: rest)
    {seen : κ} (hc : Declines consume seen front last) (calls : List Call) (schemas : σ)
    (log : List Event) (pages : Nat) :
    ∃ s t' log', ((⟨some page, none, fetched, most⟩ : PageStream).walk store.recorded pure consume
        seen pages).run ⟨(t, calls), schemas, log⟩ =
      (⟨.ok (pages + front.length + 1), handed consume seen (front ++ [last]), s⟩,
        ⟨(t', calls ++ ((reading store fetched more page t).urls.take front.length).map
          (.request "GET")), schemas, log'⟩) := by
  -- On the pages before the declined one; the stream holds the first page of what is left to read.
  induction front generalizing fetched more page t seen calls log pages with
  | nil =>
    obtain ⟨rfl, hp⟩ := exists_of_pages_reading hpages
    have henough : (consume seen page.records).1 = false := hc.enough
    obtain ⟨s, h⟩ := walk_of_enough hp henough fetched most pages ⟨(t, calls), schemas, log⟩
    exact ⟨s, t, log, by rw [h]; simp [handed]⟩
  | cons rows front ih =>
    obtain ⟨rows', rest', hrest⟩ : ∃ rows' rest', front ++ last :: rest = rows' :: rest' := by
      cases front <;> exact ⟨_, _, rfl⟩
    rw [List.cons_append, hrest] at hpages
    obtain ⟨cursor, url, response, next, t', more', hd, hn, rfl, hu, ha, hp, rfl, hnext, hurls⟩ :=
      exists_of_two_pages hpages
    rw [← hrest] at hnext
    have hfollow : ¬most ≤ fetched := by omega
    obtain ⟨s, t'', log', h⟩ := ih (by omega) hnext ⟨hc.more.2, hc.enough⟩
      (calls ++ [.request "GET" url]) (log ++ [.following url (fetched + 1)]) (pages + 1)
    refine ⟨s, t'', log', ?_⟩
    rw [walk_of_more hd hn hc.more.1, walk_of_follow_ok (by
      rw [run_recorded_follow hfollow hu ha, Except.bind, hp]), h, hurls]
    simp [handed, Nat.add_assoc, Nat.add_comm 1]

theorem length_pages_le (fetched more : Nat) (page : Page) (t : τ) :
    (reading store fetched more page t).pages.length ≤
      (reading store fetched more page t).urls.length + 1 := by
  fun_induction reading store fetched more page t with
  | case7 fetched page t hd cursor hn more url hu t' response ha next hp r ih =>
    exact Nat.succ_le_succ ih
  | _ => simp

/-- Pages that are prepared without a fault and without a trace are handed over as the reader is to
get them. -/
theorem walk_prepared {prepare : List Row → Task τ σ β} {g : List Row → β}
    (hprepare : ∀ rows s, (prepare rows).run.run s = (.ok (g rows), s))
    (consume : κ → β → Bool × κ) (stream : PageStream) (seen : κ) (pages : Nat)
    (session : Session τ σ) :
    (stream.walk store prepare consume seen pages).run session =
      (stream.walk store pure (fun seen rows => consume seen (g rows)) seen pages).run session := by
  -- On the pages that the stream may still ask for, as the walk ends on them.
  induction hn : stream.remaining using Nat.strongRecOn
    generalizing stream seen pages session with
  | ind n ih =>
    rw [run_walk, run_walk]
    rcases hnext : (stream.next store).run session with ⟨⟨answer, stream'⟩, session'⟩
    cases answer with
    | error fault => rfl
    | ok answer =>
      cases answer with
      | none => rfl
      | some rows =>
        have hless := remaining_lt_of_next hnext
        have hrest := ih stream'.remaining (hn ▸ hless) stream' (consume seen (g rows)).2
          (pages + 1) session' rfl
        dsimp only
        rw [hprepare]
        change (if (consume seen (g rows)).1 then _ else _) =
          if (consume seen (g rows)).1 then _ else _
        rw [hrest]

end PageStream

/-- What the runs of a query come to: the batches that are handed over, the fault after them if
there is one, and the calls for all that. -/
structure Retrieval (α : Type) where
  batches : List (List α)
  fault : Option Fault
  calls : List Call

structure Delivery (τ : Type) extends Retrieval Row where
  transport : τ

namespace Query

/-- A query that can be written is sent, and its pages are read on from the first. -/
def delivery (store : Store τ σ) (q : Query) (t : τ) : Delivery τ :=
  match q.text.value with
  | .error fault => ⟨⟨[], some fault, []⟩, t⟩
  | .ok text =>
    let call := Call.query (q.endpoint store.settings) text
    match store.transport.query (q.endpoint store.settings) text t with
    | (.error fault, t) => ⟨⟨[], some fault, [call]⟩, t⟩
    | (.ok page, t) =>
      let r := PageStream.reading store 1 (store.settings.maxPages.toNat - 1) page t
      ⟨⟨r.pages.map (·.records), r.fault, call :: r.urls.map (.request "GET")⟩, r.transport⟩

variable {q : Query}

theorem exists_calls_delivery (store : Store τ σ) {text : String} (h : q.text.value = .ok text)
    (t : τ) : ∃ rest, (q.delivery store t).calls =
      .query (q.endpoint store.settings) text :: rest := by
  unfold delivery
  rw [h]
  dsimp only
  split <;> exact ⟨_, rfl⟩

theorem length_batches_le (store : Store τ σ) (q : Query) (t : τ) :
    (q.delivery store t).batches.length ≤ (q.delivery store t).calls.length := by
  unfold delivery
  split
  · exact Nat.le_refl 0
  · dsimp only
    split
    · exact Nat.zero_le 1
    · simpa using PageStream.length_pages_le 1 (store.settings.maxPages.toNat - 1) _ _

/-- A query is refused, by its text or by the store, or its first page is read on from. -/
theorem openStream_cases (store : Store τ σ) (q : Query) (t : τ) (calls : List Call) (schemas : σ)
    (log : List Event) :
    let d := q.delivery store t
    let run := (q.openStream store.recorded).run.run ⟨(t, calls), schemas, log⟩
    (∃ fault log', d.batches = [] ∧ d.fault = some fault ∧
      run = (.error fault, ⟨(d.transport, calls ++ d.calls), schemas, log'⟩)) ∨
    ∃ page t' call log', run =
        (.ok ⟨some page, none, 1, store.settings.maxPages.toNat⟩,
          ⟨(t', calls ++ [call]), schemas, log'⟩) ∧
      let r := PageStream.reading store 1 (store.settings.maxPages.toNat - 1) page t'
      d = ⟨⟨r.pages.map (·.records), r.fault, call :: r.urls.map (.request "GET")⟩,
        r.transport⟩ := by
  intro d run
  have htrace : (Task.trace q.text : Task (τ × List Call) σ String).run.run
      ⟨(t, calls), schemas, log⟩ =
        (q.text.value, ⟨(t, calls), schemas, log ++ q.text.events⟩) := rfl
  cases htext : q.text.value with
  | error fault =>
    have hd : d = ⟨⟨[], some fault, []⟩, t⟩ := by simp only [d, delivery, htext]
    rw [htext] at htrace
    refine .inl ⟨fault, log ++ q.text.events, by rw [hd], by rw [hd], ?_⟩
    rw [hd, List.append_nil]
    exact Task.run_bind_error htrace _
  | ok text =>
    rcases hquery : store.transport.query (q.endpoint store.settings) text t with ⟨answer, t'⟩
    let call := Call.query (q.endpoint store.settings) text
    have hsent : store.recorded.transport.query (q.endpoint store.recorded.settings) text
        (t, calls) = (answer, t', calls ++ [call]) :=
      (Store.recorded_query store (q.endpoint store.settings) text t calls).trans (by rw [hquery])
    have hrun : run = (answer.map fun page => ⟨some page, none, 1, store.settings.maxPages.toNat⟩,
        ⟨(t', calls ++ [call]), schemas, log ++ q.text.events⟩) := by
      rw [htext] at htrace
      refine (Task.run_bind_ok htrace _).trans ((PageStream.run_opened ..).trans ?_)
      dsimp only
      rw [hsent]
      cases answer <;> rfl
    cases answer with
    | error fault =>
      have hd : d = ⟨⟨[], some fault, [call]⟩, t'⟩ := by
        simp only [d, delivery, htext, hquery, call]
      exact .inl ⟨fault, _, by rw [hd], by rw [hd], by rw [hrun, hd]; rfl⟩
    | ok page =>
      refine .inr ⟨page, t', call, _, hrun, ?_⟩
      simp only [d, delivery, htext, hquery, call]

theorem run_walkPages_of_error {prepare : List Row → Task τ σ β} {fault : Fault}
    {s s' : Session τ σ} (h : (q.openStream store).run.run s = (.error fault, s'))
    (consume : κ → β → Bool × κ) (seen : κ) :
    (q.walkPages store prepare consume seen).run s = ((.error fault, seen), s') := by
  unfold walkPages
  rw [StateT.run_bind, h]
  rfl

theorem run_walkPages_of_ok {prepare : List Row → Task τ σ β} {stream : PageStream}
    {s s' : Session τ σ} (h : (q.openStream store).run.run s = (.ok stream, s'))
    {consume : κ → β → Bool × κ} {seen : κ} {walk : PageStream.Walk κ} {s'' : Session τ σ}
    (hwalk : (stream.walk store prepare consume seen 0).run s' = (walk, s'')) :
    (q.walkPages store prepare consume seen).run s = ((walk.pages, walk.seen), s'') := by
  unfold walkPages
  rw [StateT.run_bind, h]
  change (stream.walk store prepare consume seen 0 >>= _).run s' = _
  rw [StateT.run_bind, hwalk]
  rfl

variable {consume : κ → List Row → Bool × κ} {seen : κ}

/-- A reader who wants more after each page of a query gets them all. -/
theorem run_walkPages {t : τ} (hc : Continues consume seen (q.delivery store t).batches)
    (calls : List Call) (schemas : σ) (log : List Event) :
    let d := q.delivery store t
    ∃ log', (q.walkPages store.recorded pure consume seen).run ⟨(t, calls), schemas, log⟩ =
      ((d.fault.elim (.ok d.batches.length) .error, handed consume seen d.batches),
        ⟨(d.transport, calls ++ d.calls), schemas, log'⟩) := by
  obtain ⟨fault, log', hpages, hfault, hopen⟩ | ⟨page, t', call, log', hopen, hd⟩ :=
    openStream_cases store q t calls schemas log
  · exact ⟨log', by rw [run_walkPages_of_error hopen, hpages, hfault]; rfl⟩
  · rw [hd] at hc ⊢
    obtain ⟨stream, log'', hwalk⟩ := PageStream.walk_eq_reading 1 _ _ rfl page t'
      (calls ++ [call]) schemas log' seen 0 hc
    refine ⟨log'', (run_walkPages_of_ok hopen hwalk).trans ?_⟩
    simp [handed, List.foldl_map, List.append_assoc]

/-- A reader who declines a page of a query gets the pages up to it, with one call for each. -/
theorem run_walkPages_declined {t : τ} {front rest : List (List Row)} {last : List Row}
    (hpages : (q.delivery store t).batches = front ++ last :: rest)
    (hc : Declines consume seen front last) (calls : List Call) (schemas : σ) (log : List Event) :
    ∃ t' log', (q.walkPages store.recorded pure consume seen).run ⟨(t, calls), schemas, log⟩ =
      ((.ok (front.length + 1), handed consume seen (front ++ [last])),
        ⟨(t', calls ++ (q.delivery store t).calls.take (front.length + 1)), schemas, log'⟩) := by
  obtain ⟨fault, log', hnone, -, -⟩ | ⟨page, t', call, log', hopen, hd⟩ :=
    openStream_cases store q t calls schemas log
  · rw [hnone] at hpages
    cases front <;> exact nomatch hpages
  · rw [hd] at hpages ⊢
    obtain ⟨stream, t'', log'', hwalk⟩ := PageStream.walk_declined rfl hpages hc
      (calls ++ [call]) schemas log' 0
    refine ⟨t'', log'', (run_walkPages_of_ok hopen hwalk).trans ?_⟩
    simp [List.append_assoc, List.map_take]

/-- Running a query collects the rows of its pages. -/
theorem run_run (store : Store τ σ) (q : Query) (t : τ) (calls : List Call) (schemas : σ)
    (log : List Event) :
    let d := q.delivery store t
    ∃ log', (q.run store.recorded).run.run ⟨(t, calls), schemas, log⟩ =
      (d.fault.elim (.ok d.batches.flatten) .error,
        ⟨(d.transport, calls ++ d.calls), schemas, log'⟩) := by
  have hbegan := Task.run_emit (.began q.object)
    (⟨(t, calls), schemas, log⟩ : Session (τ × List Call) σ)
  rw [run, Task.run_bind_ok hbegan]
  obtain ⟨fault, log', hpages, hfault, hopen⟩ | ⟨page, t', call, log', hopen, hd⟩ :=
    openStream_cases store q t calls schemas (log ++ [.began q.object])
  · refine ⟨log', ?_⟩
    rw [Task.run_bind_error hopen, hfault]
    rfl
  · rw [hd]
    obtain ⟨log'', hcollect⟩ := PageStream.run_collect 1 store.settings.maxPages.toNat page t'
      (calls ++ [call]) schemas log'
    refine ⟨log'', ?_⟩
    rw [Task.run_bind_ok hopen, hcollect]
    simp [List.flatMap, List.append_assoc]

end Query

/-- The answers of the transport and of the source of schemas depend on the request alone. -/
structure Store.Settled (store : Store τ σ) : Prop where
  query : ∀ endpoint text t t',
    (store.transport.query endpoint text t).1 = (store.transport.query endpoint text t').1
  request : ∀ method url t t',
    (store.transport.request method url t).1 = (store.transport.request method url t').1
  described : ∀ object state state', (store.schemas.describe object state).value.1 =
    (store.schemas.describe object state').value.1

theorem Store.Settled.request_eq (h : store.Settled) {method url : String} {t t₁ : τ}
    {answer : Except Fault Response} (ha : store.transport.request method url t = (answer, t₁))
    (t' : τ) : ∃ t₁', store.transport.request method url t' = (answer, t₁') := by
  have hsame := h.request method url t' t
  rw [ha] at hsame
  exact ⟨(store.transport.request method url t').2, Prod.ext hsame rfl⟩

theorem PageStream.reading_settled (h : store.Settled) (fetched more : Nat) (page : Page)
    (t t' : τ) :
    let r := reading store fetched more page t
    let r' := reading store fetched more page t'
    r.pages = r'.pages ∧ r.fault = r'.fault ∧ r.urls = r'.urls := by
  intro r r'
  subst r r'
  fun_induction reading store fetched more page t generalizing t' with
  | case1 fetched more page t hd => simp [reading, hd]
  | case2 fetched more page t hd hn => simp [reading, hd, hn]
  | case3 fetched page t hd cursor hn => simp [reading, hd, hn]
  | case4 fetched page t hd cursor hn more fault hu => simp [reading, hd, hn, hu]
  | case5 fetched page t hd cursor hn more url hu fault t₁ ha =>
    obtain ⟨t₁', ha'⟩ := h.request_eq ha t'
    simp [reading, hd, hn, hu, ha']
  | case6 fetched page t hd cursor hn more url hu response t₁ ha fault hp =>
    obtain ⟨t₁', ha'⟩ := h.request_eq ha t'
    simp [reading, hd, hn, hu, ha', hp]
  | case7 fetched page t hd cursor hn more url hu response t₁ ha next hp r ih =>
    obtain ⟨t₁', ha'⟩ := h.request_eq ha t'
    obtain ⟨hpages, hfault, hurls⟩ := ih t₁'
    have hr' : reading store fetched (more + 1) page t' =
        let r' := reading store (fetched + 1) more next t₁'
        ⟨page :: r'.pages, r'.fault, url :: r'.urls, r'.transport⟩ := by
      rw [reading]
      simp only [hd, hn, hu, ha', hp]
      rfl
    rw [hr']
    exact ⟨congrArg (page :: ·) hpages, hfault, congrArg (url :: ·) hurls⟩

theorem Query.delivery_settled (h : store.Settled) (q : Query) (t t' : τ) :
    (q.delivery store t).toRetrieval = (q.delivery store t').toRetrieval := by
  unfold delivery
  cases q.text.value with
  | error fault => rfl
  | ok text =>
    have hsame := h.query (q.endpoint store.settings) text t t'
    dsimp only
    rcases ha : store.transport.query (q.endpoint store.settings) text t with ⟨answer, t₁⟩
    rcases ha' : store.transport.query (q.endpoint store.settings) text t' with ⟨answer', t₁'⟩
    rw [ha, ha'] at hsame
    obtain rfl : answer = answer' := hsame
    cases answer with
    | error fault => rfl
    | ok page =>
      obtain ⟨hpages, hfault, hurls⟩ := PageStream.reading_settled h 1
        (store.settings.maxPages.toNat - 1) page t₁ t₁'
      dsimp only
      rw [hpages, hfault, hurls]

end RecordQuery
