import RecordQuery.Proofs.Pages.Basic

namespace RecordQuery.PageStream

variable {τ σ : Type} {store : Store τ σ}

/-- The page that a call of `next` takes up in a session: the one held, or the one that the cursor
leads to. -/
def upcoming (store : Store τ σ) (s : PageStream) (session : Session τ σ) : Option Page :=
  match s.first, s.cursor with
  | some page, _ => some page
  | none, none => none
  | none, some cursor => ((s.follow store cursor).run.run session).1.toOption

/-- One call of `next`: the page it took up, if any, and its answer. -/
structure Visit where
  page : Option Page
  answer : Except Fault (Option (List Row))

namespace Visit

/-- The rows of the last page were handed out. -/
def HandsOutLast (v : Visit) : Prop :=
  ∃ page, v.page = some page ∧ page.done = true ∧ v.answer = .ok (some page.records)

def Failed (v : Visit) : Prop := ∃ fault, v.answer = .error fault

def Ends (v : Visit) : Prop := v.answer = .ok none

/-- A call that hands out rows neither ends nor fails. -/
theorem not_ends_of_rows {v : Visit} {rows : List Row} (h : v.answer = .ok (some rows)) :
    ¬v.Ends ∧ ¬v.Failed := by
  constructor
  · intro he
    rw [Ends, h] at he
    exact nomatch he
  · rintro ⟨fault, hf⟩
    rw [h] at hf
    exact nomatch hf

theorem not_failed_of_handsOutLast {v : Visit} (h : v.HandsOutLast) : ¬v.Failed := by
  obtain ⟨page, _, _, ha⟩ := h
  exact (not_ends_of_rows ha).2

theorem not_failed_of_ends {v : Visit} (h : v.Ends) : ¬v.Failed := by
  rintro ⟨fault, hf⟩
  rw [h] at hf
  exact nomatch hf

end Visit

/-- Calls of `next` on a stream, one after the other, and the stream after them. Between two calls
the session may change in any way. -/
inductive Calls (store : Store τ σ) : PageStream → List Visit → PageStream → Prop
  | nil (s : PageStream) : Calls store s [] s
  | cons (session : Session τ σ) {session' : Session τ σ} {s s' s'' : PageStream}
      {answer : Except Fault (Option (List Row))} {visits : List Visit}
      (call : (s.next store).run session = ((answer, s'), session'))
      (rest : Calls store s' visits s'') :
      Calls store s (⟨s.upcoming store session, answer⟩ :: visits) s''

/-- A call that takes up a page leaves the stream spent if the page is the last one or cannot be
accepted. -/
theorem visit_of_accept {s : PageStream} (hs : s.Spent) (page : Page) :
    let v : Visit := ⟨some page, (s.accept page).1.map some⟩
    ¬v.Ends ∧ ((s.accept page).2.Spent ↔ v.HandsOutLast ∨ v.Failed) ∧
      (s.accept page).2.Orderly := by
  intro v
  cases hd : page.done with
  | true =>
    have hv : v.answer = .ok (some page.records) := by simp only [v, accept_done hd]; rfl
    rw [accept_done hd]
    exact ⟨(Visit.not_ends_of_rows hv).1, iff_of_true hs (.inl ⟨page, rfl, hd, hv⟩), .inl hs.1⟩
  | false =>
    have hlast : ¬v.HandsOutLast := by
      rintro ⟨other, hp, hl, _⟩
      obtain rfl : page = other := Option.some.inj hp
      rw [hd] at hl
      exact nomatch hl
    cases hn : page.next with
    | none =>
      have ha := accept_lost hd hn s
      have hv : v.Failed := ⟨_, by simp only [v, ha]; rfl⟩
      rw [ha]
      exact ⟨fun h => Visit.not_failed_of_ends h hv, iff_of_true hs (.inr hv), .inl hs.1⟩
    | some cursor =>
      have hv : v.answer = .ok (some page.records) := by
        simp only [v, accept_more hd hn]
        rfl
      obtain ⟨hends, hfailed⟩ := Visit.not_ends_of_rows hv
      rw [accept_more hd hn]
      exact ⟨hends, iff_of_false (fun h => nomatch h.2) (not_or.2 ⟨hlast, hfailed⟩), .inl hs.1⟩

/-- A call that finds the stream spent answers the end, and a call that finds it otherwise takes up
a page or fails. The stream is spent after the last page and after a fault. -/
theorem next_cases {s s' : PageStream} (hs : s.Orderly) {session session' : Session τ σ}
    {answer : Except Fault (Option (List Row))}
    (h : (s.next store).run session = ((answer, s'), session')) :
    let v : Visit := ⟨s.upcoming store session, answer⟩
    (v.Ends ↔ s.Spent) ∧ (s'.Spent ↔ s.Spent ∨ v.HandsOutLast ∨ v.Failed) ∧ s'.Orderly := by
  intro v
  cases hf : s.first with
  | some page =>
    have hc : s.cursor = none := hs.resolve_left (by simp [hf])
    have hsp : ¬s.Spent := by simp [Spent, hf]
    obtain ⟨hends, hspent, horder⟩ :=
      visit_of_accept (s := { s with first := none }) ⟨rfl, hc⟩ page
    have hp : s.upcoming store session = some page := by simp only [upcoming, hf]
    rw [next_of_first hf] at h
    obtain ⟨⟨rfl, rfl⟩, rfl⟩ := h
    simp only [v, hp]
    exact ⟨iff_of_false hends hsp, by rw [hspent, or_iff_right hsp], horder⟩
  | none =>
    cases hc : s.cursor with
    | none =>
      have hsp : s.Spent := ⟨hf, hc⟩
      rw [next_of_spent hsp] at h
      obtain ⟨⟨rfl, rfl⟩, rfl⟩ := h
      exact ⟨iff_of_true rfl hsp, iff_of_true hsp (.inl hsp), hs⟩
    | some cursor =>
      have hsp : ¬s.Spent := by simp [Spent, hc]
      rw [next_of_cursor hf hc] at h
      cases hr : (s.follow store cursor).run.run session with
      | mk read after =>
        cases read with
        | error fault =>
          rw [hr] at h
          obtain ⟨⟨rfl, rfl⟩, rfl⟩ := h
          have hv : v.Failed := ⟨fault, rfl⟩
          exact ⟨iff_of_false (fun he => Visit.not_failed_of_ends he hv) hsp,
            iff_of_true ⟨hf, rfl⟩ (.inr (.inr hv)), .inr rfl⟩
        | ok page =>
          obtain ⟨hends, hspent, horder⟩ := visit_of_accept
            (s := { s with cursor := none, pagesFetched := s.pagesFetched + 1 }) ⟨hf, rfl⟩ page
          have hp : s.upcoming store session = some page := by
            simp only [upcoming, hf, hc, hr]
            rfl
          rw [hr] at h
          obtain ⟨⟨rfl, rfl⟩, rfl⟩ := h
          simp only [v, hp]
          exact ⟨iff_of_false hends hsp, by rw [hspent, or_iff_right hsp], horder⟩

/-- From a stream that is not spent, the end is answered after the last page and after a fault, and
at no other call. -/
theorem Calls.ends_iff {s s' : PageStream} {visits : List Visit} (calls : Calls store s visits s')
    (hs : s.Orderly) {before after : List Visit} {v : Visit}
    (hv : visits = before ++ v :: after) :
    v.Ends ↔ s.Spent ∨ ∃ w ∈ before, w.HandsOutLast ∨ w.Failed := by
  induction calls generalizing before with
  | nil => simp at hv
  | cons _ call rest ih =>
    obtain ⟨hends, hspent, horder⟩ := next_cases hs call
    cases before with
    | nil =>
      obtain ⟨rfl, rfl⟩ := List.cons.inj hv
      simpa using hends
    | cons w before =>
      obtain ⟨rfl, hrest⟩ := List.cons.inj hv
      rw [ih horder hrest, hspent]
      simp only [List.mem_cons, exists_eq_or_imp, or_assoc]

theorem opened_orderly {endpoint : Endpoint} {text : String} {maxPages : Nat}
    {session session' : Session τ σ} {s : PageStream}
    (h : (opened store endpoint text maxPages).run.run session = (.ok s, session')) :
    s.Orderly ∧ ¬s.Spent := by
  rw [run_opened] at h
  cases hq : store.transport.query endpoint text session.transport with
  | mk answer t =>
    rw [hq] at h
    cases answer with
    | error fault => exact nomatch congrArg Prod.fst h
    | ok page =>
      obtain rfl : ⟨some page, none, 1, maxPages⟩ = s := Except.ok.inj (congrArg Prod.fst h)
      exact ⟨.inr rfl, fun hs => nomatch hs.1⟩

/-- On a stream that was opened, the end is answered exactly at the calls after the last page or
after a fault. So it is answered after the last page alone just when no call follows a fault. -/
theorem ends_iff_after_last_or_fault {endpoint : Endpoint} {text : String} {maxPages : Nat}
    {session session' : Session τ σ} {s s' : PageStream} {visits : List Visit}
    (hopen : (opened store endpoint text maxPages).run.run session = (.ok s, session'))
    (calls : Calls store s visits s') :
    (∀ before v after, visits = before ++ v :: after →
      (v.Ends ↔ ∃ w ∈ before, w.HandsOutLast ∨ w.Failed)) ∧
    ((∀ before v after, visits = before ++ v :: after → v.Ends →
        ∃ w ∈ before, w.HandsOutLast) ↔
      ∀ before w after, visits = before ++ w :: after → w.Failed → after = []) := by
  obtain ⟨hs, hsp⟩ := opened_orderly hopen
  have hends {before after : List Visit} {v : Visit} (hv : visits = before ++ v :: after) :
      v.Ends ↔ ∃ w ∈ before, w.HandsOutLast ∨ w.Failed := by
    rw [calls.ends_iff hs hv, or_iff_right hsp]
  refine ⟨fun before v after => hends, fun h before w after hw hf => ?_,
    fun h before v after hv he => ?_⟩
  · -- A call after the fault answers the end, so some call up to the fault handed out the last
    -- page; it came before the fault, but then the fault itself would have been the end.
    cases after with
    | nil => rfl
    | cons v after =>
      have hv : visits = (before ++ [w]) ++ v :: after := by simp [hw]
      have he : v.Ends := (hends hv).2 ⟨w, by simp, .inr hf⟩
      obtain ⟨u, hu, hlast⟩ := h _ v after hv he
      have hub : u ∈ before := by
        rcases List.mem_append.1 hu with hu | hu
        · exact hu
        · obtain rfl := List.mem_singleton.1 hu
          exact absurd hf (Visit.not_failed_of_handsOutLast hlast)
      exact absurd hf (Visit.not_failed_of_ends ((hends hw).2 ⟨u, hub, .inl hlast⟩))
  · obtain ⟨w, hw, hlast | hf⟩ := (hends hv).1 he
    · exact ⟨w, hw, hlast⟩
    · obtain ⟨front, back, rfl⟩ := List.append_of_mem hw
      have hback := h front w (back ++ v :: after) (by simp [hv]) hf
      simp at hback

/-- A page that is not the last one and names no other. -/
def lostPage : Page := ⟨[], false, none, none⟩

def pagesAlone : Store (List Page) Unit :=
  .scripted (fun object => .error (.schemaUnavailable object)) ⟨[]⟩

/-- Two calls on a stream whose first page is lost: the first fails, the second ends. -/
def lostVisits : List Visit := [
  ⟨some lostPage, .error (.malformedResponse "page is not done but carries no nextRecordsUrl")⟩,
  ⟨none, .ok none⟩]

theorem opened_lostPage :
    (opened pagesAlone .query "" 10).run.run ⟨[lostPage], (), []⟩ =
      (.ok ⟨some lostPage, none, 1, 10⟩, ⟨[], (), []⟩) := rfl

theorem calls_lostPage :
    Calls pagesAlone ⟨some lostPage, none, 1, 10⟩ lostVisits ⟨none, none, 1, 10⟩ :=
  .cons ⟨[], (), []⟩ rfl (.cons ⟨[], (), []⟩ rfl (.nil _))

/-- Here the second call ends, after a fault and without a last page. -/
theorem ends_iff_of_lostVisits :
    (opened pagesAlone .query "" 10).run.run ⟨[lostPage], (), []⟩ =
      (.ok ⟨some lostPage, none, 1, 10⟩, ⟨[], (), []⟩) ∧
    Calls pagesAlone ⟨some lostPage, none, 1, 10⟩ lostVisits ⟨none, none, 1, 10⟩ ∧
    (∀ before v after, lostVisits = before ++ v :: after →
      (v.Ends ↔ ∃ w ∈ before, w.HandsOutLast ∨ w.Failed)) ∧
    ((∀ before v after, lostVisits = before ++ v :: after → v.Ends →
        ∃ w ∈ before, w.HandsOutLast) ↔
      ∀ before w after, lostVisits = before ++ w :: after → w.Failed → after = []) :=
  ⟨opened_lostPage, calls_lostPage, ends_iff_after_last_or_fault opened_lostPage calls_lostPage⟩

theorem ends_without_last_page :
    ¬∀ (visits : List Visit) (s s' : PageStream) (session : Session (List Page) Unit),
      (opened pagesAlone .query "" 10).run.run ⟨[lostPage], (), []⟩ = (.ok s, session) →
      Calls pagesAlone s visits s' →
      ∀ before v after, visits = before ++ v :: after → v.Ends →
        ∃ w ∈ before, w.HandsOutLast := by
  intro h
  obtain ⟨w, hw, page, hp, hlast, _⟩ :=
    h lostVisits _ _ ⟨[], (), []⟩ opened_lostPage calls_lostPage [_] ⟨none, .ok none⟩ [] rfl rfl
  obtain rfl := List.mem_singleton.1 hw
  obtain rfl : lostPage = page := Option.some.inj hp
  exact nomatch hlast

end RecordQuery.PageStream
