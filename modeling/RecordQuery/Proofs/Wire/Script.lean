import RecordQuery.Proofs.Fields
import RecordQuery.Proofs.Pages.Drain
import RecordQuery.Proofs.Text.Digits
import RecordQuery.Proofs.Web.Joined
import RecordQuery.Proofs.Wire.Page
import RecordQuery.Wire.Script

namespace RecordQuery.Script

open Web

def digits (n : Nat) : List Char := (toString n).toList

/-- The last segment of a cursor. -/
def place (chain index : Nat) : List Char :=
  '0' :: '1' :: 'g' :: (digits chain ++ '-' :: digits index)

/-- What follows the first slash of a cursor. -/
def cursorPath (chain index : Nat) : List Char :=
  "services/data/v60.0/query".toList ++ '/' :: place chain index

theorem cursor_eq (chain index : Nat) :
    cursor chain index = String.ofList ('/' :: cursorPath chain index) := by
  have hpath : queryPath.toList = '/' :: "services/data/v60.0/query".toList := rfl
  have hlead : "/01g".toList = ['/', '0', '1', 'g'] := rfl
  have htext : (cursor chain index).toList = '/' :: cursorPath chain index := by
    rw [cursor, String.toList_append, String.toList_append, String.toList_append,
      String.toList_append, List.append_assoc, List.append_assoc, List.append_assoc, hpath, hlead]
    rfl
  rw [← htext, String.ofList_toList]

theorem isDigit_of_mem_digits {n : Nat} {c : Char} (h : c ∈ digits n) : c.isDigit :=
  Text.Over.digits_toString n c h

theorem digits_injective {m n : Nat} (h : digits m = digits n) : m = n := by
  rw [← Text.decimal_toString m, ← Text.decimal_toString n]
  exact congrArg Text.decimal h

/-- A place tells its chain and its index, as no digit is a dash. -/
theorem place_injective {chain index chain' index' : Nat}
    (h : place chain index = place chain' index') : chain = chain' ∧ index = index' := by
  have hhead (m n : Nat) : (digits m ++ '-' :: digits n).takeWhile Char.isDigit = digits m := by
    rw [List.takeWhile_append_of_pos fun c => isDigit_of_mem_digits]
    exact List.append_nil _
  simp only [place, List.cons.injEq, true_and] at h
  have hchain : digits chain = digits chain' := by
    rw [← hhead chain index, h, hhead]
  rw [hchain] at h
  have hindex := (List.cons.inj (List.append_cancel_left h)).2
  exact ⟨digits_injective hchain, digits_injective hindex⟩

theorem cursor_injective {chain index chain' index' : Nat}
    (h : cursor chain index = cursor chain' index') : chain = chain' ∧ index = index' := by
  rw [cursor_eq, cursor_eq] at h
  have hpaths := (List.cons.inj (String.ofList_injective h)).2
  exact place_injective (List.cons.inj (List.append_cancel_left hpaths)).2

theorem plain_cursorPath (chain index : Nat) : Path.Plain (cursorPath chain index) := by
  have hroot : Path.Plain "services/data/v60.0/query".toList := ⟨by decide, by decide, by decide⟩
  refine hroot.append_segment (List.cons_ne_nil _ _) ?_ ?_ (Path.isDot_of_head ?_ ?_ _)
  · simp only [place, List.forall_mem_cons, List.forall_mem_append]
    exact ⟨rfl, rfl, rfl, fun c hc => Path.isPlain_of_isDigit (isDigit_of_mem_digits hc), rfl,
      fun c hc => Path.isPlain_of_isDigit (isDigit_of_mem_digits hc)⟩
  · have hdigits (n : Nat) : '/' ∉ digits n := fun h => nomatch isDigit_of_mem_digits h
    simp [place, hdigits]
  · decide
  · decide

/-- The default address has no path, so a cursor is put behind it as it is. -/
theorem address_cursor (chain index : Nat) :
    PageStream.address defaultUrl (cursor chain index) = .ok (defaultUrl ++ cursor chain index) := by
  let base : Url := ⟨"https".toList, some "mock.my.example.com".toList, .segments [[]], none, none⟩
  have hbase : Url.ofText? defaultUrl = some base := by with_unfolding_all rfl
  rw [cursor_eq]
  exact PageStream.address_of_plain hbase rfl rfl rfl rfl (plain_cursorPath chain index)

/-- The page of a chain that has these rows, with those of the pages after it. -/
def pageAt (chain index : Nat) (rows : List Row) : List (List Row) → Page
  | [] => .last rows
  | _ :: _ => .before rows (cursor chain (index + 1))

theorem chained_cons (chain index : Nat) (rows : List Row) (more : List (List Row)) :
    chained chain index (rows :: more) =
      pageAt chain index rows more :: chained chain (index + 1) more := by
  cases more <;> rfl

/-- The pages of a chain from an index on, with the cursors they are found under. -/
def links (chain : Nat) : Nat → List (List Row) → List (String × Page)
  | _, [] => []
  | index, rows :: more =>
    (cursor chain index, pageAt chain index rows more) :: links chain (index + 1) more

theorem mapIdx_chained (chain index : Nat) (pages : List (List Row)) :
    (chained chain index pages).mapIdx (fun i page => (cursor chain (i + index), page)) =
      links chain index pages := by
  induction pages generalizing index with
  | nil => rfl
  | cons rows more ih =>
    rw [chained_cons, List.mapIdx_cons, links, ← ih, Nat.zero_add]
    simp only [Nat.add_assoc, Nat.add_comm 1]

/-- A page of a chain from an index on has a cursor of that chain, and none of before the index. -/
theorem exists_cursor_of_mem_links {chain index : Nat} {pages : List (List Row)}
    {link : String × Page} (h : link ∈ links chain index pages) :
    ∃ i, index ≤ i ∧ link.1 = cursor chain i := by
  induction pages generalizing index with
  | nil => exact nomatch h
  | cons rows more ih =>
    obtain rfl | h := List.mem_cons.1 h
    · exact ⟨index, Nat.le_refl _, rfl⟩
    · obtain ⟨i, hi, hcursor⟩ := ih h
      exact ⟨i, by omega, hcursor⟩

/-- The page that answers the query of a chain. It reports the number of all rows. -/
def opening (chain : Nat) (pages : List (List Row)) : Page :=
  let first : Page := match pages with
    | [] => .last []
    | rows :: more => pageAt chain 0 rows more
  { first with total := some (UInt64.ofNat pages.flatten.length) }

/-- Keeps pages under their cursors. -/
def keep (s : Script) (pages : List (String × Page)) : Script :=
  pages.foldl (fun s (cursor, page) => s.onFollowUpPage cursor page) s

theorem respond_eq (s : Script) (needle : String) (pages : List (List Row)) :
    s.respond needle pages =
      (({ s with chains := s.chains + 1 } : Script).keep
        (links (s.chains + 1) 1 pages.tail)).onQuery needle (.page (opening (s.chains + 1) pages)) := by
  cases pages with
  | nil => rfl
  | cons rows more =>
    rw [List.tail_cons, ← mapIdx_chained]
    unfold respond
    dsimp only
    rw [chained_cons]
    rfl

def Serves (s : Script) (pages : List (String × Page)) : Prop :=
  ∀ link ∈ pages, s.followUps.find? (s.instanceUrl ++ link.1) = some (.ok link.2.toJson.toText)

theorem find?_onFollowUpPage (s : Script) (cursor : String) (page : Page) (other : String) :
    (s.onFollowUpPage cursor page).followUps.find? (s.instanceUrl ++ other) =
      if other = cursor then some (.ok page.toJson.toText)
      else s.followUps.find? (s.instanceUrl ++ other) := by
  rw [onFollowUpPage, onFollowUp, FieldMap.find?_insert]
  simp only [String.append_right_inj]

/-- Keeping pages changes nothing but what is under cursors. -/
theorem exists_keep (s : Script) (pages : List (String × Page)) :
    ∃ followUps, s.keep pages = { s with followUps } := by
  induction pages generalizing s with
  | nil => exact ⟨s.followUps, rfl⟩
  | cons link rest ih =>
    obtain ⟨followUps, hkeep⟩ := ih (s.onFollowUpPage link.1 link.2)
    exact ⟨followUps, hkeep⟩

theorem instanceUrl_keep (s : Script) (pages : List (String × Page)) :
    (s.keep pages).instanceUrl = s.instanceUrl := by
  obtain ⟨followUps, hkeep⟩ := s.exists_keep pages
  rw [hkeep]

/-- What is under other cursors stays. -/
theorem find?_keep {pages : List (String × Page)} {cursor : String}
    (h : ∀ link ∈ pages, link.1 ≠ cursor) (s : Script) :
    (s.keep pages).followUps.find? (s.instanceUrl ++ cursor) =
      s.followUps.find? (s.instanceUrl ++ cursor) := by
  induction pages generalizing s with
  | nil => rfl
  | cons link rest ih =>
    have hrest := ih (fun other hother => h other (List.mem_cons_of_mem _ hother))
      (s.onFollowUpPage link.1 link.2)
    refine hrest.trans ((find?_onFollowUpPage s link.1 link.2 cursor).trans ?_)
    rw [if_neg (h link List.mem_cons_self).symm]

theorem serves_keep_links (s : Script) (chain index : Nat) (pages : List (List Row)) :
    (s.keep (links chain index pages)).Serves (links chain index pages) := by
  induction pages generalizing s index with
  | nil => exact fun link hlink => nomatch hlink
  | cons rows more ih =>
    rw [links]
    intro link hlink
    obtain rfl | hlink := List.mem_cons.1 hlink
    · -- The pages after this one have later cursors.
      have hlater : ∀ link ∈ links chain (index + 1) more, link.1 ≠ cursor chain index := by
        intro link hlink heq
        obtain ⟨i, hi, hcursor⟩ := exists_cursor_of_mem_links hlink
        have hindex := (cursor_injective (hcursor.symm.trans heq)).2
        omega
      rw [instanceUrl_keep]
      refine (find?_keep hlater (s.onFollowUpPage (cursor chain index) _)).trans ?_
      exact (find?_onFollowUpPage s _ _ _).trans (if_pos rfl)
    · exact ih (s.onFollowUpPage (cursor chain index) (pageAt chain index rows more)) (index + 1)
        link hlink

/-- A registration serves its pages under the cursors of a new chain. -/
theorem serves_respond (s : Script) (needle : String) (pages : List (List Row)) :
    (s.respond needle pages).Serves (links (s.chains + 1) 1 pages.tail) := by
  rw [respond_eq]
  exact serves_keep_links _ _ _ _

/-- The pages of earlier chains stay where they are. -/
theorem Serves.respond {s : Script} {chain : Nat} {pages : List (List Row)}
    (h : s.Serves (links chain 1 pages)) (hchain : chain ≤ s.chains) (needle : String)
    (others : List (List Row)) : (s.respond needle others).Serves (links chain 1 pages) := by
  intro link hlink
  obtain ⟨i, -, hcursor⟩ := exists_cursor_of_mem_links hlink
  have hother : ∀ other ∈ links (s.chains + 1) 1 others.tail, other.1 ≠ link.1 := by
    intro other hmem heq
    obtain ⟨j, -, hcursor'⟩ := exists_cursor_of_mem_links hmem
    have hchains := (cursor_injective (hcursor'.symm.trans (heq.trans hcursor))).1
    omega
  rw [respond_eq]
  change ((Script.keep _ _).followUps.find? ((Script.keep _ _).instanceUrl ++ link.1)) = _
  rw [instanceUrl_keep]
  exact (find?_keep hother { s with chains := s.chains + 1 }).trans (h link hlink)

/-- A registration adds one route behind the others, for one more chain. -/
theorem exists_respond (s : Script) (needle : String) (pages : List (List Row)) :
    ∃ followUps, s.respond needle pages =
      ⟨s.instanceUrl, s.routes ++ [(needle, .page (opening (s.chains + 1) pages))], followUps,
        s.chains + 1⟩ := by
  obtain ⟨followUps, hkeep⟩ := exists_keep { s with chains := s.chains + 1 }
    (links (s.chains + 1) 1 pages.tail)
  refine ⟨followUps, ?_⟩
  rw [respond_eq, hkeep]
  rfl

theorem instanceUrl_respond (s : Script) (needle : String) (pages : List (List Row)) :
    (s.respond needle pages).instanceUrl = s.instanceUrl := by
  obtain ⟨followUps, hrespond⟩ := s.exists_respond needle pages
  rw [hrespond]

theorem chains_respond (s : Script) (needle : String) (pages : List (List Row)) :
    (s.respond needle pages).chains = s.chains + 1 := by
  obtain ⟨followUps, hrespond⟩ := s.exists_respond needle pages
  rw [hrespond]

theorem routes_respond (s : Script) (needle : String) (pages : List (List Row)) :
    (s.respond needle pages).routes =
      s.routes ++ [(needle, .page (opening (s.chains + 1) pages))] := by
  obtain ⟨followUps, hrespond⟩ := s.exists_respond needle pages
  rw [hrespond]

def respondAll (s : Script) (registrations : List (String × List (List Row))) : Script :=
  registrations.foldl (fun s (needle, pages) => s.respond needle pages) s

section RespondAll

/-- Registrations come after those before them. -/
theorem respondAll_append (s : Script) (before after : List (String × List (List Row)))
    (needle : String) (pages : List (List Row)) :
    s.respondAll (before ++ (needle, pages) :: after) =
      ((s.respondAll before).respond needle pages).respondAll after := by
  rw [respondAll, List.foldl_append]
  rfl

variable {registrations : List (String × List (List Row))}

theorem instanceUrl_respondAll (s : Script) :
    (s.respondAll registrations).instanceUrl = s.instanceUrl := by
  induction registrations generalizing s with
  | nil => rfl
  | cons r rest ih => exact (ih (s.respond r.1 r.2)).trans (instanceUrl_respond s r.1 r.2)

theorem chains_respondAll (s : Script) :
    (s.respondAll registrations).chains = s.chains + registrations.length := by
  induction registrations generalizing s with
  | nil => rfl
  | cons r rest ih =>
    refine (ih (s.respond r.1 r.2)).trans ?_
    rw [chains_respond, List.length_cons]
    omega

/-- The pages of a chain stay where they are, whatever is registered later. -/
theorem Serves.respondAll {s : Script} {chain : Nat} {pages : List (List Row)}
    (h : s.Serves (links chain 1 pages)) (hchain : chain ≤ s.chains) :
    (s.respondAll registrations).Serves (links chain 1 pages) := by
  induction registrations generalizing s with
  | nil => exact h
  | cons r rest ih =>
    refine ih (h.respond hchain r.1 r.2) ?_
    rw [chains_respond]
    omega

variable {text : String}

/-- A route that answers a query goes on answering it. -/
theorem answer_respondAll_of_some {s : Script} {route : String × Answer}
    (h : s.routes.find? (fun route => Text.contains text route.1) = some route) :
    (s.respondAll registrations).routes.find? (fun route => Text.contains text route.1) =
      some route := by
  induction registrations generalizing s with
  | nil => exact h
  | cons r rest ih =>
    refine ih ?_
    rw [routes_respond, List.find?_append, h]
    rfl

/-- Routes that do not fit a query leave it without an answer. -/
theorem answer_respondAll_of_none {s : Script}
    (h : s.routes.find? (fun route => Text.contains text route.1) = none)
    (hunfit : ∀ r ∈ registrations, Text.contains text r.1 = false) :
    (s.respondAll registrations).routes.find? (fun route => Text.contains text route.1) = none := by
  induction registrations generalizing s with
  | nil => exact h
  | cons r rest ih =>
    refine ih ?_ fun other hother => hunfit other (List.mem_cons_of_mem _ hother)
    rw [routes_respond, List.find?_append, h, List.find?_singleton, hunfit r List.mem_cons_self]
    rfl

end RespondAll

variable {σ : Type} {store : Store Unit σ} {s : Script} {chain : Nat}

/-- The pages of a chain from an index on, with the addresses they are fetched from. -/
def followed (chain index : Nat) (pages : List (List Row)) : List (String × Page) :=
  (links chain index pages).map fun link => (defaultUrl ++ link.1, link.2)

theorem records_pageAt (chain index : Nat) (rows : List Row) (more : List (List Row)) :
    (pageAt chain index rows more).records = rows := by
  cases more <;> rfl

/-- Cursors lead from a page of a chain through the pages after it. -/
theorem chain_links (hstore : store.transport = s.transport) (hurl : s.instanceUrl = defaultUrl)
    {index : Nat} {rows : List Row} {more : List (List Row)} {page : Page}
    (hdone : page.done = (pageAt chain index rows more).done)
    (hnext : page.next = (pageAt chain index rows more).next)
    (hserves : s.Serves (links chain (index + 1) more))
    (hread : ∀ page ∈ chained chain (index + 1) more, page.ReadsBack) :
    PageStream.Chain store page () (followed chain (index + 1) more) () := by
  induction more generalizing index rows page with
  | nil => exact .nil page ()
  | cons rows' more ih =>
    obtain ⟨hfound, hrest⟩ := List.forall_mem_cons.1 hserves
    rw [chained_cons, List.forall_mem_cons] at hread
    rw [hurl] at hfound
    have haddress := address_cursor chain (index + 1)
    have hasked : store.transport.request "GET" (defaultUrl ++ cursor chain (index + 1)) () =
        (.ok (.ok (pageAt chain (index + 1) rows' more).toJson.toText), ()) := by
      rw [hstore]
      simp only [transport, respondTo, hfound]
    have hlocated : PageStream.address store.transport.instanceUrl (cursor chain (index + 1)) =
        .ok (defaultUrl ++ cursor chain (index + 1)) := by
      rw [hstore, ← haddress, ← hurl]
      rfl
    exact .cons hdone hnext hlocated hasked hread.1 (ih rfl rfl hrest hread.2)

/-- The rows of a chain are those of all its pages, and the last of them says so. -/
theorem rowsOf_followed (chain : Nat) {index : Nat} {rows : List Row} (more : List (List Row))
    {page : Page} (hdone : page.done = (pageAt chain index rows more).done) :
    PageStream.rowsOf page (followed chain (index + 1) more) = page.records ++ more.flatten ∧
      (PageStream.endOf page (followed chain (index + 1) more)).done = true ∧
        (followed chain (index + 1) more).length = more.length := by
  induction more generalizing index rows page with
  | nil => exact ⟨rfl, hdone, rfl⟩
  | cons rows' more ih =>
    have hnext : (pageAt chain (index + 1) rows' more).done = _ := rfl
    obtain ⟨hrows, hend, hlength⟩ := ih hnext
    rw [records_pageAt] at hrows
    refine ⟨?_, hend, congrArg Nat.succ hlength⟩
    rw [List.flatten_cons, ← hrows]
    rfl

def asStore (s : Script) (schemas : SchemaSource σ) (settings : Settings) (catalog : Catalog) :
    Store Unit σ := ⟨s.transport, schemas, settings, catalog⟩

variable {before : List (String × List (List Row))} {needle text : String} {pages : List (List Row)}

/-- A query is answered by the first route that fits it. -/
theorem answer_registered (hbefore : ∀ r ∈ before, Text.contains text r.1 = false)
    (hneedle : Text.contains text needle = true) (after : List (String × List (List Row))) :
    ((empty defaultUrl).respondAll (before ++ (needle, pages) :: after)).answer text =
      .ok (opening (before.length + 1) pages) := by
  have hnone : ((empty defaultUrl).respondAll before).routes.find?
      (fun route => Text.contains text route.1) = none := answer_respondAll_of_none rfl hbefore
  have hsome : (((empty defaultUrl).respondAll before).respond needle pages).routes.find?
      (fun route => Text.contains text route.1) =
        some (needle, .page (opening (before.length + 1) pages)) := by
    rw [routes_respond, List.find?_append, hnone, List.find?_singleton, hneedle, chains_respondAll,
      empty, Nat.zero_add]
    rfl
  rw [respondAll_append, answer, answer_respondAll_of_some hsome]

/-- The pages of a chain are where they were put, whatever was registered before and after it. -/
theorem serves_registered (before after : List (String × List (List Row))) (needle : String)
    (pages : List (List Row)) :
    ((empty defaultUrl).respondAll (before ++ (needle, pages) :: after)).Serves
      (links (before.length + 1) 1 pages.tail) := by
  have hchains : ((empty defaultUrl).respondAll before).chains = before.length := by
    rw [chains_respondAll, empty, Nat.zero_add]
  have hserves := serves_respond ((empty defaultUrl).respondAll before) needle pages
  rw [hchains] at hserves
  rw [respondAll_append]
  refine hserves.respondAll ?_
  rw [chains_respond, hchains]

/-- What a script answers is a chain of pages with the rows of the registration. -/
theorem exists_answers (hbefore : ∀ r ∈ before, Text.contains text r.1 = false)
    (hneedle : Text.contains text needle = true)
    (hread : ∀ page ∈ chained (before.length + 1) 1 pages.tail, page.ReadsBack)
    (after : List (String × List (List Row))) (endpoint : Endpoint) {store : Store Unit σ}
    (hstore : store.transport =
      ((empty defaultUrl).respondAll (before ++ (needle, pages) :: after)).transport) :
    ∃ first links, PageStream.Answers store endpoint text () first links () ∧
      (PageStream.endOf first links).done = true ∧
      PageStream.rowsOf first links = pages.flatten ∧ links.length + 1 = max 1 pages.length ∧
      first.total = some (UInt64.ofNat pages.flatten.length) := by
  have hserves := serves_registered before after needle pages
  have hquery : store.transport.query endpoint text () =
      (.ok (opening (before.length + 1) pages), ()) := by
    rw [hstore, ← answer_registered hbefore hneedle after]
    rfl
  refine ⟨opening (before.length + 1) pages, followed (before.length + 1) 1 pages.tail, ?_⟩
  cases pages with
  | nil => exact ⟨⟨(), hquery, .nil _ _⟩, rfl, rfl, rfl, rfl⟩
  | cons rows more =>
    have hdone : (opening (before.length + 1) (rows :: more)).done =
        (pageAt (before.length + 1) 0 rows more).done := rfl
    obtain ⟨hrows, hend, hlength⟩ := rowsOf_followed (before.length + 1) more hdone
    have hrecords : (opening (before.length + 1) (rows :: more)).records = rows :=
      records_pageAt _ 0 rows more
    rw [hrecords] at hrows
    rw [Nat.zero_add] at hlength
    have hcount : (followed (before.length + 1) 1 more).length + 1 = max 1 (rows :: more).length := by
      rw [hlength, List.length_cons]
      omega
    have hchain := chain_links hstore (instanceUrl_respondAll _) hdone rfl hserves hread
    exact ⟨⟨(), hquery, hchain⟩, hend, hrows, hcount, rfl⟩

/-- A script of any chains answers a query with the chain of the first route that fits it: the pages
that are read are those of this route and no others, with one call for each, or one call if there
are none, and the first of them reports how many rows there are altogether. -/
theorem drain_registered (before after : List (String × List (List Row))) (needle text : String)
    (pages : List (List Row)) (hbefore : ∀ r ∈ before, Text.contains text r.1 = false)
    (hneedle : Text.contains text needle = true)
    (hread : ∀ page ∈ chained (before.length + 1) 1 pages.tail, page.ReadsBack)
    {maxPages : Nat} (hlimit : pages.length ≤ maxPages) (endpoint : Endpoint)
    (schemas : SchemaSource σ) (settings : Settings) (catalog : Catalog)
    (s : Session (Unit × List Call) σ) :
    let script := (empty defaultUrl).respondAll (before ++ (needle, pages) :: after)
    let store := (script.asStore schemas settings catalog).recorded
    (∃ first, first.total = some (UInt64.ofNat pages.flatten.length) ∧
      ((PageStream.opened store endpoint text maxPages).run.run s).1 =
        .ok ⟨some first, none, 1, maxPages⟩) ∧
    ((PageStream.drain store endpoint text maxPages).run.run s).1 = .ok pages.flatten ∧
    ∃ made, ((PageStream.drain store endpoint text maxPages).run.run s).2.transport.2 =
      s.transport.2 ++ made ∧ made.length = max 1 pages.length := by
  intro script store
  obtain ⟨⟨⟨⟩, calls⟩, state, log⟩ := s
  obtain ⟨first, links, hanswers, hdone, hrows, hcount, htotal⟩ :=
    exists_answers hbefore hneedle hread after endpoint
      (show (script.asStore schemas settings catalog).transport = _ from rfl)
  have hfits : links.length + 1 ≤ max 1 maxPages := by omega
  obtain ⟨log', hdrained⟩ := PageStream.run_drain_of_done hanswers hdone hfits calls state log
  obtain ⟨_, hquery, -⟩ := hanswers
  have hopened := PageStream.run_recorded_opened hquery maxPages calls state log
  refine ⟨⟨first, htotal, congrArg Prod.fst hopened⟩, ?_, PageStream.callsOf endpoint text links,
    congrArg (fun run => run.2.transport.2) hdrained, ?_⟩
  · rw [← hrows]
    exact congrArg Prod.fst hdrained
  · rw [← hcount, PageStream.callsOf, List.length_cons, List.length_map]

/-- A query that the second of three chains is for gets both of its pages. -/
theorem second_chain_drained :
    let script := (empty defaultUrl).respondAll [("FROM Contact", [[], [], []]),
      ("FROM Account", [[[("Id", .text "001")]], [[("Id", .text "002")]]]), ("FROM", [[]])]
    let schemas : SchemaSource Unit := ⟨fun object u => pure (.ok ⟨object, []⟩, u)⟩
    let store := (script.asStore schemas .default ⟨[]⟩).recorded
    let run := (PageStream.drain store .query "SELECT Id FROM Account" 2).run.run ⟨((), []), (), []⟩
    run.1 = .ok [[("Id", .text "001")], [("Id", .text "002")]] ∧ run.2.transport.2.length = 2 := by
  have hrow : [Json.Document.object [(some "Id", .text (some "002"))]].mapM
      (Json.Document.row? (Json.maxDepth - 2)) = some [[("Id", .text "002")]] := by
    simp [Json.Document.row?, Json.Document.members?, Json.Document.memberList?,
      Json.Document.json?, Json.maxDepth, Fields.ofList, Fields.insert]
  have hone : (⟨1, by decide⟩ : WireInt).val = 1 := rfl
  have hsecond : (Page.last [[("Id", .text "002")]]).ReadsBack :=
    Page.readsBack_last (by with_unfolding_all rfl) hrow hone
  have hread : ∀ page ∈ chained 2 1 [[[("Id", .text "002")]]], page.ReadsBack :=
    List.forall_mem_singleton.2 hsecond
  intro script schemas store run
  obtain ⟨-, hrows, made, hmade, hcount⟩ := drain_registered [("FROM Contact", [[], [], []])]
    [("FROM", [[]])] "FROM Account" "SELECT Id FROM Account"
    [[[("Id", .text "001")]], [[("Id", .text "002")]]] (by decide) (by decide) hread
    (Nat.le_refl 2) .query schemas .default ⟨[]⟩ ⟨((), []), (), []⟩
  exact ⟨hrows, (congrArg List.length hmade).trans hcount⟩

end RecordQuery.Script
