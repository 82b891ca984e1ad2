import RecordQuery.Proofs.Loading.Alone
import RecordQuery.Proofs.Query.Normal
import RecordQuery.Proofs.Query.Unsent
import RecordQuery.Proofs.Text.Digits

namespace RecordQuery

variable {τ σ : Type} {store : Store τ σ}

section Counts

variable {α : Type} {rows : List α}

theorem take_min_of_lt {most : Nat} (h : rows.length ≤ most) (n : Nat) :
    rows.take (min n most) = rows.take n := by
  rw [List.take_eq_take_iff]
  omega

theorem drop_min_of_le {most : Nat} (h : rows.length ≤ most) (n : Nat) :
    rows.drop (min n most) = rows.drop n := by
  rcases Nat.le_total n most with hn | hn
  · rw [Nat.min_eq_left hn]
  · rw [Nat.min_eq_right hn, List.drop_of_length_le h, List.drop_of_length_le (h.trans hn)]

/-- What is read for a page: with the offset and the limit held at a count that the rows do not
reach, it is the rows of the page and the one after them. -/
theorem items_of_page {most : Nat} (h : rows.length ≤ most) (n perPage : Nat) :
    (rows.drop (min (n * perPage) most)).take (min (perPage + 1) most) =
      (rows.drop (n * perPage)).take (perPage + 1) := by
  have hrest : (rows.drop (n * perPage)).length ≤ most := by
    rw [List.length_drop]
    omega
  rw [drop_min_of_le h, take_min_of_lt hrest]

theorem take_items (n perPage : Nat) :
    ((rows.drop (n * perPage)).take (perPage + 1)).take perPage =
      (rows.take ((n + 1) * perPage)).drop (n * perPage) := by
  have hrest : (n + 1) * perPage - n * perPage = perPage := by
    rw [Nat.add_mul, Nat.one_mul, Nat.add_sub_cancel_left]
  rw [List.take_take, Nat.min_eq_left (Nat.le_succ perPage), List.drop_take, hrest]

/-- A row more than the page has is read exactly if the rows go on. -/
theorem lt_length_items (n perPage : Nat) :
    perPage < ((rows.drop (n * perPage)).take (perPage + 1)).length ↔
      (n + 1) * perPage < rows.length := by
  rw [List.length_take, List.length_drop, Nat.add_mul, Nat.one_mul]
  omega

end Counts

/-- In every state the store answers a query that ends in a limit and an offset with so many of the
rows after the first ones, in pages within the limit of pages. -/
def Store.Serves (store : Store τ σ) (rows : List Row) : Prop :=
  ∀ endpoint lead n m t, n ≤ maxCount → m ≤ maxCount →
    ∃ first links t',
      PageStream.Answers store endpoint
        (lead ++ " LIMIT " ++ toString n ++ " OFFSET " ++ toString m) t first links t' ∧
      (PageStream.endOf first links).done = true ∧
      links.length + 1 ≤ max 1 store.settings.maxPages.toNat ∧
      PageStream.rowsOf first links = (rows.drop m).take n

namespace Query

variable {q : Query}

theorem segment_singleton (lead between text : String) :
    segment lead between [text] = lead ++ text := rfl

/-- A query with a limit and an offset ends in them. -/
theorem exists_lead {n m : Nat} (hn : q.statement.limit = some n) (hm : q.statement.offset = some m)
    {text : String} (h : q.text.value = .ok text) :
    ∃ lead, text = lead ++ " LIMIT " ++ toString n ++ " OFFSET " ++ toString m := by
  obtain ⟨-, htext⟩ := value_text_eq_ok.1 h
  obtain ⟨names, conditions, -, -, rfl⟩ := Select.exists_parts htext
  simp only [hn, hm, Segments.text, Option.map_some, Option.toList_some, segment_singleton]
  exact ⟨_, by rw [← String.append_assoc, ← String.append_assoc]⟩

/-- A limit and an offset do not change whether a query can be written. -/
theorem unwritable_page (q : Query) (n m : Nat) :
    ((q.offset m).limit n).unwritable = q.unwritable := by
  refine Select.faults_text_congr ?_ _ _
  rw [Select.walk_eq, Select.walk_eq]
  rfl

/-- Queries with the same mistakes are written both or neither. -/
theorem exists_text_congr {q' : Query} (hfault : q'.fault = q.fault)
    (hstatement : q'.unwritable = q.unwritable) (h : ∃ text, q.text.value = .ok text) :
    ∃ text, q'.text.value = .ok text := by
  cases h' : q'.text.value with
  | ok text => exact ⟨text, rfl⟩
  | error fault =>
    obtain ⟨text, htext⟩ := h
    have hfailed := value_text_congr hfault.symm hstatement.symm h'
    rw [htext] at hfailed
    exact nomatch hfailed

end Query

namespace Finder

variable {f : Finder} {schema : Schema} {rows : List Row}

/-- The finder whose records are those of a page and the next one after them. -/
def reading (f : Finder) (perPage page : Nat) : Finder :=
  f.mapQuery fun q => (q.offset (min ((page - 1) * perPage) maxCount)).limit
    (min (perPage + 1) maxCount)

/-- A run of one page is a run for its records. -/
theorem run_paginate {perPage page : Nat} {s s' : Session τ σ} {records : List Record}
    (h : ((f.reading perPage (max page 1)).get store).run.run s = (.ok records, s')) :
    (f.paginate store perPage page).run.run s =
      (.ok ⟨records.take perPage, max page 1, perPage, perPage < records.length⟩, s') := by
  rw [paginate]
  exact Task.run_bind_ok h _

theorem unsent_paginate {perPage page : Nat} {s : Session τ σ}
    (h : Unsent s (((f.reading perPage (max page 1)).get store).run.run s)) :
    Unsent s ((f.paginate store perPage page).run.run s) :=
  h.bind _

/-- Preparing a query for a page keeps its limit and its offset. -/
theorem statement_preparedBy (f : Finder) (schema : Schema) :
    (f.preparedBy schema).statement.limit = f.query.statement.limit ∧
      (f.preparedBy schema).statement.offset = f.query.statement.offset := by
  unfold preparedBy
  dsimp only
  split
  · exact ⟨rfl, rfl⟩
  · exact ⟨rfl, rfl⟩

/-- A query that can be written can be written once it is prepared. -/
theorem exists_text_preparedBy (schema : Schema) (h : ∃ text, f.query.text.value = .ok text) :
    ∃ text, (f.preparedBy schema).text.value = .ok text := by
  have hwith : ∃ text, (f.query.withSchema schema).text.value = .ok text :=
    Query.exists_text_congr (q := f.query) rfl (Select.faults_text_congr rfl _ _) h
  unfold preparedBy
  dsimp only
  split
  · rename_i hselect
    have hfields := List.isEmpty_iff.1 (Bool.and_eq_true_iff.1 hselect).1
    exact Query.exists_text_congr (q := f.query.withSchema schema) rfl
      (Query.unwritable_select hfields schema.fieldNames) hwith
  · exact hwith

/-- The records of a query for a page against a store that serves rows. -/
theorem exists_run_reading (hserves : store.Serves rows) (hlen : rows.length < maxCount)
    (hplan : f.plan = .empty) (htext : ∃ text, f.query.text.value = .ok text) (perPage n : Nat)
    {s : Session τ σ} (hd : (store.schemas.describe f.type.object s.schemas).value.1 = .ok schema) :
    ∃ s', ((f.reading perPage (n + 1)).get store).run.run s =
      (.ok (((rows.drop (n * perPage)).take (perPage + 1)).map (Record.hydrate schema)), s') := by
  let g := f.reading perPage (n + 1)
  let most := min (perPage + 1) maxCount
  let skipped := min (n * perPage) maxCount
  obtain ⟨hlimit, hoffset⟩ := statement_preparedBy g schema
  have hwritten : ∃ text, g.query.text.value = .ok text :=
    Query.exists_text_congr (q := f.query) rfl (Query.unwritable_page f.query _ _) htext
  obtain ⟨text, hq⟩ := exists_text_preparedBy schema hwritten
  have hmost : (g.preparedBy schema).statement.limit = some most := hlimit
  have hskipped : (g.preparedBy schema).statement.offset = some skipped := by
    rw [hoffset, show skipped = min ((n + 1 - 1) * perPage) maxCount by rw [Nat.add_sub_cancel]]
    rfl
  obtain ⟨lead, rfl⟩ := Query.exists_lead hmost hskipped hq
  obtain ⟨s₁, hprepared, -⟩ := exists_run_prepared (f := g) store s hd
  obtain ⟨first, links, t', hanswers, hdone, hpages, hrows⟩ :=
    hserves ((g.preparedBy schema).endpoint store.settings) lead most skipped s₁.transport
      (Nat.min_le_right _ _) (Nat.min_le_right _ _)
  obtain ⟨s₂, hrun⟩ := Query.run_of_answers hq hanswers hdone hpages
  rw [hrows, items_of_page hlen.le] at hrun
  refine ⟨s₂, run_get_of_bare (f := g) hplan ?_⟩
  rw [bare, Task.run_bind_ok hprepared]
  dsimp only
  rw [Task.run_bind_ok hrun]
  rfl

/-- A finder that gets no schema, or whose query cannot be written, is not sent. -/
theorem unsent_reading (perPage page : Nat) {s : Session τ σ} {fault : Fault}
    (h : f.query.text.value = .error fault ∨
      (store.schemas.describe f.type.object s.schemas).value.1 = .error fault) :
    Unsent s (((f.reading perPage page).get store).run.run s) := by
  rcases h with h | h
  · have hunwritten : (f.reading perPage page).query.text.value = .error fault :=
      Query.value_text_congr (q := f.query) rfl (Query.unwritable_page f.query _ _) h
    exact unsent_get hunwritten s
  · obtain ⟨s', hprepared, hsame⟩ := exists_run_prepared (f := f.reading perPage page) store s h
    have hprepare : Unsent s (((f.reading perPage page).prepared store).run.run s) := by
      rw [hprepared]
      exact ⟨⟨fault, rfl⟩, hsame⟩
    exact (hprepare.bind _).bind _

/-- Reading the pages from a page on, up to the first that no other follows, comes to these
records. -/
inductive ReadsFrom (store : Store τ σ) (f : Finder) (perPage : Nat) :
    Nat → Session τ σ → List Record → Session τ σ → Prop
  | last {page : Nat} {s s' : Session τ σ} {p : ListPage Record}
      (read : (f.paginate store perPage page).run.run s = (.ok p, s')) (done : p.hasMore = false) :
      ReadsFrom store f perPage page s p.items s'
  | more {page : Nat} {s s' s'' : Session τ σ} {p : ListPage Record} {rest : List Record}
      (read : (f.paginate store perPage page).run.run s = (.ok p, s')) (more : p.hasMore = true)
      (others : ReadsFrom store f perPage (page + 1) s' rest s'') :
      ReadsFrom store f perPage page s (p.items ++ rest) s''

/-- The page of rows and the rows after it. -/
theorem page_append_rest (n perPage : Nat) :
    ((rows.take ((n + 1) * perPage)).drop (n * perPage)) ++ rows.drop ((n + 1) * perPage) =
      rows.drop (n * perPage) := by
  have hnext : (n + 1) * perPage = n * perPage + perPage := by rw [Nat.add_mul, Nat.one_mul]
  rw [hnext, List.drop_take, Nat.add_sub_cancel_left, ← List.drop_drop, List.take_append_drop]

/-- Pages that are as many rows come to all of them, as a page that another follows has rows. -/
theorem exists_readsFrom {perPage : Nat} (hpos : 0 < perPage)
    (hpage : ∀ n (s : Session τ σ), ∃ s', (f.paginate store perPage (n + 1)).run.run s =
      (.ok ⟨((rows.take ((n + 1) * perPage)).drop (n * perPage)).map (Record.hydrate schema), n + 1,
        perPage, (n + 1) * perPage < rows.length⟩, s')) (n : Nat) (s : Session τ σ) :
    ∃ s', f.ReadsFrom store perPage (n + 1) s
      ((rows.drop (n * perPage)).map (Record.hydrate schema)) s' := by
  -- On the rows that are left.
  induction hleft : rows.length - n * perPage using Nat.strongRecOn generalizing n s with
  | ind left ih =>
    obtain ⟨s', hread⟩ := hpage n s
    rw [← page_append_rest, List.map_append]
    by_cases hmore : (n + 1) * perPage < rows.length
    · have hfewer : rows.length - (n + 1) * perPage < left := by
        have hnext : (n + 1) * perPage = n * perPage + perPage := by rw [Nat.add_mul, Nat.one_mul]
        omega
      obtain ⟨s'', hrest⟩ := ih _ hfewer (n + 1) s' rfl
      exact ⟨s'', .more hread (decide_eq_true hmore) hrest⟩
    · have hnone : rows.drop ((n + 1) * perPage) = [] := List.drop_of_length_le (by omega)
      rw [hnone, List.map_nil, List.append_nil]
      exact ⟨s', .last hread (decide_eq_false hmore)⟩

/-- Against a store that serves fewer rows than the largest count, a page has the records of the
rows that exact arithmetic says, and another page follows exactly if there are more rows; a query
that cannot be written, or gets no schema, is not sent. If pages have room for a record, the pages
from the first up to one that no other follows have the records of all rows. -/
theorem paginate_exact (hserves : store.Serves rows) (hlen : rows.length < maxCount)
    (hplan : f.plan = .empty) :
    (∀ (perPage page : Nat) (s : Session τ σ),
      let p := max page 1
      (∀ text schema, f.query.text.value = .ok text →
        (store.schemas.describe f.type.object s.schemas).value.1 = .ok schema →
        ∃ s', (f.paginate store perPage page).run.run s =
          (.ok ⟨((rows.take (p * perPage)).drop ((p - 1) * perPage)).map (Record.hydrate schema), p,
            perPage, p * perPage < rows.length⟩, s')) ∧
      ∀ fault, (f.query.text.value = .error fault ∨
          (store.schemas.describe f.type.object s.schemas).value.1 = .error fault) →
        Unsent s ((f.paginate store perPage page).run.run s)) ∧
    ∀ (perPage : Nat) text schema, 0 < perPage → f.query.text.value = .ok text →
      (∀ state, (store.schemas.describe f.type.object state).value.1 = .ok schema) →
      ∀ s : Session τ σ,
        ∃ s', f.ReadsFrom store perPage 1 s (rows.map (Record.hydrate schema)) s' := by
  have hpage {perPage page n : Nat} (hn : max page 1 = n + 1) (s : Session τ σ) {text : String}
      {schema : Schema} (htext : f.query.text.value = .ok text)
      (hd : (store.schemas.describe f.type.object s.schemas).value.1 = .ok schema) :
      ∃ s', (f.paginate store perPage page).run.run s =
        (.ok ⟨((rows.take ((n + 1) * perPage)).drop (n * perPage)).map (Record.hydrate schema),
          n + 1, perPage, (n + 1) * perPage < rows.length⟩, s') := by
    obtain ⟨s', hget⟩ := exists_run_reading hserves hlen hplan ⟨text, htext⟩ perPage n hd
    refine ⟨s', ?_⟩
    rw [← hn] at hget
    rw [run_paginate hget, hn, ← List.map_take, take_items]
    simp only [List.length_map, lt_length_items]
  refine ⟨fun perPage page s => ⟨fun text schema htext hd => ?_, fun fault h => ?_⟩, ?_⟩
  · obtain ⟨n, hn⟩ : ∃ n, max page 1 = n + 1 := ⟨max page 1 - 1, by omega⟩
    rw [hn, Nat.add_sub_cancel]
    exact hpage hn s htext hd
  · exact unsent_paginate (unsent_reading perPage _ h)
  · intro perPage text schema hpos htext hd s
    have hfirst (n : Nat) : max (n + 1) 1 = n + 1 := by omega
    have hall := exists_readsFrom hpos (fun n s => hpage (hfirst n) s htext (hd s.schemas)) 0 s
    simpa using hall

end Finder

/-- The numbers at the end of a text, the first before the last word but one. -/
def lastCounts? (cs : List Char) : Option (Nat × Nat) :=
  match (Text.pieces ' ' cs).reverse with
  | m :: _ :: n :: _ => some (Text.decimal n, Text.decimal m)
  | _ => none

/-- The store that holds these rows of every object, each with its key, and answers on one page. -/
def Store.serving (rows : List Row) : Store Unit Unit where
  transport := {
    instanceUrl := ""
    query := fun _ text u =>
      match lastCounts? text.toList with
      | some (n, m) => (.ok (.last ((rows.drop m).take n)), u)
      | none => (.error (.transport "no extent"), u)
    request := fun _ _ u => (.error (.transport "refused"), u) }
  schemas := ⟨fun object u => pure (.ok ⟨object, [("Id", .text)]⟩, u)⟩
  settings := .default
  catalog := ⟨[]⟩

theorem Text.pieces_toString (n : Nat) :
    pieces ' ' (toString n).toList = [(toString n).toList] := by
  refine pieces_of_not_mem fun hspace => ?_
  have hdigit := Over.digits_toString n ' ' hspace
  exact absurd hdigit (by decide)

theorem lastCounts?_extent (lead : String) (n m : Nat) :
    lastCounts? (lead ++ " LIMIT " ++ toString n ++ " OFFSET " ++ toString m).toList =
      some (n, m) := by
  have hlist : (lead ++ " LIMIT " ++ toString n ++ " OFFSET " ++ toString m).toList =
      lead.toList ++ ' ' :: ("LIMIT".toList ++ ' ' :: ((toString n).toList ++ ' ' ::
        ("OFFSET".toList ++ ' ' :: (toString m).toList))) := by
    simp
  have hlimit : Text.pieces ' ' "LIMIT".toList = ["LIMIT".toList] := rfl
  have hoffset : Text.pieces ' ' "OFFSET".toList = ["OFFSET".toList] := rfl
  have hpieces : Text.pieces ' ' (lead ++ " LIMIT " ++ toString n ++ " OFFSET " ++
      toString m).toList = Text.pieces ' ' lead.toList ++
        ["LIMIT".toList, (toString n).toList, "OFFSET".toList, (toString m).toList] := by
    rw [hlist]
    simp only [Text.pieces_append_sep, Text.pieces_toString, hlimit, hoffset, List.singleton_append]
  rw [lastCounts?, hpieces, List.reverse_append]
  change some (Text.decimal (toString n).toList, Text.decimal (toString m).toList) = some (n, m)
  rw [Text.decimal_toString, Text.decimal_toString]

theorem Store.serves_serving (rows : List Row) : (Store.serving rows).Serves rows := by
  intro endpoint lead n m t _ _
  have hquery : (Store.serving rows).transport.query endpoint
      (lead ++ " LIMIT " ++ toString n ++ " OFFSET " ++ toString m) t =
        (.ok (.last ((rows.drop m).take n)), t) := by
    simp only [Store.serving, lastCounts?_extent]
  refine ⟨_, [], t, ⟨t, hquery, .nil _ _⟩, rfl, Nat.le_max_left _ _, ?_⟩
  simp [PageStream.rowsOf, Page.last]

/-- Three accounts, two on a page. -/
theorem paginate_three :
    let row (id : String) : Row := [("Id", .text id)]
    let rows := [row "001", row "002", row "003"]
    let schema : Schema := ⟨"Account", [("Id", .text)]⟩
    let f := Finder.all .default ⟨"Account", "Id", []⟩
    (Store.serving rows).Serves rows ∧ rows.length < maxCount ∧ f.plan = .empty ∧
    f.query.text.value = .ok "SELECT Id FROM Account" ∧
    ∀ s : Session Unit Unit,
      (∃ s', (f.paginate (.serving rows) 2 2).run.run s =
        (.ok ⟨[Record.hydrate schema (row "003")], 2, 2, false⟩, s')) ∧
      ∃ s', f.ReadsFrom (.serving rows) 2 1 s (rows.map (Record.hydrate schema)) s' := by
  intro row rows schema f
  have hserves := Store.serves_serving rows
  have hlen : rows.length < maxCount := by decide
  have htext : f.query.text.value = .ok "SELECT Id FROM Account" := rfl
  obtain ⟨hpage, hall⟩ := Finder.paginate_exact hserves hlen (f := f) rfl
  refine ⟨hserves, hlen, rfl, htext, fun s => ⟨?_, ?_⟩⟩
  · exact (hpage 2 2 s).1 _ schema htext rfl
  · exact hall 2 _ schema (by decide) htext (fun _ => rfl) s

end RecordQuery
