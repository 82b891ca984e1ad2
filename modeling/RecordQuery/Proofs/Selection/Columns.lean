import RecordQuery.Proofs.Loading.Table
import RecordQuery.Proofs.Query.Unsent
import RecordQuery.Proofs.Selection.Widened

namespace RecordQuery

open Text

variable {τ σ : Type} {store : Store τ σ}

/-- The text of a query for these names; the tail says everything else. -/
def selectText (names : List String) (tail : String) : String :=
  "SELECT " ++ ", ".intercalate names ++ " FROM " ++ tail

/-- The text of a query after what it selects. -/
def Select.tail (d : Dialect) (s : Select) : Except Fault String := do
  let conditions ← Clause.texts d s.clauses
  return s.object ++ segment " WHERE " " AND " conditions ++
    segment " ORDER BY " ", " (s.orders.map Order.text) ++
    segment " LIMIT " "" (s.limit.map toString).toList ++
    segment " OFFSET " "" (s.offset.map toString).toList

/-- A query for no names is for the default ones. -/
theorem Select.text_fields (d : Dialect) (names : List String) (s : Select) :
    Select.text d { s with fields := names.map .field } =
      (s.tail d).map (selectText (if names.isEmpty then d.defaultFields else names)) := by
  have hempty : (names.map Selected.field).isEmpty = names.isEmpty := List.isEmpty_map
  rw [Select.text, Selected.texts_fields, Select.tail]
  cases Clause.texts d s.clauses with
  | error fault => rfl
  | ok conditions =>
    simp [hempty, bind, Except.bind, pure, Except.pure, Except.map, selectText,
      String.append_assoc]

theorem Select.text_names (d : Dialect) {names : List String} (hnames : names ≠ []) (s : Select) :
    Select.text d { s with fields := names.map .field } = (s.tail d).map (selectText names) := by
  rw [text_fields, if_neg (by simpa using hnames)]

def Row.only (names : List String) (row : Row) : Row := row.filter fun e => names.contains e.1

theorem Row.find?_only (names : List String) (row : Row) (name : String) :
    Fields.find? (row.only names) name =
      if name ∈ names then Fields.find? row name else none := by
  rw [only, Fields.find?_filter names.contains]
  simp only [List.contains_iff_mem]

namespace Record

/-- A record that has of another one the fields under some names. -/
structure Narrows (names : List String) (narrow wide : Record) : Prop where
  object : narrow.object = wide.object
  attributes : ∀ field, narrow.get? field = if field ∈ names then wide.get? field else none

theorem get?_hydrate_only (schema : Schema) (names : List String) (row : Row) (field : String) :
    (hydrate schema (row.only names)).get? field =
      if field ∈ names then (hydrate schema row).get? field else none := by
  have hother (e : String × FieldKind) (he : e.1 ≠ field) (j? : Option Json) :
      Option.filter (fun e => e.1 == field) (j?.map fun j => (e.1, e.2.value j)) = none := by
    cases j? <;> simp [Option.filter, he]
  simp only [get?, hydrate, ofAttributes, FieldMap.find?_ofList_eq_getLast?,
    List.filter_filterMap, Row.find?_only]
  -- Entries for other fields do not show under this one; an entry for it was read or was not.
  by_cases hfield : field ∈ names
  · rw [if_pos hfield]
    congr 3
    funext e
    by_cases he : e.1 = field
    · rw [he, if_pos hfield]
    · rw [hother e he, hother e he]
  · rw [if_neg hfield, Option.map_eq_none_iff, List.getLast?_eq_none_iff, List.filterMap_eq_nil_iff]
    intro e _
    by_cases he : e.1 = field
    · rw [he, if_neg hfield]
      rfl
    · exact hother e he _

theorem narrows_hydrate_only (schema : Schema) {names : List String}
    (hnames : ∀ n ∈ names, n ∈ schema.fieldNames) (row : Row) :
    Narrows names (hydrate schema (row.only names))
      (hydrate schema (row.only schema.fieldNames)) where
  object := rfl
  attributes field := by
    rw [get?_hydrate_only, get?_hydrate_only]
    by_cases hfield : field ∈ names
    · rw [if_pos hfield, if_pos hfield, if_pos (hnames field hfield)]
    · rw [if_neg hfield, if_neg hfield]

end Record

/-- What is known of the fields of an object: there are some, they have names, and no two names
differ in the case of letters alone. -/
structure Schema.Sound (schema : Schema) : Prop where
  nonempty : schema.fieldNames ≠ []
  names : ∀ n ∈ schema.fieldNames, IsName n
  apart : ∀ m ∈ schema.fieldNames, ∀ n ∈ schema.fieldNames, sameLetters m n → m = n

instance (schema : Schema) : Decidable schema.Sound :=
  decidable_of_iff (schema.fieldNames ≠ [] ∧ (∀ n ∈ schema.fieldNames, IsName n) ∧
    ∀ m ∈ schema.fieldNames, ∀ n ∈ schema.fieldNames, sameLetters m n → m = n)
    ⟨fun h => ⟨h.1, h.2.1, h.2.2⟩, fun h => ⟨h.nonempty, h.names, h.apart⟩⟩

def Selected.name? : Selected → Option String
  | .field name => some name
  | .select _ => none

namespace Query

/-- The columns that a query asks for once the schema is known. -/
def columns (q : Query) (schema : Schema) : List String :=
  if q.statement.fields.isEmpty then schema.fieldNames
  else q.statement.fields.filterMap Selected.name?

/-- Nothing but declared fields is selected. -/
def SelectsPlain (q : Query) (schema : Schema) : Prop :=
  ∀ s ∈ q.statement.fields, ∃ n ∈ schema.fieldNames, s = .field n

variable {q : Query} {schema : Schema}

theorem SelectsPlain.congr {q' : Query} (h : q.SelectsPlain schema) (hsame : SelectsAs q q') :
    q'.SelectsPlain schema := by
  unfold SelectsPlain
  rw [hsame.fields]
  exact h

theorem SelectsAs.columns_eq {q' : Query} (h : SelectsAs q q') (schema : Schema) :
    q'.columns schema = q.columns schema := by
  rw [columns, columns, h.fields]

theorem selectsPlain_of_nil (schema : Schema) (h : q.statement.fields = []) :
    q.SelectsPlain schema := by
  unfold SelectsPlain
  rw [h]
  exact fun _ h => nomatch h

theorem mem_columns_of_field {name : String} (h : .field name ∈ q.statement.fields) :
    name ∈ q.columns schema := by
  rw [columns, if_neg (mt List.isEmpty_iff.1 (List.ne_nil_of_mem h))]
  exact List.mem_filterMap.2 ⟨_, h, rfl⟩

namespace SelectsPlain

theorem mem_columns (h : q.SelectsPlain schema) {n : String} (hn : n ∈ q.columns schema) :
    n ∈ schema.fieldNames := by
  unfold columns at hn
  split at hn
  · exact hn
  · obtain ⟨s, hs, hname⟩ := List.mem_filterMap.1 hn
    obtain ⟨m, hm, rfl⟩ := h s hs
    rwa [← Option.some.inj hname]

theorem map_columns (h : q.SelectsPlain schema) (hne : q.statement.fields ≠ []) :
    (q.columns schema).map .field = q.statement.fields := by
  rw [columns, if_neg (mt List.isEmpty_iff.1 hne), List.map_filterMap]
  refine (List.filterMap_congr fun s hs => ?_).trans List.filterMap_some
  obtain ⟨n, -, rfl⟩ := h s hs
  rfl

theorem select_columns (h : q.SelectsPlain schema) (hne : q.statement.fields ≠ []) :
    q.select (q.columns schema) = q := by
  have hfields := h.map_columns hne
  obtain ⟨d, ⟨fields, object, clauses, orders, limit, offset⟩, fault⟩ := q
  rw [select, hfields]

theorem columns_ne_nil (h : q.SelectsPlain schema) (hsound : schema.Sound) :
    q.columns schema ≠ [] := by
  by_cases hfields : q.statement.fields = []
  · rw [columns, if_pos (List.isEmpty_iff.2 hfields)]
    exact hsound.nonempty
  · intro hnone
    rw [← h.map_columns hfields, hnone] at hfields
    exact hfields rfl

/-- A declared field is selected once it is selected in any case. -/
theorem ensureSelected (h : q.SelectsPlain schema) {name : String}
    (hname : name ∈ schema.fieldNames) : (q.ensureSelected name).SelectsPlain schema := by
  unfold Query.ensureSelected
  split
  · exact h
  · intro s hs
    rcases List.mem_append.1 hs with hs | hs
    · exact h s hs
    · exact ⟨name, hname, List.mem_singleton.1 hs⟩

theorem mem_columns_ensureSelected (h : q.SelectsPlain schema) (hsound : schema.Sound)
    {name : String} (hname : name ∈ schema.fieldNames) :
    name ∈ (q.ensureSelected name).columns schema := by
  unfold Query.ensureSelected
  split
  · rename_i hcovers
    unfold covers at hcovers
    rcases Bool.or_eq_true_iff.1 hcovers with hnone | hsome
    · rwa [columns, if_pos hnone]
    · obtain ⟨s, hs, hsame⟩ := List.any_eq_true.1 hsome
      obtain ⟨n, hn, rfl⟩ := h s hs
      obtain rfl := hsound.apart n hn name hname hsame
      exact mem_columns_of_field hs
  · exact mem_columns_of_field (List.mem_append_right _ (List.mem_singleton_self _))

end SelectsPlain

end Query

theorem Finder.preparedBy_eq {f : Finder} {schema : Schema} (h : f.query.SelectsPlain schema)
    (hsound : schema.Sound) :
    f.preparedBy schema = (f.query.withSchema schema).select (f.query.columns schema) := by
  have hdeclares : schema.fields.isEmpty = false := by
    simpa [Schema.fieldNames] using hsound.nonempty
  unfold preparedBy
  by_cases hfields : f.query.statement.fields = []
  · have hnone : (f.query.withSchema schema).statement.fields.isEmpty = true :=
      List.isEmpty_iff.2 hfields
    simp only [hnone, hdeclares, Bool.not_false, Bool.and_self, if_true]
    rw [Query.columns, if_pos (List.isEmpty_iff.2 hfields)]
  · have hsome : (f.query.withSchema schema).statement.fields.isEmpty = false := by
      simpa [Query.withSchema] using hfields
    simp only [hsome, Bool.false_and, Bool.false_eq_true, if_false]
    exact (Query.SelectsPlain.select_columns (q := f.query.withSchema schema) h hfields).symm

/-- A store that describes its objects and answers a query with columns of rows, within the limit of
pages: the tail of the text decides on the rows, and the selection on the columns. -/
structure Store.Selects (store : Store τ σ) (schema : String → Schema)
    (rows : Endpoint → String → List Row) : Prop where
  described : ∀ object state, (store.schemas.describe object state).value.1 = .ok (schema object)
  sound : ∀ object, (schema object).Sound
  answers : ∀ object endpoint names tail, names ≠ [] → (∀ n ∈ names, IsName n) →
    store.Yields endpoint (selectText names tail) (names ++ (schema object).fieldNames)
      ((rows endpoint tail).map (Row.only names))

namespace Store.Selects

variable {schema : String → Schema} {rows : Endpoint → String → List Row}

/-- A query that can be written finds the columns that it selects. -/
theorem run_select (h : store.Selects schema rows) (object : String) {q : Query}
    {names : List String} (hne : names ≠ []) (hnames : ∀ n ∈ names, IsName n)
    (hfault : q.fault = none) {tail : String} (htail : q.statement.tail q.dialect = .ok tail)
    (s : Session τ σ) :
    ∃ got s', ((q.select names).run store).run.run s = (.ok got, s') ∧
      List.Forall₂ (Row.AgreeOn (names ++ (schema object).fieldNames)) got
        ((rows (q.endpoint store.settings) tail).map (Row.only names)) := by
  have htext : (q.select names).text.value = .ok (selectText names tail) := by
    have hpending : (q.select names).fault = none := hfault
    rw [Query.value_text, hpending]
    dsimp only
    rw [Query.select, Select.text_names q.dialect hne, htail]
    rfl
  exact Query.run_of_yields htext (h.answers object _ names tail hne hnames) s

/-- A query that was run could be written. -/
theorem exists_tail {q : Query} {names : List String} (hne : names ≠ []) {got : List Row}
    {s s' : Session τ σ} (hrun : ((q.select names).run store).run.run s = (.ok got, s')) :
    q.fault = none ∧ ∃ tail, q.statement.tail q.dialect = .ok tail := by
  have hok : ∀ fault, (q.select names).text.value ≠ .error fault := by
    intro fault htext
    have hunsent : Unsent s (((q.select names).run store).run.run s) := Query.unsent_run htext s
    obtain ⟨cause, hfailed⟩ := hunsent.failed
    rw [hrun] at hfailed
    exact nomatch hfailed
  rw [Query.value_text] at hok
  cases hfault : (q.select names).fault with
  | some fault =>
    rw [hfault] at hok
    exact absurd rfl (hok fault)
  | none =>
    rw [hfault] at hok
    dsimp only at hok
    rw [Query.select, Select.text_names q.dialect hne] at hok
    refine ⟨hfault, ?_⟩
    cases htail : q.statement.tail q.dialect with
    | ok tail => exact ⟨tail, rfl⟩
    | error fault =>
      rw [htail] at hok
      exact absurd rfl (hok fault)

/-- The records of the columns that a finder selects. -/
theorem run_bare (h : store.Selects schema rows) {f : Finder}
    (hplain : f.query.SelectsPlain (schema f.type.object)) (hfault : f.query.fault = none)
    {tail : String} (htail : f.query.statement.tail
      (f.query.withSchema (schema f.type.object)).dialect = .ok tail) (s : Session τ σ) :
    ∃ s', (f.bare store).run.run s = (.ok ((rows (f.query.endpoint store.settings) tail).map
      fun row => Record.hydrate (schema f.type.object)
        (row.only (f.query.columns (schema f.type.object)))), s') := by
  let known := schema f.type.object
  have hsound : known.Sound := h.sound f.type.object
  obtain ⟨s₁, hprepared, -⟩ := Finder.exists_run_prepared store s
    (h.described f.type.object s.schemas)
  obtain ⟨got, s₂, hrun, hagree⟩ := h.run_select f.type.object (q := f.query.withSchema known)
    (hplain.columns_ne_nil hsound) (fun n hn => hsound.names n (hplain.mem_columns hn)) hfault
    htail s₁
  refine ⟨s₂, ?_⟩
  have hrecords := Record.map_hydrate_congr (hagree.imp fun _ _ hrow name hname =>
    hrow name (List.mem_append_right _ hname))
  rw [Finder.bare, Task.run_bind_ok hprepared]
  dsimp only
  rw [Finder.preparedBy_eq hplain hsound, Task.run_bind_ok hrun, hrecords, List.map_map]
  rfl

/-- A finder that came to records could be written. -/
theorem exists_of_run_bare (h : store.Selects schema rows) {f : Finder}
    (hplain : f.query.SelectsPlain (schema f.type.object)) {records : List Record}
    {s s' : Session τ σ} (hbare : (f.bare store).run.run s = (.ok records, s')) :
    f.query.fault = none ∧ ∃ tail,
      f.query.statement.tail (f.query.withSchema (schema f.type.object)).dialect = .ok tail := by
  obtain ⟨s₁, hprepared, -⟩ := Finder.exists_run_prepared store s
    (h.described f.type.object s.schemas)
  rw [Finder.bare, Task.run_bind_ok hprepared] at hbare
  dsimp only at hbare
  obtain ⟨got, s₂, hrun, -⟩ := Task.exists_of_run_bind hbare
  rw [Finder.preparedBy_eq hplain (h.sound _)] at hrun
  exact exists_tail (hplain.columns_ne_nil (h.sound _)) hrun

/-- A finder that selects nothing finds the rows that a finder finds that differs from it in what it
selects, with all of their columns. -/
theorem exists_bare_widened (h : store.Selects schema rows) {f wide : Finder}
    (htype : wide.type = f.type) (hwidens : Query.Widens f.query wide.query)
    (hplain : f.query.SelectsPlain (schema f.type.object)) {narrowed : List Record}
    {s s' : Session τ σ} (hnarrow : (f.bare store).run.run s = (.ok narrowed, s')) :
    ∃ full, (∀ u : Session τ σ, ∃ u', (wide.bare store).run.run u = (.ok full, u')) ∧
      List.Forall₂ (Record.Narrows (f.query.columns (schema f.type.object))) narrowed full := by
  obtain ⟨hfault, tail, htail⟩ := h.exists_of_run_bare hplain hnarrow
  obtain ⟨_, hrun⟩ := h.run_bare hplain hfault htail s
  obtain rfl := Except.ok.inj (congrArg Prod.fst (hnarrow.symm.trans hrun))
  have hfields : wide.query.statement.fields = [] := by rw [hwidens.statement]
  have htail' : wide.query.statement.tail
      (wide.query.withSchema (schema f.type.object)).dialect = .ok tail := by
    rw [hwidens.statement, (hwidens.withSchema _).dialect]
    exact htail
  have hcolumns : wide.query.columns (schema wide.type.object) =
      (schema f.type.object).fieldNames := by
    rw [htype, Query.columns, hfields]
    rfl
  refine ⟨_, h.run_bare (f := wide) (Query.selectsPlain_of_nil _ hfields)
    (hwidens.fault hfault) (by rwa [htype]), ?_⟩
  have hendpoint : wide.query.endpoint store.settings = f.query.endpoint store.settings := by
    rw [Query.endpoint, Query.asksForArchive, hwidens.statement]
    rfl
  rw [hcolumns, hendpoint, htype, List.forall₂_map_left_iff, List.forall₂_map_right_iff,
    List.forall₂_same]
  exact fun row _ => Record.narrows_hydrate_only _ (fun _ => hplain.mem_columns) row

/-- A query that was run is run in any session, and finds the same under the names that it
selects. -/
theorem exists_run_again (h : store.Selects schema rows) {q : Query} {names : List String}
    (hne : names ≠ []) (hnames : ∀ n ∈ names, IsName n) {got : List Row} {s s' : Session τ σ}
    (hrun : ((q.select names).run store).run.run s = (.ok got, s')) (u : Session τ σ) :
    ∃ got' u', ((q.select names).run store).run.run u = (.ok got', u') ∧
      List.Forall₂ (Row.AgreeOn names) got got' := by
  obtain ⟨hfault, tail, htail⟩ := exists_tail hne hrun
  obtain ⟨_, _, hfixed, hagree⟩ := h.run_select "" hne hnames hfault htail s
  obtain ⟨got', u', hfixed', hagree'⟩ := h.run_select "" hne hnames hfault htail u
  obtain rfl := Except.ok.inj (congrArg Prod.fst (hrun.symm.trans hfixed))
  refine ⟨got', u', hfixed', forall₂_comp (fun a b c hab hcb name hname => ?_) hagree
    hagree'.flip⟩
  have hmem := List.mem_append_left (schema "").fieldNames hname
  exact (hab name hmem).trans (hcb name hmem).symm

end Store.Selects

/-- What a text selects, and its tail. -/
def selectionOf (text : String) : List String × String :=
  let (names, rest) := readItems ((pieces ' ' text.toList).drop 1)
  (names.map String.ofList, String.ofList (spaced (rest.drop 1)))

theorem selectionOf_selectText {names : List String} (hnames : ∀ n ∈ names, IsName n)
    (tail : String) :
    selectionOf (selectText names tail) = (names, tail) := by
  let ws := names.map String.toList
  have hends : ∀ w ∈ ws, w ≠ [] ∧ w.getLast? ≠ some ',' := by
    intro w hw
    obtain ⟨n, hn, rfl⟩ := List.mem_map.1 hw
    have hname := hnames n hn
    refine ⟨by simpa using hname.nonempty, fun hlast => ?_⟩
    exact (hname.plain ',' (List.mem_of_getLast? hlast)).2.2 rfl
  have hspaceless : ∀ w ∈ "SELECT".toList :: listed ws ++ ["FROM".toList], ' ' ∉ w := by
    have hwords : ∀ w ∈ ws, ' ' ∉ w := by
      intro w hw hspace
      obtain ⟨n, hn, rfl⟩ := List.mem_map.1 hw
      exact nomatch ((hnames n hn).plain ' ' hspace).2.1
    have hlisted := forall_listed (P := (' ' ∉ ·)) (List.not_mem_nil)
      (fun w hw => by simpa using hw) hwords
    intro w hw
    rcases List.mem_append.1 hw with hw | hw
    · rcases List.mem_cons.1 hw with rfl | hw
      · decide
      · exact hlisted w hw
    · obtain rfl := List.mem_singleton.1 hw
      decide
  have htext : (selectText names tail).toList =
      spaced ("SELECT".toList :: listed ws ++ ["FROM".toList]) ++ ' ' :: tail.toList := by
    rw [spaced_append (List.cons_ne_nil _ _) (List.cons_ne_nil _ _),
      spaced_cons _ (listed_ne_nil _), spaced_listed, spaced_singleton]
    simp [selectText, ws]
  unfold selectionOf
  rw [htext, pieces_spaced_append hspaceless (by simp), List.cons_append, List.cons_append,
    List.drop_one, List.tail_cons, List.append_assoc, readItems_listed hends]
  simp [ws, spaced_pieces]

namespace Store

/-- A store that describes its objects, reads what the queries select, and answers with these
columns of the rows that the tail decides on. -/
def ofColumns (schema : String → Schema) (catalog : Catalog)
    (rows : Endpoint → String → List Row) : Store Unit Unit where
  transport := {
    instanceUrl := ""
    query := fun endpoint text u =>
      let (names, tail) := selectionOf text
      (.ok (.last ((rows endpoint tail).map (Row.only names))), u)
    request := fun _ _ u => (.error (.transport "refused"), u) }
  schemas := ⟨fun object u => pure (.ok (schema object), u)⟩
  settings := .default
  catalog := catalog

theorem selects_ofColumns {schema : String → Schema} (hsound : ∀ object, (schema object).Sound)
    (catalog : Catalog) (rows : Endpoint → String → List Row) :
    (ofColumns schema catalog rows).Selects schema rows where
  described _ _ := rfl
  sound := hsound
  answers object endpoint names tail _ hnames := by
    refine yields_last (fun u => ?_) _
    change (Except.ok (Page.last ((rows endpoint (selectionOf (selectText names tail)).2).map
      (Row.only (selectionOf (selectText names tail)).1))) : Except Fault Page) = _
    rw [selectionOf_selectText hnames]

end Store

end RecordQuery
