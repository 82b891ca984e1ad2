import RecordQuery.Proofs.Loading.Junction
import RecordQuery.Proofs.Pages.Yield
import RecordQuery.Proofs.Query.Mistakes
import RecordQuery.Proofs.Record.Typed
import RecordQuery.Proofs.Text.Words

namespace RecordQuery

variable {τ σ : Type} {store : Store τ σ}

def Row.has (name : String) (texts : List String) (row : Row) : Bool :=
  match Fields.find? row name with
  | some (.text s) => texts.contains s
  | _ => false

theorem Row.has_iff {name : String} {texts : List String} {row : Row} :
    Row.has name texts row ↔ ∃ s ∈ texts, Fields.find? row name = some (.text s) := by
  unfold Row.has
  split
  · rename_i s hs
    simp [hs]
  · rename_i hnot
    simp only [Bool.false_eq_true, false_iff, not_exists, not_and]
    exact fun s _ hs => hnot s hs

@[simp] theorem Row.has_nil (name : String) (row : Row) : Row.has name [] row = false := by
  unfold Row.has
  split <;> rfl

def Schema.queryText (schema : Schema) (object condition : String) : String :=
  "SELECT " ++ ", ".intercalate schema.fieldNames ++ " FROM " ++ object ++ " WHERE " ++ condition

def Settings.endpointOf (settings : Settings) (field : String) : Endpoint :=
  if settings.isArchiveMarker field then .queryAll else .query

/-- A store that describes an object and holds rows of it. The field that rows are looked up by is
declared as a text. The store keeps the rows that have a text there, or one of several, in their
order; of these it keeps the first if it is asked for one. -/
structure Store.Holds (store : Store τ σ) (schema : Schema) (object field : String)
    (rows : List Row) : Prop where
  described : ∀ state, (store.schemas.describe object state).value.1 = .ok schema
  declared : field ∈ schema.fieldNames
  textual : ∀ kind, (field, kind) ∈ schema.fields → kind = .text
  equal : ∀ s, store.Yields (store.settings.endpointOf field)
    (schema.queryText object (field ++ " = " ++ quotedLiteral s)) schema.fieldNames
    (rows.filter (Row.has field [s]))
  first : ∀ s, store.Yields (store.settings.endpointOf field)
    (schema.queryText object (field ++ " = " ++ quotedLiteral s ++ " LIMIT 1")) schema.fieldNames
    ((rows.filter (Row.has field [s])).take 1)
  among : ∀ texts, texts ≠ [] → store.Yields (store.settings.endpointOf field)
    (schema.queryText object
      (field ++ " IN (" ++ ", ".intercalate (texts.map quotedLiteral) ++ ")"))
    schema.fieldNames (rows.filter (Row.has field texts))

/-- Some records as what a relation to one or to many leads to. -/
def Related.ofList {ρ : Type} (toOne : Bool) (records : List ρ) : Related ρ :=
  if toOne then .one records.head? else .many records

/-- The rows with the key of a parent, as records. -/
def Relation.joined (r : Relation) (schema : Schema) (rows : List Row) (parent : Record) :
    Related Record :=
  .ofList r.linkage.isToOne <|
    match parent.key r.linkage.parentKey with
    | none => []
    | some key => (rows.filter (Row.has r.linkage.relatedKey [key])).map (Record.hydrate schema)

/-- Whether the related records are found without a junction. -/
def Linkage.isDirect : Linkage → Bool
  | .manyToMany .. => false
  | _ => true

theorem Linkage.not_isDirect {junction toParent toRelated parentKey relatedKey : String}
    {l : Linkage} (hl : l = .manyToMany junction toParent toRelated parentKey relatedKey) :
    ¬l.isDirect := by
  rw [hl]
  exact Bool.false_ne_true

def Record.TextOrNull (p : Record) (field : String) : Prop :=
  p.value field = .null ∨ ∃ s, p.value field = .text s

theorem Record.TextOrNull.value_eq {p : Record} {field key : String} (h : p.TextOrNull field)
    (hkey : p.key field = some key) : p.value field = .text key := by
  unfold Record.key at hkey
  obtain hnull | ⟨s, hs⟩ := h
  · rw [hnull] at hkey
    exact nomatch hkey
  · rw [hs] at hkey ⊢
    exact congrArg Value.text (Option.some.inj hkey)

theorem Record.TextOrNull.value_eq_null {p : Record} {field : String} (h : p.TextOrNull field)
    (hkey : p.key field = none) : p.value field = .null := by
  unfold Record.key at hkey
  obtain hnull | ⟨s, hs⟩ := h
  · exact hnull
  · rw [hs] at hkey
    exact nomatch hkey

theorem Record.hydrate_congr {schema : Schema} {row row' : Row}
    (h : Row.AgreeOn schema.fieldNames row row') : hydrate schema row = hydrate schema row' := by
  unfold hydrate
  congr 1
  refine List.filterMap_congr fun e he => ?_
  obtain ⟨name, kind⟩ := e
  dsimp only
  rw [h name (List.mem_map.2 ⟨(name, kind), he, rfl⟩)]

theorem Record.map_hydrate_congr {schema : Schema} {rows rows' : List Row}
    (h : List.Forall₂ (Row.AgreeOn schema.fieldNames) rows rows') :
    rows.map (hydrate schema) = rows'.map (hydrate schema) :=
  map_eq_of_forall₂ (fun _ _ => hydrate_congr) h

theorem Select.text_one {d : Dialect} {names : List String} (hnames : names ≠ []) (object : String)
    {c : Clause} {condition : String} (hc : Clause.text? d c = .ok (some condition))
    (limit : Option Nat) :
    Select.text d ⟨names.map .field, object, [c], [], limit, none⟩ =
      .ok ("SELECT " ++ ", ".intercalate names ++ " FROM " ++ object ++ " WHERE " ++
        (condition ++ segment " LIMIT " "" (limit.map toString).toList)) := by
  have hsome : (names.map Selected.field).isEmpty = false := by simpa using hnames
  rw [Select.text, Selected.texts_fields, Clause.texts, hc, Clause.texts]
  simp [hsome, bind, Except.bind, pure, Except.pure, segment, String.append_assoc]

/-- A query for an object with one condition. -/
def Settings.asking (settings : Settings) (object : String) (c : Clause) (limit : Option Nat) :
    Query :=
  ⟨settings.dialect, ⟨[], object, [c], [], limit, none⟩, none⟩

namespace Store.Holds

variable {schema : Schema} {object field : String} {rows : List Row}

theorem typed (h : store.Holds schema object field rows) : schema.Typed field .text := by
  obtain ⟨⟨name, kind⟩, hfield, hname⟩ := List.mem_map.1 h.declared
  obtain rfl : name = field := hname
  obtain rfl := h.textual kind hfield
  exact ⟨hfield, h.textual⟩

/-- The record of a row has the text of the row as its key. -/
theorem key_hydrate (h : store.Holds schema object field rows) {row : Row} {s : String}
    (hs : Fields.find? row field = some (.text s)) :
    (Record.hydrate schema row).key field = some s := by
  have hfind : (Record.hydrate schema row).get? field = some (.text s) := h.typed.get?_hydrate hs
  rw [Record.key, Record.value, hfind]
  rfl

/-- The records with a key among those of some texts are the records of the rows with that key. -/
theorem filter_hydrate (h : store.Holds schema object field rows) {texts : List String}
    {key : String} (hkey : key ∈ texts) :
    ((rows.filter (Row.has field texts)).map (Record.hydrate schema)).filter
        (fun r => r.key field == some key) =
      (rows.filter (Row.has field [key])).map (Record.hydrate schema) := by
  rw [List.filter_map, List.filter_filter]
  congr 1
  refine List.filter_congr fun row _ => Bool.eq_iff_iff.2 ?_
  rw [Bool.and_eq_true, Row.has_iff, Row.has_iff]
  constructor
  · rintro ⟨hrow, s, -, hs⟩
    have hs' : (some s : Option String) = some key := by
      simpa [h.key_hydrate hs] using hrow
    obtain rfl := Option.some.inj hs'
    exact ⟨s, List.mem_cons_self, hs⟩
  · rintro ⟨s, hmem, hs⟩
    obtain rfl := List.mem_singleton.1 hmem
    exact ⟨by simp [h.key_hydrate hs], s, hkey, hs⟩

theorem literal_text (h : store.Holds schema object field rows) (names : List String) (s : String) :
    Dialect.literal ⟨some schema, names⟩ field (.text s) = quotedLiteral s := by
  have hnone : Dialect.typedLiteral? s .text = none := rfl
  simp only [Dialect.literal, Value.text?, h.typed.kind?, Option.bind_eq_bind, Option.bind_some, hnone,
    Option.getD_none, Value.literal]

theorem literalList_texts (h : store.Holds schema object field rows) (names texts : List String) :
    Dialect.literalList ⟨some schema, names⟩ field (texts.map .text) =
      "(" ++ ", ".intercalate (texts.map quotedLiteral) ++ ")" := by
  unfold Dialect.literalList
  rw [List.map_map]
  congr 3
  exact List.map_congr_left fun s _ => h.literal_text names s

theorem run_prepared (h : store.Holds schema object field rows) {f : Finder}
    (htype : f.type.object = object) (hfields : f.query.statement.fields = []) (s : Session τ σ) :
    ∃ s', (f.prepared store).run.run s =
      (.ok (schema, (f.query.withSchema schema).select schema.fieldNames), s') := by
  have hschema : ∃ s', (store.schema f.type.object).run.run s = (.ok schema, s') := by
    rw [htype]
    exact ⟨_, Prod.ext (h.described s.schemas) rfl⟩
  obtain ⟨s', hschema⟩ := hschema
  have hnonempty : schema.fields ≠ [] := by
    intro hnil
    have hdeclared := h.declared
    simp [Schema.fieldNames, hnil] at hdeclared
  have hselect : ((f.query.withSchema schema).statement.fields.isEmpty &&
      !schema.fields.isEmpty) = true := by
    simp [Query.withSchema, hfields, hnonempty]
  refine ⟨s', ?_⟩
  rw [Finder.prepared, Task.run_bind_ok hschema]
  dsimp only
  rw [if_pos hselect]
  rfl

/-- The records of a query are those of the rows that the store answers it with. -/
theorem run_bare (h : store.Holds schema object field rows) {f : Finder}
    (htype : f.type.object = object) {c : Clause} {limit : Option Nat}
    (hquery : f.query = store.settings.asking object c limit) (hfield : c.field? = some field)
    {condition : String}
    (hc : Clause.text? ⟨some schema, store.settings.defaultFields⟩ c = .ok (some condition))
    {expected : List Row}
    (hyields : store.Yields (store.settings.endpointOf field)
      (schema.queryText object (condition ++ segment " LIMIT " "" (limit.map toString).toList))
      schema.fieldNames expected) (s : Session τ σ) :
    ∃ s', (f.bare store).run.run s = (.ok (expected.map (Record.hydrate schema)), s') := by
  obtain ⟨s₁, hprepared⟩ := h.run_prepared htype (by rw [hquery]; rfl) s
  let q := (f.query.withSchema schema).select schema.fieldNames
  have hnames : schema.fieldNames ≠ [] := List.ne_nil_of_mem h.declared
  have htext : q.text.value = .ok (schema.queryText object
      (condition ++ segment " LIMIT " "" (limit.map toString).toList)) := by
    rw [Query.value_text]
    simp only [q, hquery]
    exact Select.text_one hnames object hc limit
  have hendpoint : q.endpoint store.settings = store.settings.endpointOf field := by
    simp [q, hquery, Query.endpoint, Query.asksForArchive, Settings.asking, Query.withSchema,
      Query.select, hfield, Settings.endpointOf]
  rw [← hendpoint] at hyields
  obtain ⟨got, s₂, hrun, hagree⟩ := Query.run_of_yields htext hyields s₁
  refine ⟨s₂, ?_⟩
  have hrecords : got.map (Record.hydrate schema) = expected.map (Record.hydrate schema) :=
    Record.map_hydrate_congr hagree
  rw [Finder.bare, Task.run_bind_ok hprepared]
  dsimp only
  rw [Task.run_bind_ok hrun, hrecords]
  rfl

theorem segment_limit_none :
    segment " LIMIT " "" ((none : Option Nat).map toString).toList = "" := rfl

/-- The rows with one of some texts are found by one query. -/
theorem run_among (h : store.Holds schema object field rows) {f : Finder}
    (htype : f.type.object = object) {texts : List String} (hne : texts ≠ [])
    (hquery : f.query = store.settings.asking object (.isIn field (texts.map .text)) none)
    (s : Session τ σ) :
    ∃ s', (f.bare store).run.run s =
      (.ok ((rows.filter (Row.has field texts)).map (Record.hydrate schema)), s') := by
  have hcondition : field ++ " IN " ++ ("(" ++ ", ".intercalate (texts.map quotedLiteral) ++ ")") =
      field ++ " IN (" ++ ", ".intercalate (texts.map quotedLiteral) ++ ")" :=
    String.toList_inj.1 (by simp)
  have htext : Clause.text? ⟨some schema, store.settings.defaultFields⟩
      (.isIn field (texts.map .text)) =
        .ok (some (field ++ " IN (" ++ ", ".intercalate (texts.map quotedLiteral) ++ ")")) := by
    rw [Clause.text?, if_neg (by simpa using hne), h.literalList_texts, hcondition]
  refine h.run_bare htype hquery rfl htext ?_ s
  rw [segment_limit_none, String.append_empty]
  exact h.among texts hne

theorem text_equal (h : store.Holds schema object field rows) (key : String) :
    Clause.text? ⟨some schema, store.settings.defaultFields⟩ (.compare field .eq (.text key)) =
      .ok (some (field ++ " = " ++ quotedLiteral key)) := by
  have hcondition : field ++ " " ++ Operator.eq.text ++ " " ++ quotedLiteral key =
      field ++ " = " ++ quotedLiteral key := String.toList_inj.1 (by simp [Operator.text])
  rw [Clause.text?, if_neg (by decide), h.literal_text, hcondition]

theorem run_equal (h : store.Holds schema object field rows) {f : Finder}
    (htype : f.type.object = object) {key : String}
    (hquery : f.query = store.settings.asking object (.compare field .eq (.text key)) none)
    (s : Session τ σ) :
    ∃ s', (f.bare store).run.run s =
      (.ok ((rows.filter (Row.has field [key])).map (Record.hydrate schema)), s') := by
  refine h.run_bare htype hquery rfl (h.text_equal key) ?_ s
  rw [segment_limit_none, String.append_empty]
  exact h.equal key

theorem run_first (h : store.Holds schema object field rows) {f : Finder}
    (htype : f.type.object = object) {key : String}
    (hquery : f.query = store.settings.asking object (.compare field .eq (.text key)) (some 1))
    (s : Session τ σ) :
    ∃ s', (f.bare store).run.run s =
      (.ok (((rows.filter (Row.has field [key])).take 1).map (Record.hydrate schema)), s') :=
  h.run_bare htype hquery rfl (h.text_equal key) (h.first key) s

end Store.Holds

theorem exists_texts_of_go : ∀ {values : List Value}, (∀ v ∈ values, v = .null ∨ ∃ s, v = .text s) →
    ∀ seen : List String, ∃ texts : List String, distinctKeys.go seen values = texts.map .text ∧
      ∀ s, .text s ∈ values → s ∈ seen ∨ s ∈ texts
  | [], _, _ => ⟨[], rfl, fun _ hs => nomatch hs⟩
  | v :: values, h, seen => by
    have hrest : ∀ v ∈ values, v = .null ∨ ∃ s, v = .text s :=
      fun v hv => h v (List.mem_cons_of_mem _ hv)
    obtain rfl | ⟨s, rfl⟩ := h v List.mem_cons_self
    · obtain ⟨texts, heq, hmem⟩ := exists_texts_of_go hrest seen
      refine ⟨texts, heq, fun s hs => hmem s ?_⟩
      exact (List.mem_cons.1 hs).resolve_left fun hnull => nomatch hnull
    · rw [distinctKeys.go]
      simp only [Value.joinKey, Value.toText]
      by_cases hseen : s ∈ seen
      · obtain ⟨texts, heq, hmem⟩ := exists_texts_of_go hrest seen
        refine ⟨texts, ?_, fun s' hs' => ?_⟩
        · rw [if_pos (List.contains_iff_mem.2 hseen), heq]
        · obtain hs' | hs' := List.mem_cons.1 hs'
          · obtain rfl := Value.text.inj hs'
            exact .inl hseen
          · exact hmem s' hs'
      · obtain ⟨texts, heq, hmem⟩ := exists_texts_of_go hrest (s :: seen)
        refine ⟨s :: texts, ?_, fun s' hs' => ?_⟩
        · rw [if_neg (mt List.contains_iff_mem.1 hseen), heq, List.map_cons]
        · obtain hs' | hs' := List.mem_cons.1 hs'
          · obtain rfl := Value.text.inj hs'
            exact .inr List.mem_cons_self
          · obtain hs' | hs' := hmem s' hs'
            · obtain rfl | hs' := List.mem_cons.1 hs'
              · exact .inr List.mem_cons_self
              · exact .inl hs'
            · exact .inr (List.mem_cons_of_mem _ hs')

theorem exists_texts_of_distinctKeys {values : List Value}
    (h : ∀ v ∈ values, v = .null ∨ ∃ s, v = .text s) :
    ∃ texts : List String, distinctKeys values = texts.map .text ∧
      ∀ s, .text s ∈ values → s ∈ texts := by
  obtain ⟨texts, heq, hmem⟩ := exists_texts_of_go h []
  exact ⟨texts, heq, fun s hs => (hmem s hs).resolve_left (List.not_mem_nil)⟩

theorem Dictionary.under_keyed (field key : String) (records : List Record) :
    under (records.filterMap fun r => (r.key field).map fun k => (k, r)) key =
      records.filter fun r => r.key field == some key := by
  induction records with
  | nil => rfl
  | cons r records ih =>
    unfold under at ih ⊢
    cases hk : r.key field with
    | none => simp [hk, ih]
    | some k => by_cases h : k = key <;> simp [hk, h, ih]

/-- A batch without a junction gives a parent the results that have its key. -/
theorem Batch.related_dictionary_direct {b : Batch} (hl : b.relation.linkage.isDirect)
    (results : List Record) (parent : Record) :
    b.related (b.dictionary results) parent = .ofList b.relation.linkage.isToOne
      (match parent.key b.relation.linkage.parentKey with
        | none => []
        | some key => results.filter fun r => r.key b.relation.linkage.relatedKey == some key) := by
  have hkeyed : b.keyed results = results.filterMap fun r =>
      (r.key b.relation.linkage.relatedKey).map fun key => (key, r) := by
    unfold Batch.keyed
    split
    · rename_i hjunction
      exact absurd hl (Linkage.not_isDirect hjunction)
    · rfl
  have hfind (key : String) := Dictionary.getD_find?_ofPairs (b.keyed results) key
  unfold Batch.related Batch.dictionary Related.nothing Related.ofList
  dsimp only
  cases hkey : parent.key b.relation.linkage.parentKey with
  | none => rfl
  | some key =>
    have hunder := hfind key
    rw [hkeyed, Dictionary.under_keyed] at hunder
    rw [hkeyed, Option.bind_some]
    dsimp only
    rw [← hunder]
    cases (Dictionary.ofPairs _).find? key <;> rfl

namespace LoadPlan

variable {t : ObjectType} {r : Relation} {schema : Schema} {rows : List Row}

theorem object_describe (c : Catalog) (object : String) : (c.describe object).object = object := by
  unfold Catalog.describe
  cases h : c.types.find? fun t => t.object == object with
  | none => rfl
  | some t => simpa using List.find?_some h

/-- The records are handed out as they are when nothing is to be loaded below them. -/
theorem run_loadBelow_nil {f : Finder} {s s' : Session τ σ} {results : List Record}
    (h : (f.bare store).run.run s = (.ok results, s')) :
    (loadBelow store [] f).run.run s = (.ok results, s') := by
  rw [run_loadBelow h, run_loadForest_nil]
  split
  · rename_i hnone
    rw [hnone]
  · rfl

/-- A batch without a junction asks for the texts of its keys, if there are any. -/
theorem finder_batch (hl : r.linkage.isDirect) (records : List Record) :
    (batch store r [] records).value.finder =
      ⟨store.catalog.describe r.related,
        store.settings.asking (store.catalog.describe r.related).object
          (.isIn r.linkage.relatedKey
            (distinctKeys (records.map fun p => p.value r.linkage.parentKey))) none, .empty⟩ := by
  cases hlinkage : r.linkage with
  | manyToMany => exact absurd hl (Linkage.not_isDirect hlinkage)
  | belongsTo => simp only [batch, Batch.forParents, Batch.new, hlinkage]; rfl
  | hasOne => simp only [batch, Batch.forParents, Batch.new, hlinkage]; rfl
  | hasMany => simp only [batch, Batch.forParents, Batch.new, hlinkage]; rfl

theorem keys_batch (steps : List FinderStep) (records : List Record) :
    (batch store r steps records).value.keys =
      distinctKeys (records.map fun p => p.value r.linkage.parentKey) := by
  cases hlinkage : r.linkage <;> simp only [batch, Batch.forParents, Batch.new, hlinkage] <;> rfl

/-- A batch that selects nothing asks for nothing without keys, and otherwise with the query that
was prepared. -/
theorem run_results_of_no_fields {get : Finder → Task τ σ (List Record)} {b : Batch}
    (hl : b.relation.linkage.isDirect) (hfields : b.finder.query.statement.fields = [])
    {results : List Record} {s s' : Session τ σ}
    (h : if b.keys.isEmpty then results = [] ∧ s' = s
      else (get b.finder).run.run s = (.ok results, s')) :
    (b.results store get).run.run s = (.ok (results, b), s') := by
  have hensured : ensured b b.relation.linkage.relatedKey = b := by
    have hcovers : b.finder.query.covers b.relation.linkage.relatedKey = true := by
      simp [Query.covers, hfields]
    unfold ensured Finder.mapQuery Query.ensureSelected
    simp only [hcovers, if_true]
  by_cases hk : b.keys = []
  · rw [if_pos (List.isEmpty_iff.2 hk)] at h
    obtain ⟨rfl, rfl⟩ := h
    exact run_results_of_no_keys hk _
  · rw [if_neg (mt List.isEmpty_iff.1 hk)] at h
    rw [run_results_direct (fun _ _ _ _ _ h => Linkage.not_isDirect h hl) hk, hensured, h]

/-- Eager loading gives every parent the rows with its key. -/
theorem run_loadTree_direct {relation : String} (hr : t.relation relation = .ok r)
    (hl : r.linkage.isDirect)
    (h : store.Holds schema r.related r.linkage.relatedKey rows) {records : List Record}
    (hparents : ∀ p ∈ records, p.TextOrNull r.linkage.parentKey) (s : Session τ σ) :
    ∃ s', (loadTree store t records (.node relation [] [])).run s =
      (⟨records.map fun p => p.setRelation relation (r.joined schema rows p), none⟩, s') := by
  have hvalues : ∀ v ∈ records.map (fun p => p.value r.linkage.parentKey),
      v = .null ∨ ∃ s, v = .text s := by
    intro v hv
    obtain ⟨p, hp, rfl⟩ := List.mem_map.1 hv
    exact hparents p hp
  obtain ⟨texts, htexts, hmem⟩ := exists_texts_of_distinctKeys hvalues
  let b := (batch store r [] records).value
  let found := (rows.filter (Row.has r.linkage.relatedKey texts)).map (Record.hydrate schema)
  have hfinder : b.finder = _ := finder_batch hl records
  have hkeys : b.keys = texts.map .text := (keys_batch [] records).trans htexts
  have hrelation : b.relation = r := relation_batch r [] records
  have hdirect : b.relation.linkage.isDirect := by
    rw [hrelation]
    exact hl
  have hresults (s : Session τ σ) : ∃ s', (b.results store (loadBelow store [])).run.run s =
      (.ok (found, b), s') := by
    have hfields : b.finder.query.statement.fields = [] := by rw [hfinder]; rfl
    -- Parents without keys send no query, and no row has one of no texts.
    by_cases hnone : texts = []
    · refine ⟨s, run_results_of_no_fields hdirect hfields ?_⟩
      rw [if_pos (by simp [hkeys, hnone])]
      exact ⟨by simp [found, hnone], rfl⟩
    · obtain ⟨s', hbare⟩ := h.run_among (f := b.finder) (by rw [hfinder]; exact object_describe _ _)
        hnone (by rw [hfinder, htexts, object_describe]) s
      refine ⟨s', run_results_of_no_fields hdirect hfields ?_⟩
      rw [if_neg (by simp [hkeys, hnone])]
      exact run_loadBelow_nil hbare
  obtain ⟨s', hrun⟩ := hresults { s with log := s.log ++ (batch store r [] records).events }
  refine ⟨s', ?_⟩
  rw [run_loadTree, hr]
  dsimp only
  rw [hrun]
  dsimp only
  congr 2
  rw [deal_reset rfl, hrelation, relation_name hr]
  refine List.map_congr_left fun p hp => ?_
  rw [Batch.related_dictionary_direct hdirect, hrelation]
  congr 1
  unfold Relation.joined
  congr 1
  cases hp' : p.key r.linkage.parentKey with
  | none => rfl
  | some key =>
    have hvalue := (hparents p hp).value_eq hp'
    exact h.filter_hydrate (hmem key (List.mem_map.2 ⟨p, hp, hvalue⟩))

end LoadPlan

/-- A finder without a plan leaves its records as they are. -/
theorem Finder.run_complete_of_empty {f : Finder} (hplan : f.plan = .empty) (records : List Record)
    (s : Session τ σ) : (f.complete store records).run.run s = (.ok records, s) := by
  have hforest : LoadPlan.empty.forest = [] := by
    rw [LoadPlan.forest_eq]
    rfl
  have hloaded : (f.loadRelations store records).run s = (⟨records, none⟩, s) := by
    rw [loadRelations, hplan, LoadPlan.load]
    split
    · rfl
    · rw [hforest, LoadPlan.run_loadForest_nil]
  rw [complete, Task.run_bind_ok (Task.run_always hloaded)]
  rfl

theorem Finder.run_get_of_bare {f : Finder} (hplan : f.plan = .empty) {s s' : Session τ σ}
    {records : List Record} (h : (f.bare store).run.run s = (.ok records, s')) :
    (f.get store).run.run s = (.ok records, s') := by
  rw [get, Task.run_bind_ok h, run_complete_of_empty hplan]

theorem Lookup.finder_ofParent (c : Catalog) (settings : Settings) {r : Relation}
    (hl : r.linkage.isDirect) {parent : Record} {key : String}
    (hkey : parent.value r.linkage.parentKey = .text key) :
    (Lookup.ofParent c settings r parent).value =
      ⟨r, ⟨c.describe r.related, settings.asking (c.describe r.related).object
        (.compare r.linkage.relatedKey .eq (.text key)) none, .empty⟩, true⟩ := by
  unfold Lookup.ofParent
  rw [hkey]
  cases hlinkage : r.linkage with
  | manyToMany => exact absurd hl (Linkage.not_isDirect hlinkage)
  | belongsTo => simp only [constrained, hlinkage]; rfl
  | hasOne => simp only [constrained, hlinkage]; rfl
  | hasMany => simp only [constrained, hlinkage]; rfl

theorem Lookup.ofParent_of_null (c : Catalog) (settings : Settings) {r : Relation} {parent : Record}
    (hkey : parent.value r.linkage.parentKey = .null) :
    (Lookup.ofParent c settings r parent).value =
      ⟨r, Finder.all settings (c.describe r.related), false⟩ := by
  unfold Lookup.ofParent
  rw [hkey]
  rfl

/-- A look-up with a key finds the rows that have it. -/
theorem Lookup.run_results_keyed {r : Relation} {schema : Schema} {rows : List Row}
    (h : store.Holds schema r.related r.linkage.relatedKey rows) {l : Lookup}
    (hrelation : l.relation = r) (hkeyed : l.keyed = true)
    (htype : l.finder.type.object = r.related) (hplan : l.finder.plan = .empty) {key : String}
    (hquery : l.finder.query = store.settings.asking r.related
      (.compare r.linkage.relatedKey .eq (.text key)) none) (s : Session τ σ) :
    ∃ s', (l.results store).run.run s =
      (.ok (.ofList r.linkage.isToOne
        ((rows.filter (Row.has r.linkage.relatedKey [key])).map (Record.hydrate schema))), s') := by
  unfold Lookup.results Related.ofList
  rw [hrelation, hkeyed]
  cases htoOne : r.linkage.isToOne with
  | false =>
    obtain ⟨s', hbare⟩ := h.run_equal htype hquery s
    refine ⟨s', ?_⟩
    exact Task.run_bind_ok (Finder.run_get_of_bare hplan hbare) _
  | true =>
    obtain ⟨s', hbare⟩ := h.run_first (f := l.finder.mapQuery (·.limit 1)) htype
      (by rw [Finder.mapQuery, hquery]; rfl) s
    have hget := Finder.run_get_of_bare (f := l.finder.mapQuery (·.limit 1)) hplan hbare
    have hfirst : (l.finder.first store).run.run s = (.ok
        ((rows.filter (Row.has r.linkage.relatedKey [key])).map (Record.hydrate schema)).head?,
          s') := by
      rw [Finder.first, Task.run_bind_ok hget, List.map_take, List.head?_take]
      rfl
    exact ⟨s', Task.run_bind_ok hfirst _⟩

/-- A relation that has not been loaded is looked up. -/
theorem Record.run_load {t : ObjectType} {relation : String} {r : Relation}
    (hr : t.relation relation = .ok r) {parent : Record} (hnew : parent.relation? relation = none)
    (s : Session τ σ) :
    (parent.load store t relation).run s =
      match ((Lookup.ofParent store.catalog store.settings r parent).value.results store).run.run
        { s with log := s.log ++ (Lookup.ofParent store.catalog store.settings r parent).events } with
      | (.error fault, s') => ((.error fault, parent), s')
      | (.ok related, s') => ((.ok related, parent.setRelation relation related), s') := by
  unfold Record.load
  rw [hnew]
  dsimp only
  rw [hr]
  dsimp only
  rw [StateT.run_bind, Session.run_trace]
  generalize Lookup.ofParent store.catalog store.settings r parent = lookup
  change ((lookup.value.results store).run >>= _).run { s with log := s.log ++ lookup.events } = _
  rw [StateT.run_bind]
  rcases (lookup.value.results store).run.run { s with log := s.log ++ lookup.events } with
    ⟨answer, s'⟩
  cases answer <;> rfl

/-- What is loaded for one parent are the rows with its key. -/
theorem Record.run_load_direct {t : ObjectType} {relation : String} {r : Relation} {schema : Schema}
    {rows : List Row} (hr : t.relation relation = .ok r) (hl : r.linkage.isDirect)
    (h : store.Holds schema r.related r.linkage.relatedKey rows) {parent : Record}
    (hparent : parent.TextOrNull r.linkage.parentKey) (hnew : parent.relation? relation = none)
    (s : Session τ σ) :
    ∃ s', (parent.load store t relation).run s =
      ((.ok (r.joined schema rows parent),
        parent.setRelation relation (r.joined schema rows parent)), s') := by
  let lookup := Lookup.ofParent store.catalog store.settings r parent
  have hresults (s : Session τ σ) : ∃ s', (lookup.value.results store).run.run s =
      (.ok (r.joined schema rows parent), s') := by
    unfold Relation.joined
    cases hkey : parent.key r.linkage.parentKey with
    | none =>
      have hlookup := Lookup.ofParent_of_null store.catalog store.settings
        (hparent.value_eq_null hkey)
      refine ⟨s, ?_⟩
      rw [hlookup]
      rfl
    | some key =>
      have hlookup := Lookup.finder_ofParent store.catalog store.settings hl
        (hparent.value_eq hkey)
      have htype := LoadPlan.object_describe store.catalog r.related
      refine Lookup.run_results_keyed h ?_ ?_ ?_ ?_ ?_ s
      · rw [hlookup]
      · rw [hlookup]
      · rw [hlookup]
        exact htype
      · rw [hlookup]
      · rw [hlookup, htype]
  obtain ⟨s', hrun⟩ := hresults { s with log := s.log ++ lookup.events }
  exact ⟨s', by rw [Record.run_load hr hnew, hrun]⟩

/-- A relation of a record leads to what is loaded for a record with the same attributes alone, in
any session. -/
def AsAlone (store : Store τ σ) (t : ObjectType) (relation : String) (before after : Record) :
    Prop :=
  ∃ related, after.relation? relation = some related ∧
    ∀ alone : Record, alone.attributes = before.attributes → alone.relation? relation = none →
      ∀ s, ∃ s', (alone.load store t relation).run s =
        ((.ok related, alone.setRelation relation related), s')

namespace LoadPlan

variable {t : ObjectType} {relation : String} {r : Relation} {schema : Schema} {rows : List Row}

theorem asAlone_of_joined (hr : t.relation relation = .ok r) (hl : r.linkage.isDirect)
    (h : store.Holds schema r.related r.linkage.relatedKey rows) {before after : Record}
    (hbefore : before.TextOrNull r.linkage.parentKey)
    (hafter : after.relation? relation = some (r.joined schema rows before)) :
    AsAlone store t relation before after := by
  refine ⟨_, hafter, fun alone hsame hnew s => ?_⟩
  have hvalue : alone.value r.linkage.parentKey = before.value r.linkage.parentKey := by
    simp only [Record.value, Record.get?, hsame]
  have hjoined : r.joined schema rows alone = r.joined schema rows before := by
    simp only [Relation.joined, Record.key, hvalue]
  have halone : alone.TextOrNull r.linkage.parentKey := by
    unfold Record.TextOrNull
    rwa [hvalue]
  rw [← hjoined]
  exact Record.run_load_direct hr hl h halone hnew s

theorem forest_ofPaths (htop : isTop relation) :
    (ofPaths [relation]).forest = [.node relation [] []] := by
  have hancestors : ancestors relation = [] := by
    have hdot : '.' ∉ relation.toList := by simpa [isTop] using htop
    rw [ancestors, Text.pieces_of_not_mem hdot]
    rfl
  have hentries : ofPaths [relation] = ⟨[(relation, [])]⟩ := by
    simp [ofPaths, add, hancestors, empty, set, setEntry]
  have hbelow : (child ⟨[(relation, [])]⟩ relation []).forest = [] := by
    have hchild : child ⟨[(relation, [])]⟩ relation [] = empty := by
      simp [child, under, below?_self, extendAll, merge]
    rw [hchild, forest_eq]
    rfl
  rw [hentries, forest_eq]
  simp [topLevel, htop, hbelow]

/-- Eager loading of a relation in the middle of a forest. -/
theorem loadForest_asAlone (hr : t.relation relation = .ok r) (hl : r.linkage.isDirect)
    (h : store.Holds schema r.related r.linkage.relatedKey rows) {records records' : List Record}
    (hparents : ∀ p ∈ records, p.TextOrNull r.linkage.parentKey) {done rest : List Tree}
    (hrest : relation ∉ rest.map Tree.name) {s s' : Session τ σ}
    (hload : (loadForest store t records (done ++ .node relation [] [] :: rest)).run s =
      (⟨records', none⟩, s')) : List.Forall₂ (AsAlone store t relation) records records' := by
  -- The trees before it keep the attributes of the records, those after it keep the relation.
  obtain ⟨mid, s₁, hdone, hload⟩ := exists_of_loadForest_append hload
  obtain ⟨loaded, s₂, htree, hload⟩ := exists_of_loadForest_cons hload
  have hkept := (List.forall₂_and_left _ _).2 ⟨hparents, loadForest_kept hdone⟩
  have hvalue {names : List String} {before after : Record} (hk : Kept names before after) :
      after.value r.linkage.parentKey = before.value r.linkage.parentKey := by
    simp only [Record.value, Record.get?, hk.attributes]
  have hmid : ∀ p ∈ mid, p.TextOrNull r.linkage.parentKey := by
    refine ((List.forall₂_and_left _ _).1 (hkept.flip.imp fun after before hk => ⟨?_, hk⟩)).1
    unfold Record.TextOrNull
    rw [hvalue hk.2]
    exact hk.1
  obtain ⟨s₃, hrun⟩ := run_loadTree_direct hr hl h hmid s₁
  obtain rfl : loaded = mid.map fun p => p.setRelation relation (r.joined schema rows p) :=
    congrArg (fun x => x.1.records) (htree.symm.trans hrun)
  have hset : List.Forall₂ (fun before loaded => before.TextOrNull r.linkage.parentKey ∧
      loaded.relation? relation = some (r.joined schema rows before)) records
      (mid.map fun p => p.setRelation relation (r.joined schema rows p)) := by
    rw [List.forall₂_map_right_iff]
    refine hkept.imp fun before p hk => ⟨hk.1, ?_⟩
    have hjoined : r.joined schema rows p = r.joined schema rows before := by
      simp only [Relation.joined, Record.key, hvalue hk.2]
    rw [Record.relation?_setRelation, if_pos rfl, hjoined]
  exact forall₂_comp (fun before loaded after hb hk =>
    asAlone_of_joined hr hl h hb.1 ((hk.relations relation hrest).trans hb.2)) hset
    (loadForest_kept hload)

/-- Whatever else is in the batch and in the plan, a relation without a junction that is loaded
eagerly leads every parent to what is loaded for it alone; and loaded by itself it is loaded without
a fault. -/
theorem eager_asAlone (hr : t.relation relation = .ok r) (hl : r.linkage.isDirect)
    (htop : isTop relation) (h : store.Holds schema r.related r.linkage.relatedKey rows)
    {records : List Record} (hparents : ∀ p ∈ records, p.TextOrNull r.linkage.parentKey)
    (s : Session τ σ) :
    (∃ records' s', ((ofPaths [relation]).load store t records).run s = (⟨records', none⟩, s') ∧
      List.Forall₂ (AsAlone store t relation) records records') ∧
    ∀ done rest records' s', relation ∉ rest.map Tree.name →
      (loadForest store t records (done ++ .node relation [] [] :: rest)).run s =
        (⟨records', none⟩, s') →
      List.Forall₂ (AsAlone store t relation) records records' := by
  refine ⟨?_, fun done rest records' s' hrest hload =>
    loadForest_asAlone hr hl h hparents hrest hload⟩
  obtain ⟨s', htree⟩ := run_loadTree_direct hr hl h hparents s
  have hforest : (loadForest store t records ([] ++ .node relation [] [] :: [])).run s =
      (⟨records.map fun p => p.setRelation relation (r.joined schema rows p), none⟩, s') := by
    rw [List.nil_append, run_loadForest_cons, htree]
    exact run_loadForest_nil _ _ _
  have hsame := loadForest_asAlone hr hl h hparents (List.not_mem_nil) hforest
  unfold load
  split
  · rename_i hnone
    obtain rfl := List.isEmpty_iff.1 hnone
    exact ⟨[], s, rfl, .nil⟩
  · rw [forest_ofPaths htop]
    exact ⟨_, s', hforest, hsame⟩

end LoadPlan

end RecordQuery
