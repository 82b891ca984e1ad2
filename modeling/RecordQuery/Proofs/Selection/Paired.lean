import RecordQuery.Proofs.Loading.Mistake
import RecordQuery.Proofs.Selection.Columns
import RecordQuery.Proofs.Selection.Plan

namespace RecordQuery

/-- Two relations lead to the same number of records, which are paired in their order. -/
def Related.Matched {ρ : Type} (R : ρ → ρ → Prop) : Related ρ → Related ρ → Prop
  | .one a, .one b => Option.Rel R a b
  | .many as, .many bs => List.Forall₂ R as bs
  | _, _ => False

namespace Related

variable {R : Record → Record → Prop} {as bs : List Record}

theorem Matched.nothing (toOne : Bool) : Matched R (.nothing toOne) (.nothing toOne) := by
  cases toOne with
  | true => exact Option.Rel.none
  | false => exact List.Forall₂.nil

theorem Matched.ofList (toOne : Bool) (h : List.Forall₂ R as bs) :
    Matched R (.ofList toOne as) (.ofList toOne bs) := by
  cases toOne with
  | true => exact rel_head? h
  | false => exact h

end Related

namespace Junction

variable {R : Record → Record → Prop} {as bs : List Record} {field : String}

theorem rel_latest (hkey : ∀ a b, R a b → a.key field = b.key field) (h : List.Forall₂ R as bs)
    (key : String) : Option.Rel R (latest field as key) (latest field bs key) := by
  unfold latest
  rw [← List.head?_filter, ← List.head?_filter]
  exact rel_head? (rel_filter_of_eq (fun a b hab => by rw [hkey a b hab]) (List.rel_reverse h))

theorem rel_attached (hkey : ∀ a b, R a b → a.key field = b.key field)
    (h : List.Forall₂ R as bs) (keys : List String) :
    List.Forall₂ R (attached field keys as) (attached field keys bs) := by
  refine List.rel_filterMap (fun key key' hkeys => ?_) (List.forall₂_same.2 fun _ _ => rfl)
  rw [← hkeys]
  exact rel_latest hkey h key

theorem value_eq_of_agreeOn {names : List String} {a b : Row} (h : Row.AgreeOn names a b)
    {name : String} (hname : name ∈ names) : Row.value a name = Row.value b name := by
  rw [Row.value, Row.value, h name hname]

theorem linked_eq {toParent toRelated parentKey : String} {got got' : List Row}
    (h : List.Forall₂ (Row.AgreeOn [toParent, toRelated]) got got') {a b : Record}
    (hkey : a.key parentKey = b.key parentKey) :
    linked toParent toRelated parentKey got a = linked toParent toRelated parentKey got' b := by
  unfold linked
  rw [hkey]
  cases b.key parentKey with
  | none => rfl
  | some key =>
    refine filterMap_eq_of_forall₂ (fun row row' hrow => ?_) h
    rw [value_eq_of_agreeOn hrow (by simp), value_eq_of_agreeOn hrow (by simp)]

end Junction

def Linkage.pivots : Linkage → List String
  | .manyToMany _ pivotToParent pivotToRelated _ _ => [pivotToParent, pivotToRelated]
  | _ => []

/-- The key that the related records are matched on is a field of theirs, and a junction has names
for its keys. -/
structure Relation.Sound (schema : String → Schema) (r : Relation) : Prop where
  declared : r.linkage.relatedKey ∈ (schema r.related).fieldNames
  pivots : ∀ n ∈ r.linkage.pivots, IsName n

instance (schema : String → Schema) (r : Relation) : Decidable (r.Sound schema) :=
  decidable_of_iff (r.linkage.relatedKey ∈ (schema r.related).fieldNames ∧
    ∀ n ∈ r.linkage.pivots, IsName n) ⟨fun h => ⟨h.1, h.2⟩, fun h => ⟨h.declared, h.pivots⟩⟩

def ObjectType.Sound (schema : String → Schema) (t : ObjectType) : Prop :=
  ∀ r ∈ t.relations, r.Sound schema

variable {τ σ : Type}

/-- The query for the records of a relation, whoever they are related to. -/
def Relation.query (r : Relation) (store : Store τ σ) (steps : List FinderStep) : Query :=
  ((Finder.all store.settings (store.catalog.describe r.related)).steps store.catalog
    steps).value.query

def Relation.columns (r : Relation) (store : Store τ σ) (schema : String → Schema)
    (steps : List FinderStep) : List String :=
  ((r.query store steps).ensureSelected r.linkage.relatedKey).columns (schema r.related)

namespace Record.Narrows

variable {names : List String} {narrow wide : Record}

theorem value_eq (h : Narrows names narrow wide) {field : String} (hfield : field ∈ names) :
    narrow.value field = wide.value field := by
  rw [value, value, h.attributes, if_pos hfield]

theorem key_eq (h : Narrows names narrow wide) {field : String} (hfield : field ∈ names) :
    narrow.key field = wide.key field := by
  rw [key, key, h.value_eq hfield]

theorem key_eq_none (h : Narrows names narrow wide) {field : String} (hfield : field ∉ names) :
    narrow.key field = none := by
  rw [key, value, h.attributes, if_neg hfield]
  rfl

theorem kept (h : Narrows names narrow wide) {ns ms : List String} {narrow' wide' : Record}
    (hn : LoadPlan.Kept ns narrow narrow') (hw : LoadPlan.Kept ms wide wide') :
    Narrows names narrow' wide' where
  object := hn.object.trans (h.object.trans hw.object.symm)
  attributes field := by
    rw [get?, get?, hn.attributes, hw.attributes]
    exact h.attributes field

end Record.Narrows

variable {store : Store τ σ} {schema : String → Schema}

namespace LoadPlan

variable {t : ObjectType} {columns : List String} {r : Relation} {steps : List FinderStep}
  {below : List Tree} {narrow wide narrow' wide' : List Record} {s s' u u' : Session τ σ}

theorem mem_relations {name : String} (h : t.relation name = .ok r) : r ∈ t.relations := by
  unfold ObjectType.relation at h
  split at h
  · rename_i found hfound
    obtain rfl := Except.ok.inj h
    exact List.mem_of_find?_eq_some hfound
  · exact nomatch h

theorem fields_forParents (c : Catalog) (settings : Settings) (r : Relation)
    (records : List Record) : Query.SelectsAs (Finder.all settings (c.describe r.related)).query
      ((Batch.new c settings r).forParents records).finder.query ∧
    ((Batch.new c settings r).forParents records).finder.type = c.describe r.related := by
  unfold Batch.forParents
  split <;> exact ⟨⟨rfl, rfl⟩, rfl⟩

/-- Two finders for the records of a relation: the first selects what the steps for the relation
select and the key that the records are matched on, the second selects nothing. -/
structure Paired (store : Store τ σ) (r : Relation) (steps : List FinderStep) (f wide : Finder) :
    Prop where
  type : f.type = store.catalog.describe r.related
  type' : wide.type = store.catalog.describe r.related
  widens : Query.Widens f.query wide.query
  selects : Query.SelectsAs
    ((r.query store steps).ensureSelected r.linkage.relatedKey) f.query

namespace Paired

variable {f wide : Finder}

theorem require (h : Paired store r steps f wide) (c : Clause) :
    Paired store r steps (f.mapQuery (·.require c)) (wide.mapQuery (·.require c)) where
  type := h.type
  type' := h.type'
  widens := h.widens.require c
  selects := ⟨h.selects.dialect, h.selects.fields⟩

theorem selectsPlain (h : Paired store r steps f wide) (hr : r.Sound schema)
    (hplain : (r.query store steps).SelectsPlain (schema r.related)) :
    f.query.SelectsPlain (schema f.type.object) := by
  rw [h.type, object_describe]
  exact (hplain.ensureSelected hr.declared).congr h.selects

theorem columns_eq (h : Paired store r steps f wide) (schema : String → Schema) :
    f.query.columns (schema f.type.object) = r.columns store schema steps := by
  rw [h.type, object_describe, h.selects.columns_eq, Relation.columns]

end Paired

/-- Records with the same keys are asked for alike. -/
theorem paired_batch (store : Store τ σ) (steps : List FinderStep)
    (h : narrow.map (fun p => p.value r.linkage.parentKey) =
      wide.map fun p => p.value r.linkage.parentKey) :
    Paired store r steps
      (ensured (batch store r steps narrow).value r.linkage.relatedKey).finder
      (ensured (batch store r (FinderStep.allWidened steps) wide).value
        r.linkage.relatedKey).finder := by
  let start (records : List Record) := (Batch.new store.catalog store.settings r).forParents records
  have hsame : start wide = start narrow := forParents_congr h.symm
  obtain ⟨hselects, htype⟩ := fields_forParents store.catalog store.settings r narrow
  have hbatch (steps : List FinderStep) (records : List Record) :
      (batch store r steps records).value.finder =
        ((start records).finder.steps store.catalog steps).value := rfl
  have hwidens : Query.Widens (batch store r steps narrow).value.finder.query
      (batch store r (FinderStep.allWidened steps) wide).value.finder.query := by
    rw [hbatch, hbatch, hsame]
    exact (Query.Widens.refl hselects.fields).findSteps store.catalog _ steps
  have hquery : Query.SelectsAs (r.query store steps)
      (batch store r steps narrow).value.finder.query := by
    rw [hbatch, Relation.query]
    change Query.SelectsAs _ (Query.findSteps store.catalog (start narrow).finder.type _ _).value
    rw [htype]
    exact hselects.findSteps store.catalog (store.catalog.describe r.related) steps
  refine ⟨htype, ?_, hwidens.ensureSelected _, hquery.ensureSelected _⟩
  have htype' : (start wide).finder.type = store.catalog.describe r.related := by
    rw [hsame]
    exact htype
  exact htype'

theorem values_eq {field : String} (hfield : field ∈ columns)
    (hrecords : List.Forall₂ (Record.Narrows columns) narrow wide) :
    narrow.map (fun p => p.value field) = wide.map fun p => p.value field :=
  map_eq_of_forall₂ (R := Record.Narrows columns) (fun _ _ hab => hab.value_eq hfield) hrecords

/-- Records with the same keys ask the junction the same. -/
theorem junctionQuery_eq (store : Store τ σ) (steps : List FinderStep)
    (hvalues : narrow.map (fun p => p.value r.linkage.parentKey) =
      wide.map fun p => p.value r.linkage.parentKey) (junction toParent toRelated : String) :
    ∃ q : Query,
      junctionQuery (ensured (batch store r steps narrow).value r.linkage.relatedKey)
        junction toParent toRelated = q.select [toParent, toRelated] ∧
      junctionQuery (ensured (batch store r (FinderStep.allWidened steps) wide).value
        r.linkage.relatedKey) junction toParent toRelated = q.select [toParent, toRelated] := by
  have hkeys : (batch store r (FinderStep.allWidened steps) wide).value.keys =
      (batch store r steps narrow).value.keys := by rw [keys_batch, keys_batch, hvalues]
  let b := ensured (batch store r steps narrow).value r.linkage.relatedKey
  refine ⟨(b.finder.query.renewed.about junction).require (.isIn toParent b.keys), rfl, ?_⟩
  unfold junctionQuery
  rw [Query.renewed_congr (paired_batch store steps hvalues).widens.dialect]
  change Query.require _ (.isIn toParent
    (batch store r (FinderStep.allWidened steps) wide).value.keys) = _
  rw [hkeys]
  rfl

/-- The rows of a junction that were read for some records are read again for records with the same
keys, in any session. -/
theorem exists_junction_again {rows : Endpoint → String → List Row}
    (h : store.Selects schema rows) (hr : r.Sound schema)
    {junction toParent toRelated parentKey relatedKey : String}
    (hl : r.linkage = .manyToMany junction toParent toRelated parentKey relatedKey)
    (hvalues : narrow.map (fun p => p.value r.linkage.parentKey) =
      wide.map fun p => p.value r.linkage.parentKey) {got : List Row}
    (hgot : ((junctionQuery (ensured (batch store r steps narrow).value r.linkage.relatedKey)
      junction toParent toRelated).run store).run.run s = (.ok got, s')) (u : Session τ σ) :
    ∃ got' u', ((junctionQuery (ensured (batch store r (FinderStep.allWidened steps) wide).value
        r.linkage.relatedKey) junction toParent toRelated).run store).run.run u = (.ok got', u') ∧
      List.Forall₂ (Row.AgreeOn [toParent, toRelated]) got got' ∧
      junctionKeys toRelated got = junctionKeys toRelated got' := by
  have hpivots : ∀ n ∈ [toParent, toRelated], IsName n := by
    have hpivots := hr.pivots
    rw [hl] at hpivots
    exact hpivots
  obtain ⟨q, hq, hq'⟩ := junctionQuery_eq store steps hvalues junction toParent toRelated
  rw [hq] at hgot
  obtain ⟨got', u', hgot', hagree⟩ :=
    h.exists_run_again (List.cons_ne_nil _ _) hpivots hgot u
  refine ⟨got', u', by rw [hq', hgot'], hagree, ?_⟩
  exact congrArg distinctKeys (map_eq_of_forall₂ (R := Row.AgreeOn [toParent, toRelated])
    (fun _ _ hrow => Junction.value_eq_of_agreeOn hrow (by simp)) hagree)

/-- Without a junction, what is dealt out to a record are the results with its key. -/
theorem deal_direct {relation : String} {records results : List Record}
    (hr : t.relation relation = .ok r) (hl : r.linkage.isDirect) :
    let b := (batch store r steps records).value
    let b' := ensured b r.linkage.relatedKey
    b'.deal (b'.dictionary results) (b.reset records) =
      records.map fun p => p.setRelation relation (.ofList r.linkage.isToOne
        (match p.key r.linkage.parentKey with
          | none => []
          | some key => results.filter fun q => q.key r.linkage.relatedKey == some key)) := by
  intro b b'
  have hrelation : b'.relation = r := relation_batch r steps records
  refine (deal_reset rfl _ _).trans ?_
  rw [hrelation, relation_name hr]
  refine List.map_congr_left fun p _ => ?_
  have hdirect : b'.relation.linkage.isDirect := by
    rw [hrelation]
    exact hl
  have hrelated := Batch.related_dictionary_direct hdirect results p
  rw [hrelation] at hrelated
  exact congrArg (p.setRelation relation) hrelated

/-- A tree of a relation without a junction is loaded once the related records are found. -/
theorem run_loadTree_of_found {relation : String} {records results : List Record}
    (hr : t.relation relation = .ok r) (hl : r.linkage.isDirect)
    (hk : Keyed records r.linkage.parentKey)
    (hget : (loadBelow store below (ensured (batch store r steps records).value
      r.linkage.relatedKey).finder).run.run
        { s with log := s.log ++ (batch store r steps records).events } = (.ok results, s')) :
    (loadTree store t records (.node relation steps below)).run s =
      (⟨records.map fun p => p.setRelation relation (.ofList r.linkage.isToOne
        (match p.key r.linkage.parentKey with
          | none => []
          | some key => results.filter fun q => q.key r.linkage.relatedKey == some key)), none⟩,
        s') := by
  have hrelation : (batch store r steps records).value.relation = r :=
    relation_batch r steps records
  rw [run_loadTree, hr]
  dsimp only
  rw [run_results_direct _ (keys_ne_nil hk), hrelation, hget]
  · dsimp only
    rw [deal_direct hr hl]
  · intro _ _ _ _ _ heq
    rw [hrelation] at heq
    exact Linkage.not_isDirect heq hl

/-- A tree of a relation without a junction sets the relation to the results with the key of the
record. -/
theorem loadTree_direct {relation : String} {records records' : List Record}
    (hr : t.relation relation = .ok r) (hl : r.linkage.isDirect)
    (hk : Keyed records r.linkage.parentKey)
    (h : (loadTree store t records (.node relation steps below)).run s = (⟨records', none⟩, s')) :
    ∃ results s₁, (loadBelow store below (ensured (batch store r steps records).value
        r.linkage.relatedKey).finder).run.run s₁ = (.ok results, s') ∧
      records' = records.map fun p => p.setRelation relation (.ofList r.linkage.isToOne
        (match p.key r.linkage.parentKey with
          | none => []
          | some key => results.filter fun q => q.key r.linkage.relatedKey == some key)) := by
  obtain ⟨r', results, b', hr', hb, rfl⟩ := exists_of_loadTree h
  obtain rfl : r = r' := Except.ok.inj (hr.symm.trans hr')
  have hrelation : (batch store r steps records).value.relation = r :=
    relation_batch r steps records
  have hresults := results_direct (fun _ _ _ _ _ heq => by
    rw [hrelation] at heq
    exact Linkage.not_isDirect heq hl) hb
  obtain ⟨hnone, -⟩ | ⟨hget, rfl⟩ := hresults
  · exact absurd (List.isEmpty_iff.1 hnone) (keys_ne_nil hk)
  · rw [hrelation] at hget ⊢
    exact ⟨results, _, hget, deal_direct hr hl⟩

/-- A tree of a relation through a junction sets the relation to what the rows attach. -/
theorem loadTree_joined {relation junction toParent toRelated parentKey relatedKey : String}
    {records records' : List Record} (hr : t.relation relation = .ok r)
    (hl : r.linkage = .manyToMany junction toParent toRelated parentKey relatedKey)
    (hk : Keyed records r.linkage.parentKey)
    (h : (loadTree store t records (.node relation steps below)).run s = (⟨records', none⟩, s')) :
    let b := ensured (batch store r steps records).value r.linkage.relatedKey
    ∃ got s₁ s₂ results,
      ((junctionQuery b junction toParent toRelated).run store).run.run s₁ = (.ok got, s₂) ∧
      (if junctionKeys toRelated got = [] then results = []
        else ∃ s₃, (loadBelow store below (b.finder.mapQuery (·.require
          (.isIn relatedKey (junctionKeys toRelated got))))).run.run s₃ = (.ok results, s')) ∧
      records' = records.map fun p => p.setRelation relation (.many (Junction.attached relatedKey
        (Junction.linked toParent toRelated parentKey got p) results)) := by
  obtain ⟨r', results, b', hr', hb, rfl⟩ := exists_of_loadTree h
  obtain rfl : r = r' := Except.ok.inj (hr.symm.trans hr')
  have hrelation : (batch store r steps records).value.relation = r :=
    relation_batch r steps records
  obtain ⟨hrelation', s₁, hgot, hread⟩ := results_joined (by rw [hrelation, hl])
    (keys_ne_nil hk) hb
  have hkey : r.linkage.relatedKey = relatedKey := by rw [hl]; rfl
  rw [hkey]
  refine ⟨b'.pivots, _, s₁, results, hgot, ?_, ?_⟩
  · split at hread
    · rename_i hnone
      rw [if_pos hnone]
      exact hread.1
    · rename_i hsome
      rw [if_neg hsome]
      exact ⟨_, hread⟩
  · rw [deal_reset hrelation', hrelation, relation_name hr]
    refine List.map_congr_left fun p _ => ?_
    rw [Junction.related_dictionary (by rw [hrelation', hrelation, hl])]

end LoadPlan

end RecordQuery
