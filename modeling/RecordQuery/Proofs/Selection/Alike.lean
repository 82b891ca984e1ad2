import RecordQuery.Proofs.Selection.Paired

namespace RecordQuery

variable {τ σ : Type} {store : Store τ σ} {schema : String → Schema}
  {rows : Endpoint → String → List Row}

section

variable (store : Store τ σ) (schema : String → Schema)

namespace LoadPlan

mutual

/-- Nothing but declared fields is selected for the relation and for those below it. -/
def Tree.SelectsPlain (t : ObjectType) : Tree → Prop
  | .node relation steps below => ∀ r, t.relation relation = .ok r →
    (r.query store steps).SelectsPlain (schema r.related) ∧
      Tree.AllSelectPlain (store.catalog.describe r.related) below

def Tree.AllSelectPlain (t : ObjectType) : List Tree → Prop
  | [] => True
  | tree :: rest => tree.SelectsPlain t ∧ Tree.AllSelectPlain t rest

end

mutual

/-- The key that the relation starts from is one of the columns, and so it is for the relations
below it. -/
def Tree.KeySelected (t : ObjectType) (columns : List String) : Tree → Prop
  | .node relation steps below => ∀ r, t.relation relation = .ok r →
    r.linkage.parentKey ∈ columns ∧
      Tree.AllKeysSelected (store.catalog.describe r.related) (r.columns store schema steps) below

def Tree.AllKeysSelected (t : ObjectType) (columns : List String) : List Tree → Prop
  | [] => True
  | tree :: rest => tree.KeySelected t columns ∧ Tree.AllKeysSelected t columns rest

end

mutual

/-- A relation leads a record with fewer columns to the same records, again with fewer columns, if
the key that it starts from is one of the columns, and to nothing if it is not. -/
def Tree.Alike (t : ObjectType) (columns : List String) : Tree → Record → Record → Prop
  | .node relation steps below, narrow, wide => ∃ r, t.relation relation = .ok r ∧
    if r.linkage.parentKey ∈ columns then
      ∃ n w, narrow.relation? relation = some n ∧ wide.relation? relation = some w ∧
        Related.Matched (fun a b => a.Narrows (r.columns store schema steps) b ∧
          Tree.AllAlike (store.catalog.describe r.related) (r.columns store schema steps) below
            a b) n w
    else narrow.relation? relation = some (.nothing r.linkage.isToOne)

def Tree.AllAlike (t : ObjectType) (columns : List String) : List Tree → Record → Record → Prop
  | [], _, _ => True
  | tree :: rest, narrow, wide =>
    tree.Alike t columns narrow wide ∧ Tree.AllAlike t columns rest narrow wide

end

end LoadPlan

end

namespace LoadPlan

variable {t : ObjectType} {columns : List String} {r : Relation} {steps : List FinderStep}
  {below : List Tree} {narrow wide narrow' wide' : List Record} {s s' u u' : Session τ σ}

/-- Loading a forest onto records with fewer columns relates them to the same records. -/
def LoadsAlike (store : Store τ σ) (schema : String → Schema) (forest : List Tree) : Prop :=
  ∀ {t columns narrow wide narrow' wide' s s' u u'}, t.Sound schema →
    Tree.AllSelectPlain store schema t forest →
    List.Forall₂ (Record.Narrows columns) narrow wide →
    (loadForest store t narrow forest).run s = (⟨narrow', none⟩, s') →
    (loadForest store t wide (Tree.allWidened forest)).run u = (⟨wide', none⟩, u') →
    List.Forall₂ (fun a b => a.Narrows columns b ∧
      Tree.AllAlike store schema t columns forest a b) narrow' wide'

/-- Two finders, of which the second selects nothing, find the same records and load them with the
same related records. -/
theorem loadBelow_alike (h : store.Selects schema rows) (hbelow : LoadsAlike store schema below)
    {f wide : Finder} (htype : wide.type = f.type) (hwidens : Query.Widens f.query wide.query)
    (ht : f.type.Sound schema) (hplain : f.query.SelectsPlain (schema f.type.object))
    (hplain' : Tree.AllSelectPlain store schema f.type below)
    (hnarrow : (loadBelow store below f).run.run s = (.ok narrow', s'))
    (hwide : (loadBelow store (Tree.allWidened below) wide).run.run u = (.ok wide', u')) :
    List.Forall₂ (fun a b => a.Narrows (f.query.columns (schema f.type.object)) b ∧
      Tree.AllAlike store schema f.type
        (f.query.columns (schema f.type.object)) below a b) narrow' wide' := by
  obtain ⟨found, s₁, hfound, hloaded⟩ := exists_of_loadBelow hnarrow
  obtain ⟨found', u₁, hfound', hloaded'⟩ := exists_of_loadBelow hwide
  obtain ⟨full, hfull, hrows⟩ := h.exists_bare_widened htype hwidens hplain hfound
  obtain ⟨_, hfull⟩ := hfull u
  obtain rfl := Except.ok.inj (congrArg Prod.fst (hfound'.symm.trans hfull))
  by_cases hnone : found = []
  · have hnone' : found' = [] := by
      rw [hnone] at hrows
      exact List.forall₂_nil_left_iff.1 hrows
    rw [if_pos hnone] at hloaded
    rw [if_pos hnone'] at hloaded'
    rw [hloaded, hloaded']
    exact .nil
  · have hsome' : found' ≠ [] := by
      rintro rfl
      exact hnone (List.forall₂_nil_right_iff.1 hrows)
    rw [if_neg hnone] at hloaded
    rw [if_neg hsome', htype] at hloaded'
    exact hbelow ht hplain' hrows hloaded hloaded'

/-- What related records of records with fewer columns have in common with those of the records
themselves. -/
abbrev RelatedAlike (store : Store τ σ) (schema : String → Schema) (r : Relation)
    (steps : List FinderStep) (below : List Tree) (a b : Record) : Prop :=
  a.Narrows (r.columns store schema steps) b ∧
    Tree.AllAlike store schema (store.catalog.describe r.related)
      (r.columns store schema steps) below a b

theorem Paired.loadBelow_alike (h : store.Selects schema rows)
    (hcatalog : ∀ object, (store.catalog.describe object).Sound schema)
    (hbelow : LoadsAlike store schema below) (hr : r.Sound schema)
    (hplain : (r.query store steps).SelectsPlain (schema r.related))
    (hplain' : Tree.AllSelectPlain store schema
      (store.catalog.describe r.related) below)
    {f wide : Finder} (hpaired : Paired store r steps f wide)
    (hnarrow : (loadBelow store below f).run.run s = (.ok narrow', s'))
    (hwide : (loadBelow store (Tree.allWidened below) wide).run.run u = (.ok wide', u')) :
    List.Forall₂ (RelatedAlike store schema r steps below) narrow' wide' := by
  have halike := LoadPlan.loadBelow_alike h hbelow (hpaired.type'.trans hpaired.type.symm)
    hpaired.widens (by rw [hpaired.type]; exact hcatalog r.related)
    (hpaired.selectsPlain hr hplain) (by rw [hpaired.type]; exact hplain') hnarrow hwide
  rwa [hpaired.columns_eq, hpaired.type] at halike

/-- What a tree makes of records with fewer columns and of the records themselves. -/
abbrev LoadedAlike (store : Store τ σ) (schema : String → Schema) (t : ObjectType)
    (columns : List String) (tree : Tree) (a b : Record) : Prop :=
  a.Narrows columns b ∧ tree.Alike store schema t columns a b

section

variable {relation : String} (hr : t.relation relation = .ok r)
  (hrecords : List.Forall₂ (Record.Narrows columns) narrow wide)

include hr hrecords

/-- Records are alike once the relation leads them to matched records. -/
theorem alike_of_matched {n w : Record → Related Record} (hkey : r.linkage.parentKey ∈ columns)
    (hmatched : ∀ a b, a.Narrows columns b →
      Related.Matched (RelatedAlike store schema r steps below) (n a) (w b)) :
    List.Forall₂ (LoadedAlike store schema t columns (.node relation steps below))
      (narrow.map fun p => p.setRelation relation (n p))
      (wide.map fun p => p.setRelation relation (w p)) := by
  rw [List.forall₂_map_left_iff, List.forall₂_map_right_iff]
  refine hrecords.imp fun a b hab => ⟨⟨hab.object, hab.attributes⟩, r, hr, ?_⟩
  rw [if_pos hkey]
  refine ⟨n a, w b, ?_, ?_, hmatched a b hab⟩
  · rw [Record.relation?_setRelation, if_pos rfl]
  · rw [Record.relation?_setRelation, if_pos rfl]

/-- Without the key that the relation starts from it leads to nothing. -/
theorem alike_of_no_key (hkey : r.linkage.parentKey ∉ columns)
    (hnarrow : (loadTree store t narrow (.node relation steps below)).run s =
      (⟨narrow', none⟩, s'))
    (hkept : List.Forall₂ (Kept [relation]) wide wide') :
    List.Forall₂ (LoadedAlike store schema t columns (.node relation steps below))
      narrow' wide' := by
  have hnone : ¬Keyed narrow r.linkage.parentKey := by
    have hkeys := (hrecords.imp fun a b hab =>
      (⟨hab.key_eq_none hkey, trivial⟩ : a.key r.linkage.parentKey = none ∧ True))
    rintro ⟨p, hp, hsome⟩
    rw [((List.forall₂_and_left _ _).1 hkeys).1 p hp] at hsome
    exact Bool.false_ne_true hsome
  rw [run_loadTree_of_no_keys hr hnone] at hnarrow
  obtain rfl := congrArg (fun x => x.1.records) hnarrow
  rw [List.forall₂_map_left_iff]
  refine forall₂_comp (fun a b b' hab hb => ⟨?_, r, hr, ?_⟩) hrecords hkept
  · exact hab.kept (.setRelation a relation (.nothing r.linkage.isToOne)) hb
  · rw [if_neg hkey, Record.relation?_setRelation, if_pos rfl]

end

section

variable (h : store.Selects schema rows)
  (hcatalog : ∀ object, (store.catalog.describe object).Sound schema)
  (hbelow : LoadsAlike store schema below) (ht : t.Sound schema) {relation : String}
  (hr : t.relation relation = .ok r)
  (hplain : (Tree.node relation steps below).SelectsPlain store schema t)
  (hkey : r.linkage.parentKey ∈ columns) (hk : Keyed narrow r.linkage.parentKey)
  (hrecords : List.Forall₂ (Record.Narrows columns) narrow wide)
  (hnarrow : (loadTree store t narrow (.node relation steps below)).run s = (⟨narrow', none⟩, s'))
  (hwide : (loadTree store t wide (Tree.widened (.node relation steps below))).run u =
    (⟨wide', none⟩, u'))

include h hcatalog hbelow ht hr hplain hkey hk hrecords hnarrow hwide

theorem loadTree_direct_alike (hl : r.linkage.isDirect) :
    List.Forall₂ (LoadedAlike store schema t columns (.node relation steps below))
      narrow' wide' := by
  have hvalues := values_eq hkey hrecords
  obtain ⟨hplain, hplain'⟩ := hplain r hr
  have hsound := ht r (mem_relations hr)
  have hmatched := hplain.mem_columns_ensureSelected (h.sound _) hsound.declared
  rw [Tree.widened] at hwide
  obtain ⟨results, s₁, hget, rfl⟩ := loadTree_direct hr hl hk hnarrow
  obtain ⟨results', u₁, hget', rfl⟩ := loadTree_direct hr hl ((keyed_congr hvalues).1 hk) hwide
  have hresults := (paired_batch store steps hvalues).loadBelow_alike h hcatalog hbelow hsound
    hplain hplain' hget hget'
  refine alike_of_matched hr hrecords hkey fun a b hab => .ofList _ ?_
  rw [hab.key_eq hkey]
  cases b.key r.linkage.parentKey with
  | none => exact .nil
  | some key =>
    refine rel_filter_of_eq (fun x y hxy => ?_) hresults
    rw [hxy.1.key_eq hmatched]

theorem loadTree_joined_alike {junction toParent toRelated parentKey relatedKey : String}
    (hl : r.linkage = .manyToMany junction toParent toRelated parentKey relatedKey) :
    List.Forall₂ (LoadedAlike store schema t columns (.node relation steps below))
      narrow' wide' := by
  have hvalues := values_eq hkey hrecords
  obtain ⟨hplain, hplain'⟩ := hplain r hr
  have hsound := ht r (mem_relations hr)
  have hpaired := paired_batch store steps hvalues
  have hparentKey : parentKey ∈ columns := by
    rw [hl] at hkey
    exact hkey
  have hmatched : relatedKey ∈ r.columns store schema steps := by
    have hrelatedKey : r.linkage.relatedKey = relatedKey := by rw [hl]; rfl
    rw [← hrelatedKey]
    exact hplain.mem_columns_ensureSelected (h.sound _) hsound.declared
  rw [Tree.widened] at hwide
  obtain ⟨got, s₁, s₂, results, hgot, hget, rfl⟩ := loadTree_joined hr hl hk hnarrow
  obtain ⟨got', u₁, u₂, results', hgot', hget', rfl⟩ :=
    loadTree_joined hr hl ((keyed_congr hvalues).1 hk) hwide
  -- The query for the rows selects the same in both runs, so both ask for the same records.
  obtain ⟨_, _, hagain, hagree, hkeys⟩ := exists_junction_again h hsound hl hvalues hgot u₁
  obtain rfl := Except.ok.inj (congrArg Prod.fst (hgot'.symm.trans hagain))
  have hresults : List.Forall₂ (RelatedAlike store schema r steps below) results results' := by
    rw [hkeys] at hget
    split at hget
    · rename_i hnone
      rw [if_pos hnone] at hget'
      rw [hget, hget']
      exact .nil
    · rename_i hsome
      rw [if_neg hsome] at hget'
      obtain ⟨s₃, hget⟩ := hget
      obtain ⟨u₃, hget'⟩ := hget'
      exact (hpaired.require _).loadBelow_alike h hcatalog hbelow hsound hplain hplain' hget hget'
  refine alike_of_matched hr hrecords hkey fun a b hab => ?_
  rw [Junction.linked_eq hagree (hab.key_eq hparentKey)]
  exact Junction.rel_attached (fun x y hxy => hxy.1.key_eq hmatched) hresults _

end

theorem Tree.Alike.kept {tree : Tree} {ns ms : List String} {a b a' b' : Record}
    (halike : tree.Alike store schema t columns a b)
    (hn : Kept ns a a') (hm : Kept ms b b') (hns : tree.name ∉ ns) (hms : tree.name ∉ ms) :
    tree.Alike store schema t columns a' b' := by
  obtain ⟨relation, steps, below⟩ := tree
  obtain ⟨r, hr, h⟩ := halike
  refine ⟨r, hr, ?_⟩
  rw [hn.relations relation hns, hm.relations relation hms]
  exact h

theorem name_widened (tree : Tree) : tree.widened.name = tree.name := by
  cases tree
  rfl

theorem map_name_allWidened (forest : List Tree) :
    (Tree.allWidened forest).map Tree.name = forest.map Tree.name := by
  rw [Tree.allWidened_eq, List.map_map]
  exact List.map_congr_left fun tree _ => name_widened tree

section

variable (h : store.Selects schema rows)
  (hcatalog : ∀ object, (store.catalog.describe object).Sound schema)

include h hcatalog

/-- A relation leads records with fewer columns to the same records, if they have its key. -/
theorem loadTree_alike (hbelow : LoadsAlike store schema below) (ht : t.Sound schema)
    {relation : String}
    (hplain : (Tree.node relation steps below).SelectsPlain store schema t)
    (hrecords : List.Forall₂ (Record.Narrows columns) narrow wide)
    (hnarrow : (loadTree store t narrow (.node relation steps below)).run s =
      (⟨narrow', none⟩, s'))
    (hwide : (loadTree store t wide (Tree.widened (.node relation steps below))).run u =
      (⟨wide', none⟩, u')) :
    List.Forall₂ (LoadedAlike store schema t columns (.node relation steps below))
      narrow' wide' := by
  obtain ⟨r, -, -, hr, -, -⟩ := exists_of_loadTree hnarrow
  by_cases hkey : r.linkage.parentKey ∈ columns
  · by_cases hk : Keyed narrow r.linkage.parentKey
    · cases hl : r.linkage with
      | manyToMany junction toParent toRelated parentKey relatedKey =>
        exact loadTree_joined_alike h hcatalog hbelow ht hr hplain hkey hk hrecords hnarrow hwide hl
      | _ =>
        exact loadTree_direct_alike h hcatalog hbelow ht hr hplain hkey hk hrecords hnarrow hwide
          (by rw [hl]; rfl)
    · have hk' := mt (keyed_congr (values_eq hkey hrecords)).2 hk
      rw [Tree.widened, run_loadTree_of_no_keys hr hk'] at hwide
      rw [run_loadTree_of_no_keys hr hk] at hnarrow
      obtain rfl := congrArg (fun x => x.1.records) hnarrow
      obtain rfl := congrArg (fun x => x.1.records) hwide
      exact alike_of_matched hr hrecords hkey fun _ _ _ => .nothing _
  · rw [Tree.widened] at hwide
    exact alike_of_no_key hr hrecords hkey hnarrow (loadTree_kept hwide)

/-- Loading a forest onto records with fewer columns relates them to the same records. -/
theorem loadsAlike : ∀ forest : List Tree, Tree.AllDistinct forest → LoadsAlike store schema forest
  | [], _ => by
    intro _ _ hrecords hnarrow hwide
    rw [run_loadForest_nil] at hnarrow
    rw [Tree.allWidened, run_loadForest_nil] at hwide
    obtain rfl := congrArg (fun x => x.1.records) hnarrow
    obtain rfl := congrArg (fun x => x.1.records) hwide
    exact hrecords.imp fun _ _ hab => ⟨hab, trivial⟩
  | .node relation steps below :: rest, ⟨hname, hbelow, hrest⟩ => by
    intro ht hplain hrecords hnarrow hwide
    rw [Tree.allWidened] at hwide
    obtain ⟨mid, s₁, hfirst, hnarrow⟩ := exists_of_loadForest_cons hnarrow
    obtain ⟨mid', u₁, hfirst', hwide⟩ := exists_of_loadForest_cons hwide
    have hmid := loadTree_alike h hcatalog (loadsAlike below hbelow) ht hplain.1 hrecords hfirst
      hfirst'
    have hlast := loadsAlike rest hrest ht hplain.2 (hmid.imp fun _ _ hab => hab.1) hnarrow hwide
    have hkept := loadForest_kept hwide
    rw [map_name_allWidened] at hkept
    -- The trees after it leave the relation of the first one as it is.
    have hstays := forall₂_square (fun a b a' b' hab ha hb => hab.2.kept ha hb hname hname) hmid
      (loadForest_kept hnarrow) hkept
    exact (forall₂_and hlast hstays).imp fun _ _ hab => ⟨hab.1.1, hab.2, hab.1.2⟩

end

end LoadPlan

end RecordQuery
