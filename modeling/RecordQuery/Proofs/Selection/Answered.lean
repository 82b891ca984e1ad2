import RecordQuery.Proofs.Selection.Alike

namespace RecordQuery

variable {τ σ : Type} {store : Store τ σ} {schema : String → Schema}
  {rows : Endpoint → String → List Row}

namespace LoadPlan

variable {t : ObjectType} {columns : List String} {r : Relation} {steps : List FinderStep}
  {below : List Tree} {narrow wide narrow' : List Record} {s s' : Session τ σ}

/-- A forest that is loaded onto records with fewer columns is loaded onto the records themselves,
in any session, if the keys are among the columns. -/
def LoadsWidened (store : Store τ σ) (schema : String → Schema) (forest : List Tree) : Prop :=
  ∀ {t columns narrow wide narrow' s s'}, t.Sound schema →
    Tree.AllSelectPlain store schema t forest → Tree.AllKeysSelected store schema t columns forest →
    List.Forall₂ (Record.Narrows columns) narrow wide →
    (loadForest store t narrow forest).run s = (⟨narrow', none⟩, s') →
    ∀ u, ∃ wide' u',
      (loadForest store t wide (Tree.allWidened forest)).run u = (⟨wide', none⟩, u')

theorem narrows_kept {ns ms : List String} {wide' : List Record}
    (hrecords : List.Forall₂ (Record.Narrows columns) narrow wide)
    (hn : List.Forall₂ (Kept ns) narrow narrow') (hm : List.Forall₂ (Kept ms) wide wide') :
    List.Forall₂ (Record.Narrows columns) narrow' wide' :=
  forall₂_square (fun _ _ _ _ hab ha hb => hab.kept ha hb) hrecords hn hm

theorem exists_loadBelow_widened (h : store.Selects schema rows)
    (hbelow : LoadsWidened store schema below) {f wide : Finder} (htype : wide.type = f.type)
    (hwidens : Query.Widens f.query wide.query)
    (ht : f.type.Sound schema) (hplain : f.query.SelectsPlain (schema f.type.object))
    (hplain' : Tree.AllSelectPlain store schema f.type below)
    (hkeys : Tree.AllKeysSelected store schema f.type (f.query.columns (schema f.type.object))
      below)
    (hnarrow : (loadBelow store below f).run.run s = (.ok narrow', s')) (u : Session τ σ) :
    ∃ wide' u', (loadBelow store (Tree.allWidened below) wide).run.run u = (.ok wide', u') := by
  obtain ⟨found, s₁, hfound, hloaded⟩ := exists_of_loadBelow hnarrow
  obtain ⟨full, hfull, hrows⟩ := h.exists_bare_widened htype hwidens hplain hfound
  obtain ⟨u₁, hfull⟩ := hfull u
  rw [run_loadBelow hfull]
  by_cases hnone : full = []
  · rw [if_pos hnone]
    exact ⟨[], u₁, rfl⟩
  · have hsome : found ≠ [] := by
      rintro rfl
      exact hnone (List.forall₂_nil_left_iff.1 hrows)
    rw [if_neg hsome] at hloaded
    obtain ⟨wide', u', hwide⟩ := hbelow ht hplain' hkeys hrows hloaded u₁
    rw [if_neg hnone, htype, hwide]
    exact ⟨wide', u', rfl⟩

theorem Paired.exists_loadBelow_widened (h : store.Selects schema rows)
    (hcatalog : ∀ object, (store.catalog.describe object).Sound schema)
    (hbelow : LoadsWidened store schema below) (hr : r.Sound schema)
    (hplain : (r.query store steps).SelectsPlain (schema r.related))
    (hplain' : Tree.AllSelectPlain store schema (store.catalog.describe r.related) below)
    (hkeys : Tree.AllKeysSelected store schema (store.catalog.describe r.related)
      (r.columns store schema steps) below)
    {f wide : Finder} (hpaired : Paired store r steps f wide)
    (hnarrow : (loadBelow store below f).run.run s = (.ok narrow', s')) (u : Session τ σ) :
    ∃ wide' u', (loadBelow store (Tree.allWidened below) wide).run.run u = (.ok wide', u') := by
  refine LoadPlan.exists_loadBelow_widened h hbelow (hpaired.type'.trans hpaired.type.symm)
    hpaired.widens ?_ (hpaired.selectsPlain hr hplain) ?_ ?_ hnarrow u
  · rw [hpaired.type]
    exact hcatalog r.related
  · rw [hpaired.type]
    exact hplain'
  · rw [hpaired.columns_eq, hpaired.type]
    exact hkeys

/-- A tree is loaded if the results of its batch are found. -/
theorem exists_loadTree_of_results {relation : String} {records : List Record}
    (hr : t.relation relation = .ok r) {u : Session τ σ}
    (h : ∃ answer u', ((batch store r steps records).value.results store
      (loadBelow store below)).run.run
        { u with log := u.log ++ (batch store r steps records).events } = (.ok answer, u')) :
    ∃ records' u', (loadTree store t records (.node relation steps below)).run u =
      (⟨records', none⟩, u') := by
  obtain ⟨answer, u', h⟩ := h
  rw [run_loadTree, hr]
  dsimp only
  rw [h]
  exact ⟨_, _, rfl⟩

section

variable (h : store.Selects schema rows)
  (hcatalog : ∀ object, (store.catalog.describe object).Sound schema)
  (hbelow : LoadsWidened store schema below) (ht : t.Sound schema) {relation : String}
  (hr : t.relation relation = .ok r)
  (hplain : (Tree.node relation steps below).SelectsPlain store schema t)
  (hkeys : (Tree.node relation steps below).KeySelected store schema t columns)
  (hk : Keyed narrow r.linkage.parentKey)
  (hrecords : List.Forall₂ (Record.Narrows columns) narrow wide)
  (hnarrow : (loadTree store t narrow (.node relation steps below)).run s = (⟨narrow', none⟩, s'))
  (u : Session τ σ)

include h hcatalog hbelow ht hr hplain hkeys hk hrecords hnarrow

theorem exists_loadTree_direct_widened (hl : r.linkage.isDirect) :
    ∃ wide' u', (loadTree store t wide (Tree.widened (.node relation steps below))).run u =
      (⟨wide', none⟩, u') := by
  obtain ⟨hkey, hkeys⟩ := hkeys r hr
  obtain ⟨hplain, hplain'⟩ := hplain r hr
  have hvalues := values_eq hkey hrecords
  have hpaired := paired_batch store steps hvalues
  obtain ⟨results, s₁, hget, -⟩ := loadTree_direct hr hl hk hnarrow
  obtain ⟨results', u₁, hget'⟩ := hpaired.exists_loadBelow_widened h hcatalog hbelow
    (ht r (mem_relations hr)) hplain hplain' hkeys hget
    { u with log := u.log ++ (batch store r (FinderStep.allWidened steps) wide).events }
  exact ⟨_, u₁, run_loadTree_of_found hr hl ((keyed_congr hvalues).1 hk) hget'⟩

theorem exists_loadTree_joined_widened {junction toParent toRelated parentKey relatedKey : String}
    (hl : r.linkage = .manyToMany junction toParent toRelated parentKey relatedKey) :
    ∃ wide' u', (loadTree store t wide (Tree.widened (.node relation steps below))).run u =
      (⟨wide', none⟩, u') := by
  obtain ⟨hkey, hkeys⟩ := hkeys r hr
  obtain ⟨hplain, hplain'⟩ := hplain r hr
  have hvalues := values_eq hkey hrecords
  have hpaired := paired_batch store steps hvalues
  have hsound := ht r (mem_relations hr)
  have hrelation : (batch store r (FinderStep.allWidened steps) wide).value.relation = r :=
    relation_batch r _ wide
  have hrelatedKey : r.linkage.relatedKey = relatedKey := by rw [hl]; rfl
  obtain ⟨got, s₁, s₂, results, hgot, hget, -⟩ := loadTree_joined hr hl hk hnarrow
  obtain ⟨got', u₁, hgot', -, hsame⟩ := exists_junction_again h hsound hl hvalues hgot
    { u with log := u.log ++ (batch store r (FinderStep.allWidened steps) wide).events }
  refine exists_loadTree_of_results hr ?_
  rw [hrelatedKey] at hgot'
  rw [run_results_joined (by rw [hrelation, hl]) (keys_ne_nil ((keyed_congr hvalues).1 hk)), hgot']
  dsimp only
  rw [hsame] at hget
  split at hget
  · rename_i hnone
    rw [if_pos hnone]
    exact ⟨_, _, rfl⟩
  · rename_i hsome
    obtain ⟨s₃, hget⟩ := hget
    obtain ⟨results', u₃, hget'⟩ := (hpaired.require _).exists_loadBelow_widened h hcatalog hbelow
      hsound hplain hplain' hkeys hget { u₁ with log := u₁.log ++ [.joined r.name got'.length] }
    rw [hrelatedKey] at hget'
    rw [if_neg hsome, hrelation, hget']
    exact ⟨_, _, rfl⟩

end

section

variable (h : store.Selects schema rows)
  (hcatalog : ∀ object, (store.catalog.describe object).Sound schema)

include h hcatalog

theorem exists_loadTree_widened (hbelow : LoadsWidened store schema below) (ht : t.Sound schema)
    {relation : String}
    (hplain : (Tree.node relation steps below).SelectsPlain store schema t)
    (hkeys : (Tree.node relation steps below).KeySelected store schema t columns)
    (hrecords : List.Forall₂ (Record.Narrows columns) narrow wide)
    (hnarrow : (loadTree store t narrow (.node relation steps below)).run s = (⟨narrow', none⟩, s'))
    (u : Session τ σ) :
    ∃ wide' u', (loadTree store t wide (Tree.widened (.node relation steps below))).run u =
      (⟨wide', none⟩, u') := by
  obtain ⟨r, -, -, hr, -, -⟩ := exists_of_loadTree hnarrow
  -- The records have their keys among the columns, so they are keyed just as the narrow ones are.
  by_cases hk : Keyed narrow r.linkage.parentKey
  · cases hl : r.linkage with
    | manyToMany junction toParent toRelated parentKey relatedKey =>
      exact exists_loadTree_joined_widened h hcatalog hbelow ht hr hplain hkeys hk hrecords hnarrow
        u hl
    | _ =>
      exact exists_loadTree_direct_widened h hcatalog hbelow ht hr hplain hkeys hk hrecords hnarrow
        u (by rw [hl]; rfl)
  · have hk' := mt (keyed_congr (values_eq (hkeys r hr).1 hrecords)).2 hk
    rw [Tree.widened, run_loadTree_of_no_keys hr hk']
    exact ⟨_, _, rfl⟩

/-- A forest that is loaded onto records with fewer columns, the keys among them, is loaded onto the
records themselves. -/
theorem loadsWidened : ∀ forest : List Tree, LoadsWidened store schema forest
  | [] => by
    intro _ _ _ _ _ u
    rw [Tree.allWidened, run_loadForest_nil]
    exact ⟨_, _, rfl⟩
  | .node relation steps below :: rest => by
    intro ht hplain hkeys hrecords hnarrow u
    obtain ⟨mid, s₁, hfirst, hnarrow⟩ := exists_of_loadForest_cons hnarrow
    obtain ⟨mid', u₁, hfirst'⟩ := exists_loadTree_widened h hcatalog (loadsWidened below) ht
      hplain.1 hkeys.1 hrecords hfirst u
    have hmid := narrows_kept hrecords (loadTree_kept hfirst) (loadTree_kept hfirst')
    obtain ⟨wide', u', hwide⟩ := loadsWidened rest ht hplain.2 hkeys.2 hmid hnarrow u₁
    rw [Tree.allWidened, run_loadForest_cons, hfirst']
    exact ⟨wide', u', hwide⟩

end

end LoadPlan

namespace Finder

/-- A finder asks its records for what its plan has, as a relation asks the related records for what
is below them. -/
theorem run_get (f : Finder) (s : Session τ σ) :
    (f.get store).run.run s = (LoadPlan.loadBelow store f.plan.forest f).run.run s := by
  rw [get, LoadPlan.loadBelow, Task.run_bind, Task.run_bind]
  rcases (f.bare store).run.run s with ⟨_ | found, s₁⟩
  · rfl
  · dsimp only
    unfold complete loadRelations LoadPlan.load
    cases found.isEmpty <;> rfl

theorem forest_allWidened (c : Catalog) (settings : Settings) (t : ObjectType)
    (ss : List FinderStep) :
    ((all settings t).steps c (FinderStep.allWidened ss)).value.plan.forest =
      LoadPlan.Tree.allWidened ((all settings t).steps c ss).value.plan.forest := by
  rw [← LoadPlan.forest_widened]
  exact congrArg LoadPlan.forest (LoadPlan.widened_extendAll .empty ss).symm

/-- A finder whose steps select declared fields finds, in a store that answers with columns, what it
finds without its selections, with fewer columns. A relation leads the records to the same related
records in the same order, and so on below them, if the key that it starts from is among the columns
of its level; if it is not, the relation leads every record to nothing. And where all keys are among
the columns, the finder without its selections comes to records once the finder does. -/
theorem get_narrowed (h : store.Selects schema rows)
    (hcatalog : ∀ object, (store.catalog.describe object).Sound schema) {t : ObjectType}
    (ht : t.Sound schema) (ss : List FinderStep) :
    let f := ((all store.settings t).steps store.catalog ss).value
    let wide := ((all store.settings t).steps store.catalog (FinderStep.allWidened ss)).value
    let columns := f.query.columns (schema t.object)
    f.query.SelectsPlain (schema t.object) →
    LoadPlan.Tree.AllSelectPlain store schema t f.plan.forest →
    ∀ {narrowed : List Record} {s s' : Session τ σ},
      (f.get store).run.run s = (.ok narrowed, s') →
      (∀ {full : List Record} {u u' : Session τ σ},
        (wide.get store).run.run u = (.ok full, u') →
        List.Forall₂ (fun a b => a.Narrows columns b ∧
          LoadPlan.Tree.AllAlike store schema t columns f.plan.forest a b) narrowed full) ∧
      (LoadPlan.Tree.AllKeysSelected store schema t columns f.plan.forest →
        ∀ u : Session τ σ, ∃ full u', (wide.get store).run.run u = (.ok full, u')) := by
  intro f wide columns hplain hbelow narrowed s s' hnarrow
  have hwidens : Query.Widens f.query wide.query :=
    (Query.Widens.refl rfl).findSteps store.catalog t ss
  have hforest : wide.plan.forest = LoadPlan.Tree.allWidened f.plan.forest :=
    forest_allWidened store.catalog store.settings t ss
  have htype : wide.type = f.type := rfl
  rw [run_get] at hnarrow
  refine ⟨fun {full u u'} hwide => ?_, fun hkeys u => ?_⟩
  · have hempty : LoadPlan.empty.paths.Nodup := List.nodup_nil
    have hdistinct := LoadPlan.distinct_forest (LoadPlan.nodup_extendAll hempty ss)
    rw [run_get, hforest] at hwide
    exact LoadPlan.loadBelow_alike h (LoadPlan.loadsAlike h hcatalog _ hdistinct) htype hwidens ht
      hplain hbelow hnarrow hwide
  · rw [run_get, hforest]
    exact LoadPlan.exists_loadBelow_widened h (LoadPlan.loadsWidened h hcatalog _) htype hwidens ht
      hplain hbelow hkeys hnarrow u

end Finder

namespace Crm

open LoadPlan

def schemaOf (object : String) : Schema :=
  (schemas.find? fun s => s.object == object).getD ⟨object, [("Id", .text)]⟩

theorem sound_schemaOf (object : String) : (schemaOf object).Sound := by
  unfold schemaOf
  cases h : schemas.find? fun s => s.object == object with
  | none =>
    have hkey : (Schema.mk "" [("Id", .text)]).Sound := by decide
    exact ⟨hkey.nonempty, hkey.names, hkey.apart⟩
  | some schema =>
    have hall : ∀ s ∈ schemas, s.Sound := by decide
    exact hall schema (List.mem_of_find?_eq_some h)

theorem sound_catalog (object : String) : (catalog.describe object).Sound schemaOf := by
  unfold Catalog.describe
  cases h : catalog.types.find? fun t => t.object == object with
  | none => exact fun _ hr => nomatch hr
  | some t =>
    have hall : ∀ t ∈ catalog.types, ∀ r ∈ t.relations, r.Sound schemaOf := by decide
    exact hall t (List.mem_of_find?_eq_some h)

def rowsOf (_ : Endpoint) (tail : String) : List Row :=
  if tail = "Account" then [[("Id", .text "001"), ("Name", .text "Acme")]]
  else if tail = "Contact WHERE AccountId IN ('001')" then
    [[("Id", .text "C1"), ("AccountId", .text "001"), ("LastName", .text "Ada")]]
  else []

/-- A store with the columns of the account and of its contact. -/
def columnStore : Store Unit Unit := .ofColumns schemaOf catalog rowsOf

theorem selects_columnStore : columnStore.Selects schemaOf rowsOf :=
  Store.selects_ofColumns sound_schemaOf catalog rowsOf

/-- Columns of accounts, and their contacts. -/
def withContacts (names : List String) : List FinderStep :=
  [.query (.select names), .load ["Contacts"]]

def accountsBy (steps : List FinderStep) : Finder :=
  ((Finder.all columnStore.settings account).steps columnStore.catalog steps).value

def acme (attributes : List (String × Value)) : Record := .ofAttributes "Account" attributes

def ada : Record := .ofAttributes "Contact"
  [("Id", .text "C1"), ("AccountId", .text "001"), ("LastName", .text "Ada")]

theorem relation_contacts : account.relation "Contacts" = .ok accountContacts := rfl

theorem forest_accounts (names : List String) :
    (accountsBy (withContacts names)).plan.forest = [.node "Contacts" [] []] := by
  cbv

theorem selectsPlain_accounts {names : List String}
    (h : ∀ n ∈ names, n ∈ (schemaOf "Account").fieldNames) :
    (accountsBy (withContacts names)).query.SelectsPlain (schemaOf "Account") := by
  intro s hs
  obtain ⟨n, hn, rfl⟩ := List.mem_map.1 hs
  exact ⟨n, h n hn, rfl⟩

theorem run_bare_contacts (s : Session Unit Unit) :
    let related := (ensured (batch columnStore accountContacts []
      [acme [("Id", .text "001")]]).value "AccountId").finder
    ∃ s', (related.bare columnStore).run.run s = (.ok [ada], s') := by
  intro related
  exact selects_columnStore.run_bare (f := related) (Query.selectsPlain_of_nil _ rfl) rfl rfl s

/-- An account with its key gets its contact. -/
theorem run_get_contacts {f : Finder} (htype : f.type = account)
    (hforest : f.plan.forest = [.node "Contacts" [] []]) {found : Record}
    (hvalue : found.value "Id" = .text "001") {s s₁ : Session Unit Unit}
    (hbare : (f.bare columnStore).run.run s = (.ok [found], s₁)) :
    ∃ s', (f.get columnStore).run.run s =
      (.ok [found.setRelation "Contacts" (.many [ada])], s') := by
  have hkey : found.key "Id" = some "001" := by
    rw [Record.key, hvalue]
    rfl
  have hkeyed : Keyed [found] "Id" := ⟨found, List.mem_singleton_self _, by rw [hkey]; rfl⟩
  have hbatch : batch columnStore accountContacts [] [found] =
      batch columnStore accountContacts [] [acme [("Id", .text "001")]] := by
    unfold batch
    rw [forParents_congr]
    exact congrArg (fun v => [v]) hvalue
  have hmatched : [ada].filter (fun q => q.key "AccountId" == some "001") = [ada] := rfl
  obtain ⟨s', hbelow⟩ := run_bare_contacts { s₁ with log :=
    s₁.log ++ (batch columnStore accountContacts [] [found]).events }
  rw [← hbatch] at hbelow
  have hload := run_loadTree_of_found relation_contacts rfl hkeyed (run_loadBelow_nil hbelow)
  refine ⟨s', ?_⟩
  rw [f.run_get, run_loadBelow hbare, if_neg (List.cons_ne_nil _ _), hforest, htype,
    run_loadForest_cons, hload]
  dsimp only
  rw [run_loadForest_nil]
  simp only [List.map_cons, List.map_nil, accountContacts, Linkage.parentKey, Linkage.relatedKey,
    Linkage.isToOne, Related.ofList, hkey, hmatched]
  rfl

/-- The account under its key has its contact. -/
theorem run_get_keyed (s : Session Unit Unit) :
    ∃ s', ((accountsBy (withContacts ["Id"])).get columnStore).run.run s =
      (.ok [(acme [("Id", .text "001")]).setRelation "Contacts" (.many [ada])], s') := by
  obtain ⟨s₁, hbare⟩ := selects_columnStore.run_bare (f := accountsBy (withContacts ["Id"]))
    (selectsPlain_accounts (by decide)) rfl rfl s
  exact run_get_contacts rfl (forest_accounts _) rfl hbare

/-- Every account and its contact have the keys of what is loaded with them. -/
theorem keysSelected_keyed : Tree.AllKeysSelected columnStore schemaOf account ["Id"]
    (accountsBy (withContacts ["Id"])).plan.forest := by
  rw [forest_accounts]
  refine ⟨fun r hr => ?_, trivial⟩
  obtain rfl := Except.ok.inj (relation_contacts.symm.trans hr)
  exact ⟨by decide, trivial⟩

theorem allSelectPlain_accounts (names : List String) :
    Tree.AllSelectPlain columnStore schemaOf account
      (accountsBy (withContacts names)).plan.forest := by
  rw [forest_accounts]
  refine ⟨fun r hr => ?_, trivial⟩
  obtain rfl := Except.ok.inj (relation_contacts.symm.trans hr)
  exact ⟨Query.selectsPlain_of_nil _ rfl, trivial⟩

/-- The account under its key alone has the contact that it has with all of its columns. -/
theorem accounts_narrowed :
    columnStore.Selects schemaOf rowsOf ∧
    (∀ object, (columnStore.catalog.describe object).Sound schemaOf) ∧
    account.Sound schemaOf ∧
    (accountsBy (withContacts ["Id"])).query.SelectsPlain (schemaOf "Account") ∧
    Tree.AllSelectPlain columnStore schemaOf account
      (accountsBy (withContacts ["Id"])).plan.forest ∧
    Tree.AllKeysSelected columnStore schemaOf account ["Id"]
      (accountsBy (withContacts ["Id"])).plan.forest ∧
    ∃ narrowed full s' u',
      ((accountsBy (withContacts ["Id"])).get columnStore).run.run ⟨(), (), []⟩ =
        (.ok narrowed, s') ∧
      ((accountsBy (FinderStep.allWidened (withContacts ["Id"]))).get columnStore).run.run
        ⟨(), (), []⟩ = (.ok full, u') ∧
      List.Forall₂ (fun a b => a.Narrows ["Id"] b ∧
        Tree.AllAlike columnStore schemaOf account ["Id"]
          (accountsBy (withContacts ["Id"])).plan.forest a b) narrowed full := by
  have hplain : (accountsBy (withContacts ["Id"])).query.SelectsPlain (schemaOf "Account") :=
    selectsPlain_accounts (by decide)
  have hbelow := allSelectPlain_accounts ["Id"]
  have ht : account.Sound schemaOf := sound_catalog "Account"
  obtain ⟨s', hnarrow⟩ := run_get_keyed ⟨(), (), []⟩
  obtain ⟨halike, hwidened⟩ := Finder.get_narrowed selects_columnStore sound_catalog ht
    (withContacts ["Id"]) hplain hbelow hnarrow
  obtain ⟨full, u', hwide⟩ := hwidened keysSelected_keyed ⟨(), (), []⟩
  exact ⟨selects_columnStore, sound_catalog, ht, hplain, hbelow, keysSelected_keyed,
    _, full, s', u', hnarrow, hwide, halike hwide⟩

/-- The account under its name alone has no contact. -/
theorem run_get_named (s : Session Unit Unit) :
    ∃ s', ((accountsBy (withContacts ["Name"])).get columnStore).run.run s =
      (.ok [(acme [("Name", .text "Acme")]).setRelation "Contacts" (.many [])], s') := by
  obtain ⟨s₁, hbare⟩ : ∃ s₁, ((accountsBy (withContacts ["Name"])).bare columnStore).run.run s =
      (.ok [acme [("Name", .text "Acme")]], s₁) :=
    selects_columnStore.run_bare (f := accountsBy (withContacts ["Name"]))
      (selectsPlain_accounts (by decide)) rfl rfl s
  have hkeyless : ¬Keyed [acme [("Name", .text "Acme")]] accountContacts.linkage.parentKey := by
    rintro ⟨p, hp, hsome⟩
    obtain rfl := List.mem_singleton.1 hp
    exact Bool.false_ne_true hsome
  have htype : (accountsBy (withContacts ["Name"])).type = account := rfl
  rw [Finder.run_get, run_loadBelow hbare, if_neg (List.cons_ne_nil _ _), forest_accounts, htype,
    run_loadForest_cons, run_loadTree_of_no_keys relation_contacts hkeyless]
  dsimp only
  rw [run_loadForest_nil]
  exact ⟨_, rfl⟩

/-- The account with all of its columns has its contact. -/
theorem run_get_whole (s : Session Unit Unit) :
    ∃ s', ((accountsBy (FinderStep.allWidened (withContacts ["Name"]))).get columnStore).run.run s =
      (.ok [(acme [("Id", .text "001"), ("Name", .text "Acme")]).setRelation "Contacts"
        (.many [ada])], s') := by
  obtain ⟨s₁, hbare⟩ := selects_columnStore.run_bare
    (f := accountsBy (FinderStep.allWidened (withContacts ["Name"])))
    (Query.selectsPlain_of_nil _ rfl) rfl rfl s
  exact run_get_contacts rfl (by cbv) rfl hbare

/-- Without the key among its columns, an account loses its contact. -/
theorem not_same_contacts :
    ¬∀ (store : Store Unit Unit) (schema : String → Schema) (rows : Endpoint → String → List Row)
      (t : ObjectType) (names : List String) (relation : String),
      store.Selects schema rows → (∀ object, (store.catalog.describe object).Sound schema) →
      t.Sound schema → names ≠ [] → (∀ n ∈ names, n ∈ (schema t.object).fieldNames) →
      let steps := [.query (.select names), .load [relation]]
      let f := ((Finder.all store.settings t).steps store.catalog steps).value
      let wide := ((Finder.all store.settings t).steps store.catalog
        (FinderStep.allWidened steps)).value
      ∀ {narrowed full : List Record} {s s' u u' : Session Unit Unit},
        (f.get store).run.run s = (.ok narrowed, s') →
        (wide.get store).run.run u = (.ok full, u') →
        List.Forall₂ (fun a b => ∃ n w, a.relation? relation = some n ∧
          b.relation? relation = some w ∧ Related.Matched (fun _ _ => True) n w) narrowed full := by
  intro h
  obtain ⟨s', hnarrow⟩ := run_get_named ⟨(), (), []⟩
  obtain ⟨u', hwide⟩ := run_get_whole ⟨(), (), []⟩
  have hsame := h columnStore schemaOf rowsOf account ["Name"] "Contacts" selects_columnStore
    sound_catalog (sound_catalog "Account") (by decide) (by decide) hnarrow hwide
  obtain ⟨⟨n, w, hn, hw, hmatched⟩, -⟩ := List.forall₂_cons.1 hsame
  rw [Record.relation?_setRelation, if_pos rfl] at hn hw
  obtain rfl := Option.some.inj hn
  obtain rfl := Option.some.inj hw
  exact nomatch hmatched

end Crm

end RecordQuery
