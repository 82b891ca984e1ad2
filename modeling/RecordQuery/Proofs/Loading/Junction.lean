import RecordQuery.Proofs.Loading.Kept

namespace RecordQuery

namespace Dictionary

/-- The records that pairs give a key. -/
def under (pairs : List (String × Record)) (key : String) : List Record :=
  pairs.filterMap fun e => if e.1 = key then some e.2 else none

theorem getD_find?_put (d : Dictionary) (key : String) (r : Record) (other : String) :
    ((d.put key r).find? other).getD [] =
      (d.find? other).getD [] ++ if key = other then [r] else [] := by
  unfold put
  rw [FieldMap.find?_insert]
  by_cases h : other = key
  · subst h
    simp
  · have hne : key ≠ other := fun heq => h heq.symm
    simp [h, hne]

theorem getD_find?_foldl (pairs : List (String × Record)) (d : Dictionary) (key : String) :
    ((pairs.foldl (fun d e => put d e.1 e.2) d).find? key).getD [] =
      (d.find? key).getD [] ++ under pairs key := by
  induction pairs generalizing d with
  | nil => simp [under]
  | cons e pairs ih =>
    rw [List.foldl_cons, ih, getD_find?_put, List.append_assoc]
    by_cases h : e.1 = key <;> simp [under, h]

/-- A key finds its records in the order of the pairs. -/
theorem getD_find?_ofPairs (pairs : List (String × Record)) (key : String) :
    ((ofPairs pairs).find? key).getD [] = under pairs key := by
  unfold ofPairs
  rw [getD_find?_foldl, FieldMap.find?_empty]
  rfl

end Dictionary

namespace Junction

def latest (field : String) (records : List Record) (key : String) : Option Record :=
  records.reverse.find? fun r => r.key field == some key

/-- The keys that the rows of a junction give a parent, in the order of the rows. -/
def linked (toParent toRelated parentKey : String) (rows : List Row) (parent : Record) :
    List String :=
  match parent.key parentKey with
  | none => []
  | some key => rows.filterMap fun row =>
    if (Row.value row toParent).joinKey = some key then (Row.value row toRelated).joinKey else none

/-- What the rows attach to a parent: for each of its keys the last record that has it. -/
def attached (relatedKey : String) (keys : List String) (results : List Record) : List Record :=
  keys.filterMap (latest relatedKey results)

/-- The records that have one of the keys, as they come. -/
def claimed (relatedKey : String) (keys : List String) (results : List Record) : List Record :=
  results.filter fun r => (r.key relatedKey).any fun key => keys.contains key

section

variable {field : String} {keys : List String} {results : List Record}

theorem lookup_keyed (field key : String) (rs : List Record) :
    (rs.filterMap fun r => (r.key field).map fun k => (k, r)).lookup key =
      rs.find? fun r => r.key field == some key := by
  induction rs with
  | nil => rfl
  | cons r rs ih =>
    cases hk : r.key field with
    | none => simp [hk, ih]
    | some k =>
      by_cases h : key = k
      · subst h
        simp [hk]
      · have hne : (key == k) = false := by simpa using h
        have hne' : (some k == some key) = false := by simpa using fun heq : k = key => h heq.symm
        simp only [List.filterMap_cons, hk, Option.map_some, List.lookup_cons, hne,
          List.find?_cons, hne', ih]

theorem key_latest {key : String} {r : Record} (h : latest field results key = some r) :
    r ∈ results ∧ r.key field = some key := by
  refine ⟨List.mem_reverse.1 (List.mem_of_find?_eq_some h), ?_⟩
  simpa using List.find?_some h

theorem exists_latest {key : String} {r : Record} (hr : r ∈ results) (hk : r.key field = some key) :
    ∃ last, latest field results key = some last := by
  cases h : latest field results key with
  | some last => exact ⟨last, rfl⟩
  | none =>
    have hno := List.find?_eq_none.1 h r (List.mem_reverse.2 hr)
    simp [hk] at hno

theorem mem_claimed {r : Record} :
    r ∈ claimed field keys results ↔ r ∈ results ∧ ∃ key ∈ keys, r.key field = some key := by
  unfold claimed
  rw [List.mem_filter]
  cases hk : r.key field with
  | none => simp
  | some key => simp

theorem mem_attached {r : Record} :
    r ∈ attached field keys results ↔ ∃ key ∈ keys, latest field results key = some r :=
  List.mem_filterMap

theorem keys_attached (keys : List String) :
    (attached field keys results).filterMap (·.key field) =
      keys.filter fun key => (latest field results key).isSome := by
  unfold attached
  induction keys with
  | nil => rfl
  | cons key keys ih =>
    cases h : latest field results key with
    | none => simp [h, ih]
    | some r => simp [h, ih, (key_latest h).2]

/-- Keys without a record attach nothing. -/
theorem attached_filter (keys : List String) :
    attached field (keys.filter fun key => (latest field results key).isSome) results =
      attached field keys results := by
  unfold attached
  induction keys with
  | nil => rfl
  | cons key keys ih => cases h : latest field results key <;> simp [h, ih]

/-- What is attached is what the keys claim just when the keys of the rows that have a record are
those of the records, each as often and in the order of the records, and no two different records
are claimed under one key. -/
theorem attached_eq_claimed_iff :
    attached field keys results = claimed field keys results ↔
      keys.filter (fun key => (latest field results key).isSome) =
        (claimed field keys results).filterMap (·.key field) ∧
      ∀ a ∈ claimed field keys results, ∀ b ∈ claimed field keys results,
        a.key field = b.key field → a = b := by
  constructor
  · intro h
    refine ⟨by rw [← h, keys_attached], fun a ha b hb hab => ?_⟩
    obtain ⟨k, -, hk⟩ := mem_attached.1 (h ▸ ha)
    obtain ⟨l, -, hl⟩ := mem_attached.1 (h ▸ hb)
    have hkl : some k = some l := (key_latest hk).2.symm.trans (hab.trans (key_latest hl).2)
    obtain rfl := Option.some.inj hkl
    exact Option.some.inj (hk.symm.trans hl)
  · rintro ⟨hkeys, hone⟩
    have hlast : ∀ r ∈ claimed field keys results,
        (r.key field).bind (latest field results) = some r := by
      intro r hr
      obtain ⟨hmem, key, hkey, hk⟩ := mem_claimed.1 hr
      obtain ⟨last, hl⟩ := exists_latest hmem hk
      have hclaimed : last ∈ claimed field keys results :=
        mem_claimed.2 ⟨(key_latest hl).1, key, hkey, (key_latest hl).2⟩
      rw [hk, Option.bind_some, hl, hone last hclaimed r hr ((key_latest hl).2.trans hk.symm)]
    calc
      attached field keys results = attached field
          (keys.filter fun key => (latest field results key).isSome) results :=
        (attached_filter keys).symm
      _ = ((claimed field keys results).filterMap (·.key field)).filterMap
          (latest field results) := by rw [hkeys, attached]
      _ = (claimed field keys results).filterMap fun r =>
          (r.key field).bind (latest field results) := List.filterMap_filterMap
      _ = (claimed field keys results).filterMap some := List.filterMap_congr hlast
      _ = claimed field keys results := List.filterMap_some

end

section

variable {b : Batch} {junction toParent toRelated parentKey relatedKey : String}

theorem under_keyed
    (hl : b.relation.linkage = .manyToMany junction toParent toRelated parentKey relatedKey)
    {parent : Record} {key : String} (hk : parent.key parentKey = some key)
    (results : List Record) :
    Dictionary.under (b.keyed results) key =
      attached relatedKey (linked toParent toRelated parentKey b.pivots parent) results := by
  unfold Batch.keyed Dictionary.under attached linked
  simp only [hl, hk, List.filterMap_filterMap]
  refine List.filterMap_congr fun row _ => ?_
  cases hp : (Row.value row toParent).joinKey with
  | none => simp
  | some above =>
    cases hr : (Row.value row toRelated).joinKey with
    | none => simp
    | some k =>
      simp only [lookup_keyed, Option.bind_eq_bind, Option.bind_some]
      change ((latest relatedKey results k).bind _).bind _ = _
      by_cases h : above = key
      · subst h
        cases hlast : latest relatedKey results k <;> simp [hlast]
      · cases latest relatedKey results k <;> simp [h]

theorem related_manyToMany
    (hl : b.relation.linkage = .manyToMany junction toParent toRelated parentKey relatedKey)
    (d : Dictionary) (parent : Record) :
    b.related d parent = .many (((parent.key parentKey).bind d.find?).getD []) := by
  unfold Batch.related
  simp only [hl, Linkage.parentKey, Linkage.isToOne]
  cases (parent.key parentKey).bind d.find? <;> rfl

/-- Through a junction a parent is related to what its rows attach. -/
theorem related_dictionary
    (hl : b.relation.linkage = .manyToMany junction toParent toRelated parentKey relatedKey)
    (results : List Record) (parent : Record) :
    b.related (b.dictionary results) parent =
      .many (attached relatedKey (linked toParent toRelated parentKey b.pivots parent)
        results) := by
  rw [related_manyToMany hl]
  cases hk : parent.key parentKey with
  | none =>
    unfold linked
    rw [hk]
    rfl
  | some key =>
    rw [← under_keyed hl hk, ← Dictionary.getD_find?_ofPairs]
    rfl

end

end Junction

namespace LoadPlan

open Junction

variable {τ σ : Type} {store : Store τ σ} {t : ObjectType} {r : Relation}
  {records records' : List Record} {s s' : Session τ σ}
  {junction toParent toRelated parentKey relatedKey : String}

/-- The batch of some records depends on their attributes alone. -/
theorem batch_congr {names : List String} (steps : List FinderStep)
    (h : List.Forall₂ (Kept names) records records') :
    batch store r steps records' = batch store r steps records := by
  unfold batch
  rw [forParents_congr (map_value_kept h _)]

/-- A tree of a relation through a junction sets the relation to what the rows that were read attach
of the results. -/
theorem loadTree_manyToMany {relation : String} {steps : List FinderStep} {below : List Tree}
    (hr : t.relation relation = .ok r)
    (hl : r.linkage = .manyToMany junction toParent toRelated parentKey relatedKey)
    (h : (loadTree store t records (.node relation steps below)).run s = (⟨records', none⟩, s')) :
    ∃ rows results,
      ReadThrough store (loadBelow store below) (batch store r steps records).value
        junction toParent toRelated relatedKey
        { s with log := s.log ++ (batch store r steps records).events } s' rows results ∧
      records' = records.map fun p => p.setRelation relation
        (.many (attached relatedKey (linked toParent toRelated parentKey rows p) results)) := by
  obtain ⟨r', results, b', hr', hb, rfl⟩ := exists_of_loadTree h
  obtain rfl : r = r' := Except.ok.inj (hr.symm.trans hr')
  obtain ⟨hrel, hread⟩ := results_manyToMany (by rw [relation_batch, hl])
    (pivots_batch r steps records) hb
  refine ⟨b'.pivots, results, hread, ?_⟩
  have hb' : b'.relation = r := by rw [hrel, relation_batch]
  rw [deal_reset hrel, relation_batch, relation_name hr]
  refine List.map_congr_left fun p _ => ?_
  rw [related_dictionary (by rw [hb', hl])]

theorem linked_congr {names : List String} (rows : List Row) {before after : Record}
    (h : Kept names before after) :
    linked toParent toRelated parentKey rows after =
      linked toParent toRelated parentKey rows before := by
  unfold linked Record.key Record.value Record.get?
  rw [h.attributes]

theorem attached_map {names : List String} {relation : String} (rows : List Row)
    (results : List Record) (h : List.Forall₂ (Kept names) records records') :
    List.Forall₂ (fun before after => after.relation? relation =
        some (.many (attached relatedKey (linked toParent toRelated parentKey rows before)
          results)))
      records (records'.map fun p => p.setRelation relation
        (.many (attached relatedKey (linked toParent toRelated parentKey rows p) results))) := by
  rw [List.forall₂_map_right_iff]
  refine h.imp fun before after hk => ?_
  rw [Record.relation?_setRelation, if_pos rfl, linked_congr rows hk]

/-- After the loading of a forest a relation through a junction leads every record to what the rows
attach to it, in the order of the rows. These are the results that the rows claim for it, in the
order of the results, just when the keys of its rows are those of the claimed results, each as often
and in their order, and no two different ones of these share a key. -/
theorem loadForest_manyToMany {done rest : List Tree} {relation : String}
    {steps : List FinderStep} {below : List Tree} (hrest : relation ∉ rest.map Tree.name)
    (hr : t.relation relation = .ok r)
    (hl : r.linkage = .manyToMany junction toParent toRelated parentKey relatedKey)
    (h : (loadForest store t records (done ++ .node relation steps below :: rest)).run s =
      (⟨records', none⟩, s')) :
    ∃ mid s₁ s₂ rows results,
      (loadForest store t records done).run s = (⟨mid, none⟩, s₁) ∧
      ReadThrough store (loadBelow store below) (batch store r steps records).value
        junction toParent toRelated relatedKey
        { s₁ with log := s₁.log ++ (batch store r steps records).events } s₂ rows results ∧
      List.Forall₂ (fun before after => after.relation? relation =
        some (.many (attached relatedKey (linked toParent toRelated parentKey rows before)
          results)))
        records records' ∧
      ∀ parent, let keys := linked toParent toRelated parentKey rows parent
        attached relatedKey keys results = claimed relatedKey keys results ↔
          keys.filter (fun key => (latest relatedKey results key).isSome) =
            (claimed relatedKey keys results).filterMap (·.key relatedKey) ∧
          ∀ a ∈ claimed relatedKey keys results, ∀ b ∈ claimed relatedKey keys results,
            a.key relatedKey = b.key relatedKey → a = b := by
  obtain ⟨mid, s₁, hdone, h⟩ := exists_of_loadForest_append h
  obtain ⟨loaded, s₂, htree, h⟩ := exists_of_loadForest_cons h
  obtain ⟨rows, results, hread, rfl⟩ := loadTree_manyToMany hr hl htree
  have hkept := loadForest_kept hdone
  rw [batch_congr steps hkept] at hread
  refine ⟨mid, s₁, s₂, rows, results, hdone, hread, ?_, fun _ => attached_eq_claimed_iff⟩
  exact forall₂_comp (fun _ _ _ heq hk => (hk.relations relation hrest).trans heq)
    (attached_map rows results hkept) (loadForest_kept h)

def members : Relation :=
  ⟨"Members", "Contact", .manyToMany "CampaignMember" "CampaignId" "ContactId" "Id" "Id"⟩

def campaigns : ObjectType := ⟨"Campaign", "Id", [members]⟩

def memberStore : Store (List Page) Unit :=
  .scripted (fun object => .ok ⟨object, [("Id", .text)]⟩) ⟨[campaigns]⟩

def campaign : Record := .ofAttributes "Campaign" [("Id", .text "701")]

def contact (id : String) : Record := .ofAttributes "Contact" [("Id", .text id)]

/-- The second contact comes before the first, and the first comes twice. -/
def memberRows : List Row := [
  [("CampaignId", .text "701"), ("ContactId", .text "C2")],
  [("CampaignId", .text "701"), ("ContactId", .text "C1")],
  [("CampaignId", .text "701"), ("ContactId", .text "C1")]]

def memberAnswers : Session (List Page) Unit :=
  ⟨[⟨memberRows, true, none, none⟩,
    ⟨[[("Id", .text "C1")], [("Id", .text "C2")]], true, none, none⟩], (), []⟩

/-- The session after the members of the campaign have been loaded. -/
def membersRead : Session (List Page) Unit :=
  ((loadForest memberStore campaigns [campaign] [.node "Members" [] []]).run memberAnswers).2

theorem loadForest_members :
    (loadForest memberStore campaigns [campaign] ([] ++ .node "Members" [] [] :: [])).run
      memberAnswers =
      (⟨[campaign.setRelation "Members" (.many [contact "C2", contact "C1", contact "C1"])], none⟩,
        membersRead) :=
  Prod.ext (by with_unfolding_all rfl) rfl

theorem readThrough_members :
    ReadThrough memberStore (loadBelow memberStore [])
      (batch memberStore members [] [campaign]).value "CampaignMember" "CampaignId" "ContactId" "Id"
      memberAnswers membersRead memberRows [contact "C1", contact "C2"] := by
  refine .inr ⟨_, Prod.ext ?rows rfl, .inr (Prod.ext ?results ?session)⟩
  case rows => with_unfolding_all rfl
  case results => with_unfolding_all rfl
  case session => with_unfolding_all rfl

/-- The campaign has its members in the order of the rows, the first contact twice. -/
theorem attached_members :
    "Members" ∉ ([] : List Tree).map Tree.name ∧
    campaigns.relation "Members" = .ok members ∧
    members.linkage = .manyToMany "CampaignMember" "CampaignId" "ContactId" "Id" "Id" ∧
    (loadForest memberStore campaigns [campaign] ([] ++ .node "Members" [] [] :: [])).run
      memberAnswers =
      (⟨[campaign.setRelation "Members" (.many [contact "C2", contact "C1", contact "C1"])], none⟩,
        membersRead) ∧
    ∃ rows results, List.Forall₂ (fun before after => after.relation? "Members" =
        some (.many (attached "Id" (linked "CampaignId" "ContactId" "Id" rows before) results)))
      [campaign]
      [campaign.setRelation "Members" (.many [contact "C2", contact "C1", contact "C1"])] := by
  obtain ⟨_, _, _, rows, results, _, _, hset, _⟩ :=
    loadForest_manyToMany (by simp) rfl rfl loadForest_members
  exact ⟨by simp, rfl, rfl, loadForest_members, rows, results, hset⟩

theorem not_claimed_members :
    ¬∀ (records records' : List Record) (s s₂ s' : Session (List Page) Unit) (rows : List Row)
        (results : List Record),
      (loadForest memberStore campaigns records [.node "Members" [] []]).run s =
        (⟨records', none⟩, s') →
      ReadThrough memberStore (loadBelow memberStore [])
        (batch memberStore members [] records).value "CampaignMember" "CampaignId" "ContactId" "Id"
        { s with log := s.log ++ (batch memberStore members [] records).events } s₂ rows results →
      List.Forall₂ (fun before after => after.relation? "Members" =
          some (.many (claimed "Id" (linked "CampaignId" "ContactId" "Id" rows before) results)))
        records records' := by
  intro h
  cases h [campaign] _ memberAnswers membersRead membersRead memberRows _ loadForest_members
    readThrough_members with
  | cons hclaimed _ =>
    exact nomatch congrArg (Option.map fun x => x.records.length) hclaimed

end LoadPlan

end RecordQuery
