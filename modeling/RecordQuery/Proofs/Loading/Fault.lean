import RecordQuery.Proofs.Loading.Kept

namespace RecordQuery.LoadPlan

variable {τ σ : Type} {store : Store τ σ} {t : ObjectType} {records records' : List Record}
  {s s' : Session τ σ} {fault : Fault}

/-- A fault leaves the records as they were if there is no such relation, and with the relation
reset if there is one. -/
theorem loadTree_fault {relation : String} {steps : List FinderStep} {below : List Tree}
    (h : (loadTree store t records (.node relation steps below)).run s =
      (⟨records', some fault⟩, s')) :
    t.relation relation = .error fault ∧ records' = records ∨
      ∃ r, t.relation relation = .ok r ∧ records' = records.map fun p =>
        p.setRelation relation (.nothing r.linkage.isToOne) := by
  rw [run_loadTree] at h
  cases hr : t.relation relation with
  | error cause =>
    rw [hr] at h
    obtain ⟨⟨rfl, ⟨rfl⟩⟩, rfl⟩ := h
    exact .inl ⟨rfl, rfl⟩
  | ok r =>
    rw [hr] at h
    dsimp only at h
    split at h
    · obtain ⟨⟨rfl, ⟨rfl⟩⟩, rfl⟩ := h
      refine .inr ⟨r, rfl, ?_⟩
      rw [reset_batch, relation_name hr]
    · exact nomatch congrArg (fun x => x.1.fault) h

/-- A fault of a forest is the fault of one of its trees, and those before it are loaded. -/
theorem loadForest_fault {forest : List Tree}
    (h : (loadForest store t records forest).run s = (⟨records', some fault⟩, s')) :
    ∃ done tree rest mid s₁, forest = done ++ tree :: rest ∧
      (loadForest store t records done).run s = (⟨mid, none⟩, s₁) ∧
      (loadTree store t mid tree).run s₁ = (⟨records', some fault⟩, s') := by
  induction forest generalizing records s with
  | nil =>
    rw [run_loadForest_nil] at h
    exact nomatch congrArg (fun x => x.1.fault) h
  | cons tree rest ih =>
    rw [run_loadForest_cons] at h
    split at h
    · rename_i hf
      obtain ⟨⟨rfl, ⟨rfl⟩⟩, rfl⟩ := h
      exact ⟨[], tree, rest, records, s, rfl, run_loadForest_nil t records s, hf⟩
    · rename_i mid s₁ hm
      obtain ⟨done, failed, rest, mid', s₂, rfl, hdone, hf⟩ := ih h
      refine ⟨tree :: done, failed, rest, mid', s₂, rfl, ?_, hf⟩
      rw [run_loadForest_cons, hm]
      exact hdone

/-- What a fault at a relation leaves of a record when other relations were loaded before it. The
relation leads to nothing, as if it had been loaded, unless the type does not have it. -/
structure Left (t : ObjectType) (loaded : List String) (failed : String) (before after : Record) :
    Prop where
  kept : Kept (failed :: loaded) before after
  declared : ∀ r, t.relation failed = .ok r →
    after.relation? failed = some (.nothing r.linkage.isToOne)
  undeclared : ∀ cause, t.relation failed = .error cause →
    after.relation? failed = before.relation? failed

theorem left_of_loadTree {loaded : List String} {mid : List Record} {relation : String}
    {steps : List FinderStep} {below : List Tree} (hnot : relation ∉ loaded)
    (hloaded : List.Forall₂ (Kept loaded) records mid)
    (h : (loadTree store t mid (.node relation steps below)).run s = (⟨records', some fault⟩, s')) :
    List.Forall₂ (Left t loaded relation) records records' := by
  obtain ⟨hr, rfl⟩ | ⟨r, hr, rfl⟩ := loadTree_fault h
  · refine hloaded.imp fun before after hk => ⟨hk.mono (by simp), fun r h => ?_, fun _ _ => ?_⟩
    · exact nomatch hr.symm.trans h
    · exact hk.relations relation hnot
  · rw [List.forall₂_map_right_iff]
    refine hloaded.imp fun before after hk => ⟨?_, fun r' h => ?_, fun cause h => ?_⟩
    · exact (hk.mono (by simp)).trans ((Kept.setRelation after relation _).mono (by simp))
    · obtain rfl := Except.ok.inj (hr.symm.trans h)
      rw [Record.relation?_setRelation, if_pos rfl]
    · exact nomatch hr.symm.trans h

/-- What was not loaded is as before just when the relation that failed is one the type does not
have, or led to nothing on every record already. -/
theorem untouched_iff {loaded : List String} {relation : String} (hnot : relation ∉ loaded)
    (h : List.Forall₂ (Left t loaded relation) records records') :
    (∀ name, name ∉ loaded → List.Forall₂ (fun before after =>
        after.relation? name = before.relation? name) records records') ↔
      ∀ r, t.relation relation = .ok r →
        ∀ before ∈ records, before.relation? relation = some (.nothing r.linkage.isToOne) := by
  constructor
  · intro hsame r hr
    have hboth : List.Forall₂ (fun before _ =>
        before.relation? relation = some (.nothing r.linkage.isToOne) ∧ True) records records' :=
      h.mp (fun before after hl heq => ⟨heq ▸ hl.declared r hr, trivial⟩) (hsame relation hnot)
    exact ((List.forall₂_and_left _ _).1 hboth).1
  · intro hnothing name hname
    by_cases heq : name = relation
    · subst heq
      cases hr : t.relation name with
      | error cause => exact h.imp fun before after hl => hl.undeclared cause hr
      | ok r =>
        refine ((List.forall₂_and_left _ _).2 ⟨hnothing r hr, h⟩).imp fun before after hl => ?_
        rw [hl.1, hl.2.declared r hr]
    · exact h.imp fun before after hl => hl.kept.relations name (by simp [heq, hname])

/-- Once a relation has been loaded, asking a record for it asks nothing of the store. -/
theorem load_of_relation? {after : Record} {relation : String} {related : Related Record}
    (h : after.relation? relation = some related) (s : Session τ σ) :
    (after.load store t relation).run s = ((.ok related, after), s) := by
  unfold Record.load
  rw [h]
  rfl

end RecordQuery.LoadPlan

namespace RecordQuery.Finder

open LoadPlan

variable {τ σ : Type} {store : Store τ σ} {f : Finder} {records records' : List Record}
  {s s' : Session τ σ} {fault : Fault}

/-- A fault comes from one relation of the plan. Those before it are loaded, and nothing else of a
record changes except that the one that failed was reset: it now leads to nothing, and stays so for
whoever asks later. Only a relation that the type lacks, or that led to nothing on all records
before, is left as it was. -/
theorem loadRelations_fault (hpaths : f.plan.paths.Nodup)
    (h : (f.loadRelations store records).run s = (⟨records', some fault⟩, s')) :
    ∃ done relation steps below rest mid s₁,
      f.plan.forest = done ++ .node relation steps below :: rest ∧
      (loadForest store f.type records done).run s = (⟨mid, none⟩, s₁) ∧
      (loadTree store f.type mid (.node relation steps below)).run s₁ =
        (⟨records', some fault⟩, s') ∧
      List.Forall₂ (Left f.type (done.map Tree.name) relation) records records' ∧
      (∀ r after (later : Session τ σ), f.type.relation relation = .ok r → after ∈ records' →
        (after.load store f.type relation).run later =
          ((.ok (.nothing r.linkage.isToOne), after), later)) ∧
      ((∀ name, name ∉ done.map Tree.name → List.Forall₂ (fun before after =>
          after.relation? name = before.relation? name) records records') ↔
        ∀ r, f.type.relation relation = .ok r →
          ∀ before ∈ records, before.relation? relation = some (.nothing r.linkage.isToOne)) := by
  have hforest : (loadForest store f.type records f.plan.forest).run s =
      (⟨records', some fault⟩, s') := by
    unfold loadRelations load at h
    split at h
    · exact nomatch congrArg (fun x => x.1.fault) h
    · exact h
  obtain ⟨done, ⟨relation, steps, below⟩, rest, mid, s₁, hsplit, hdone, hfailed⟩ :=
    loadForest_fault hforest
  have hnot : relation ∉ done.map Tree.name := by
    have hnodup := nodup_forest hpaths
    rw [hsplit, List.map_append, List.map_cons] at hnodup
    exact fun hmem => (List.nodup_append.1 hnodup).2.2 _ hmem _ List.mem_cons_self rfl
  have hleft := left_of_loadTree hnot (loadForest_kept hdone) hfailed
  refine ⟨done, relation, steps, below, rest, mid, s₁, hsplit, hdone, hfailed, hleft, ?_,
    untouched_iff hnot hleft⟩
  intro r after later hr hmem
  have hreset : List.Forall₂ (fun after _ =>
      after.relation? relation = some (.nothing r.linkage.isToOne) ∧ True) records' records :=
    (hleft.imp fun _ _ hl => ⟨hl.declared r hr, trivial⟩).flip
  exact load_of_relation? (((List.forall₂_and_left _ _).1 hreset).1 after hmem) later

def accounts : ObjectType :=
  ⟨"Account", "Id", [⟨"Contacts", "Contact", .hasMany "AccountId" "Id"⟩]⟩

def withContacts : Finder := ⟨accounts, Settings.default.table "Account", ⟨[("Contacts", [])]⟩⟩

def undescribed : Store (List Page) Unit :=
  .scripted (fun object => .error (.schemaUnavailable object)) ⟨[accounts]⟩

def account : Record := .ofAttributes "Account" [("Id", .text "001")]

theorem forest_withContacts : withContacts.plan.forest = [.node "Contacts" [] []] := by
  have hchild : withContacts.plan.child "Contacts" [] = ⟨[]⟩ := rfl
  have hempty : forest ⟨[]⟩ = [] := forest_eq ⟨[]⟩
  rw [forest_eq]
  change [LoadPlan.Tree.node "Contacts" [] (withContacts.plan.child "Contacts" []).forest] = _
  rw [hchild, hempty]

theorem nodup_withContacts : withContacts.plan.paths.Nodup := List.nodup_singleton "Contacts"

theorem loadTree_undescribed :
    (loadTree undescribed accounts [account] (.node "Contacts" [] [])).run ⟨[], (), []⟩ =
      (⟨[account.setRelation "Contacts" (.many [])], some (.schemaUnavailable "Contact")⟩,
        ⟨[], (), []⟩) := by
  rw [run_loadTree]
  rfl

theorem loadRelations_undescribed :
    (withContacts.loadRelations undescribed [account]).run ⟨[], (), []⟩ =
      (⟨[account.setRelation "Contacts" (.many [])], some (.schemaUnavailable "Contact")⟩,
        ⟨[], (), []⟩) := by
  change (loadForest undescribed accounts [account] withContacts.plan.forest).run _ = _
  rw [forest_withContacts, run_loadForest_cons, loadTree_undescribed]

/-- Without a description of contacts the account is left with none of them. -/
theorem left_of_undescribed :
    withContacts.plan.paths.Nodup ∧
    (withContacts.loadRelations undescribed [account]).run ⟨[], (), []⟩ =
      (⟨[account.setRelation "Contacts" (.many [])], some (.schemaUnavailable "Contact")⟩,
        ⟨[], (), []⟩) ∧
    ∃ done relation steps below rest,
      withContacts.plan.forest = done ++ .node relation steps below :: rest ∧
      List.Forall₂ (Left accounts (done.map Tree.name) relation) [account]
        [account.setRelation "Contacts" (.many [])] := by
  obtain ⟨done, relation, steps, below, rest, _, _, hsplit, _, _, hleft, _⟩ :=
    loadRelations_fault nodup_withContacts loadRelations_undescribed
  exact ⟨nodup_withContacts, loadRelations_undescribed, done, relation, steps, below, rest, hsplit,
    hleft⟩

theorem not_kept_by_fault :
    ¬∀ (f : Finder) (records records' : List Record) (fault : Fault)
        (s s' : Session (List Page) Unit), f.plan.paths.Nodup →
      (f.loadRelations undescribed records).run s = (⟨records', some fault⟩, s') →
      ∀ done tree rest mid s₁, f.plan.forest = done ++ tree :: rest →
        (loadForest undescribed f.type records done).run s = (⟨mid, none⟩, s₁) →
        (loadTree undescribed f.type mid tree).run s₁ = (⟨records', some fault⟩, s') →
        ∀ name, name ∉ done.map Tree.name → List.Forall₂ (fun before after =>
          after.relation? name = before.relation? name) records records' := by
  intro h
  have hsame := h withContacts _ _ _ _ _ nodup_withContacts loadRelations_undescribed [] _ [] _ _
    forest_withContacts (run_loadForest_nil _ _ _) loadTree_undescribed "Contacts" (by simp)
  cases hsame with
  | cons hcontacts _ => exact nomatch hcontacts

end RecordQuery.Finder
