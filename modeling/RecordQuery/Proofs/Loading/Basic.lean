import RecordQuery.Finder.Run
import RecordQuery.Proofs.Fields
import RecordQuery.Proofs.Session

namespace RecordQuery.LoadPlan

variable {τ σ : Type} {store : Store τ σ}

def loadBelow (store : Store τ σ) (below : List Tree) (f : Finder) : Task τ σ (List Record) := do
  let related ← f.bare store
  if related.isEmpty then return related
  let loaded ← Task.always (loadForest store f.type related below)
  match loaded.fault with
  | some fault => throw fault
  | none => return loaded.records

def batch (store : Store τ σ) (r : Relation) (steps : List FinderStep) (records : List Record) :
    Traced Batch :=
  ((Batch.new store.catalog store.settings r).forParents records).steps store.catalog steps

/-- The query of a batch depends on the keys of the parents alone. -/
theorem forParents_congr {b : Batch} {parents parents' : List Record}
    (h : parents'.map (fun p => p.value b.relation.linkage.parentKey) =
      parents.map fun p => p.value b.relation.linkage.parentKey) :
    b.forParents parents' = b.forParents parents := by
  unfold Batch.forParents
  rw [h]

theorem relation_batch (r : Relation) (steps : List FinderStep) (records : List Record) :
    (batch store r steps records).value.relation = r := by
  cases hl : r.linkage <;> simp only [batch, Batch.forParents, Batch.new, hl] <;> rfl

theorem pivots_batch (r : Relation) (steps : List FinderStep) (records : List Record) :
    (batch store r steps records).value.pivots = [] := by
  cases hl : r.linkage <;> simp only [batch, Batch.forParents, Batch.new, hl] <;> rfl

theorem reset_batch (r : Relation) (steps : List FinderStep) (records : List Record) :
    (batch store r steps records).value.reset records =
      records.map fun p => p.setRelation r.name (.nothing r.linkage.isToOne) := by
  unfold Batch.reset
  rw [relation_batch]

/-- What is dealt out takes the place of the reset. -/
theorem deal_reset {b b' : Batch} (hb : b'.relation = b.relation) (d : Dictionary)
    (records : List Record) :
    b'.deal d (b.reset records) =
      records.map fun p => p.setRelation b.relation.name (b'.related d p) := by
  unfold Batch.deal Batch.reset
  rw [List.map_map, hb]
  refine List.map_congr_left fun p _ => ?_
  rw [Function.comp_apply, Record.setRelation_setRelation]
  rfl

/-- The batch whose query selects the key that results are dealt out by. -/
def ensured (b : Batch) (relatedKey : String) : Batch :=
  { b with finder := b.finder.mapQuery (·.ensureSelected relatedKey) }

def junctionQuery (b : Batch) (junction toParent toRelated : String) : Query :=
  ((b.finder.query.renewed.about junction).select [toParent, toRelated]).require
    (.isIn toParent b.keys)

def junctionKeys (toRelated : String) (rows : List Row) : List Value :=
  distinctKeys (rows.map fun row => Row.value row toRelated)

/-- How the rows of a junction and the related records of a batch were read: not at all when there
are no keys to ask with, else the rows first, and then the records that they point at, if they point
at any. -/
def ReadThrough (store : Store τ σ) (get : Finder → Task τ σ (List Record)) (b : Batch)
    (junction toParent toRelated relatedKey : String) (s s' : Session τ σ) (rows : List Row)
    (results : List Record) : Prop :=
  b.keys.isEmpty ∧ rows = [] ∧ results = [] ∨
    ∃ s₁, ((junctionQuery (ensured b relatedKey) junction toParent toRelated).run store).run.run s =
        (.ok rows, s₁) ∧
      let s₂ := { s₁ with log := s₁.log ++ [.joined b.relation.name rows.length] }
      (junctionKeys toRelated rows = [] ∧ results = [] ∧ s' = s₂ ∨
        (get ((ensured b relatedKey).finder.mapQuery
          (·.require (.isIn relatedKey (junctionKeys toRelated rows))))).run.run s₂ =
            (.ok results, s'))

section

variable {get : Finder → Task τ σ (List Record)} {b : Batch}
  {junction toParent toRelated parentKey relatedKey : String}

theorem run_results_of_no_keys (hk : b.keys = []) (s : Session τ σ) :
    (b.results store get).run.run s = (.ok ([], b), s) := by
  unfold Batch.results
  rw [if_pos (by rw [hk]; rfl)]
  rfl

/-- With keys the related records are asked for, at once if there is no junction. -/
theorem run_results_direct (hl : ∀ junction toParent toRelated parentKey relatedKey,
      b.relation.linkage ≠ .manyToMany junction toParent toRelated parentKey relatedKey)
    (hk : b.keys ≠ []) (s : Session τ σ) :
    (b.results store get).run.run s =
      match (get (ensured b b.relation.linkage.relatedKey).finder).run.run s with
      | (.error fault, s') => (.error fault, s')
      | (.ok results, s') => (.ok (results, ensured b b.relation.linkage.relatedKey), s') := by
  unfold Batch.results
  rw [if_neg (mt List.isEmpty_iff.1 hk)]
  dsimp only
  split
  · rename_i junction toParent toRelated parentKey relatedKey heq
    exact absurd heq (hl junction toParent toRelated parentKey relatedKey)
  · rcases hget : (get (ensured b b.relation.linkage.relatedKey).finder).run.run s with
      ⟨_ | results, s'⟩
    · exact Task.run_bind_error hget _
    · exact Task.run_bind_ok hget _

/-- With keys the rows of the junction are read, and then the records that they point at, unless
they point at none. -/
theorem run_results_joined
    (hl : b.relation.linkage = .manyToMany junction toParent toRelated parentKey relatedKey)
    (hk : b.keys ≠ []) (s : Session τ σ) :
    (b.results store get).run.run s =
      match ((junctionQuery (ensured b relatedKey) junction toParent toRelated).run store).run.run s
      with
      | (.error fault, s') => (.error fault, s')
      | (.ok rows, s') =>
        let read := { ensured b relatedKey with pivots := rows }
        let s' := { s' with log := s'.log ++ [.joined b.relation.name rows.length] }
        if junctionKeys toRelated rows = [] then (.ok ([], read), s')
        else
          match (get ((ensured b relatedKey).finder.mapQuery
            (·.require (.isIn relatedKey (junctionKeys toRelated rows))))).run.run s' with
          | (.error fault, s') => (.error fault, s')
          | (.ok results, s') => (.ok (results, read), s') := by
  unfold Batch.results
  rw [if_neg (mt List.isEmpty_iff.1 hk)]
  simp only [hl]
  rcases hrows : ((junctionQuery (ensured b relatedKey) junction toParent toRelated).run
    store).run.run s with ⟨_ | rows, s₁⟩
  · exact Task.run_bind_error hrows _
  · refine (Task.run_bind_ok hrows _).trans ?_
    have hkeys : distinctKeys (rows.map fun row => Row.value row toRelated) =
        junctionKeys toRelated rows := rfl
    rw [Task.run_bind_ok (Task.run_emit _ s₁), hkeys]
    dsimp only
    by_cases hnone : junctionKeys toRelated rows = []
    · rw [if_pos hnone, if_pos (List.isEmpty_iff.2 hnone)]
      rfl
    · rw [if_neg hnone, if_neg (mt List.isEmpty_iff.1 hnone)]
      rcases hget : (get ((ensured b relatedKey).finder.mapQuery
        (·.require (.isIn relatedKey (junctionKeys toRelated rows))))).run.run _ with
        ⟨_ | results, s₂⟩
      · exact Task.run_bind_error hget _
      · exact Task.run_bind_ok hget _

end

theorem results_joined {get : Finder → Task τ σ (List Record)} {b b' : Batch}
    {junction toParent toRelated parentKey relatedKey : String} {results : List Record}
    {s s' : Session τ σ}
    (hl : b.relation.linkage = .manyToMany junction toParent toRelated parentKey relatedKey)
    (hk : b.keys ≠ []) (h : (b.results store get).run.run s = (.ok (results, b'), s')) :
    b'.relation = b.relation ∧
    ∃ s₁, ((junctionQuery (ensured b relatedKey) junction toParent toRelated).run store).run.run s =
        (.ok b'.pivots, s₁) ∧
      let s₂ := { s₁ with log := s₁.log ++ [.joined b.relation.name b'.pivots.length] }
      if junctionKeys toRelated b'.pivots = [] then results = [] ∧ s' = s₂
      else (get ((ensured b relatedKey).finder.mapQuery
        (·.require (.isIn relatedKey (junctionKeys toRelated b'.pivots))))).run.run s₂ =
          (.ok results, s') := by
  rw [run_results_joined hl hk] at h
  split at h
  · exact nomatch congrArg Prod.fst h
  · rename_i rows s₁ hrows
    dsimp only at h
    by_cases hnone : junctionKeys toRelated rows = []
    · rw [if_pos hnone] at h
      obtain ⟨⟨⟨rfl, rfl⟩⟩, rfl⟩ := h
      refine ⟨rfl, s₁, hrows, ?_⟩
      dsimp only
      rw [if_pos hnone]
      exact ⟨rfl, rfl⟩
    · rw [if_neg hnone] at h
      split at h
      · exact nomatch congrArg Prod.fst h
      · rename_i found s₂ hget
        obtain ⟨⟨⟨rfl, rfl⟩⟩, rfl⟩ := h
        refine ⟨rfl, s₁, hrows, ?_⟩
        dsimp only
        rw [if_neg hnone]
        exact hget

theorem results_manyToMany {get : Finder → Task τ σ (List Record)} {b b' : Batch}
    {junction toParent toRelated parentKey relatedKey : String} {results : List Record}
    {s s' : Session τ σ}
    (hl : b.relation.linkage = .manyToMany junction toParent toRelated parentKey relatedKey)
    (hpivots : b.pivots = []) (h : (b.results store get).run.run s = (.ok (results, b'), s')) :
    b'.relation = b.relation ∧
      ReadThrough store get b junction toParent toRelated relatedKey s s' b'.pivots results := by
  by_cases hk : b.keys = []
  · rw [run_results_of_no_keys hk] at h
    obtain ⟨⟨⟨rfl, rfl⟩⟩, rfl⟩ := h
    exact ⟨rfl, .inl ⟨List.isEmpty_iff.2 hk, hpivots, rfl⟩⟩
  · obtain ⟨hrelation, s₁, hrows, hread⟩ := results_joined hl hk h
    refine ⟨hrelation, .inr ⟨s₁, hrows, ?_⟩⟩
    split at hread
    · rename_i hnone
      exact .inl ⟨hnone, hread⟩
    · exact .inr hread

/-- Without a junction the related records are asked for at once. -/
theorem results_direct {get : Finder → Task τ σ (List Record)} {b b' : Batch}
    {results : List Record} {s s' : Session τ σ}
    (hl : ∀ junction toParent toRelated parentKey relatedKey,
      b.relation.linkage ≠ .manyToMany junction toParent toRelated parentKey relatedKey)
    (h : (b.results store get).run.run s = (.ok (results, b'), s')) :
    b.keys.isEmpty ∧ results = [] ∧ b' = b ∨
      (get (ensured b b.relation.linkage.relatedKey).finder).run.run s = (.ok results, s') ∧
        b' = ensured b b.relation.linkage.relatedKey := by
  by_cases hk : b.keys = []
  · rw [run_results_of_no_keys hk] at h
    obtain ⟨⟨⟨rfl, rfl⟩⟩, rfl⟩ := h
    exact .inl ⟨List.isEmpty_iff.2 hk, rfl, rfl⟩
  · rw [run_results_direct hl hk] at h
    split at h
    · exact nomatch congrArg Prod.fst h
    · rename_i found s₁ hget
      obtain ⟨⟨⟨rfl, rfl⟩⟩, rfl⟩ := h
      exact .inr ⟨hget, rfl⟩

/-- Asking for the related records leaves the relation of the batch as it is. -/
theorem relation_results {get : Finder → Task τ σ (List Record)} {b b' : Batch}
    {results : List Record} {s s' : Session τ σ} (hpivots : b.pivots = [])
    (h : (b.results store get).run.run s = (.ok (results, b'), s')) :
    b'.relation = b.relation := by
  cases hl : b.relation.linkage with
  | manyToMany junction toParent toRelated parentKey relatedKey =>
    exact (results_manyToMany hl hpivots h).1
  | _ =>
    obtain ⟨-, -, rfl⟩ | ⟨-, rfl⟩ := results_direct (by simp [hl]) h <;> rfl

theorem run_loadForest_nil (t : ObjectType) (records : List Record) (s : Session τ σ) :
    (loadForest store t records []).run s = (⟨records, none⟩, s) := by
  rw [loadForest]
  rfl

/-- A forest is loaded tree by tree up to the first fault. -/
theorem run_loadForest_cons (t : ObjectType) (records : List Record) (tree : Tree)
    (rest : List Tree) (s : Session τ σ) :
    (loadForest store t records (tree :: rest)).run s =
      match (loadTree store t records tree).run s with
      | (⟨records, some fault⟩, s') => (⟨records, some fault⟩, s')
      | (⟨records, none⟩, s') => (loadForest store t records rest).run s' := by
  rw [loadForest, StateT.run_bind]
  rcases (loadTree store t records tree).run s with ⟨⟨records, _ | fault⟩, s'⟩ <;> rfl

theorem run_loadForest_append (t : ObjectType) (records : List Record) (done rest : List Tree)
    (s : Session τ σ) :
    (loadForest store t records (done ++ rest)).run s =
      match (loadForest store t records done).run s with
      | (⟨records, some fault⟩, s') => (⟨records, some fault⟩, s')
      | (⟨records, none⟩, s') => (loadForest store t records rest).run s' := by
  induction done generalizing records s with
  | nil => rw [List.nil_append, run_loadForest_nil]
  | cons tree done ih =>
    rw [List.cons_append, run_loadForest_cons, run_loadForest_cons]
    rcases (loadTree store t records tree).run s with ⟨⟨records, _ | fault⟩, s'⟩
    · exact ih records s'
    · rfl

/-- A forest that is loaded was loaded in both of its parts. -/
theorem exists_of_loadForest_append {t : ObjectType} {records records' : List Record}
    {done rest : List Tree} {s s' : Session τ σ}
    (h : (loadForest store t records (done ++ rest)).run s = (⟨records', none⟩, s')) :
    ∃ mid s₁, (loadForest store t records done).run s = (⟨mid, none⟩, s₁) ∧
      (loadForest store t mid rest).run s₁ = (⟨records', none⟩, s') := by
  rw [run_loadForest_append] at h
  split at h
  · exact nomatch congrArg (fun x => x.1.fault) h
  · rename_i mid s₁ hdone
    exact ⟨mid, s₁, hdone, h⟩

theorem exists_of_loadForest_cons {t : ObjectType} {records records' : List Record} {tree : Tree}
    {rest : List Tree} {s s' : Session τ σ}
    (h : (loadForest store t records (tree :: rest)).run s = (⟨records', none⟩, s')) :
    ∃ mid s₁, (loadTree store t records tree).run s = (⟨mid, none⟩, s₁) ∧
      (loadForest store t mid rest).run s₁ = (⟨records', none⟩, s') := by
  rw [run_loadForest_cons] at h
  split at h
  · exact nomatch congrArg (fun x => x.1.fault) h
  · rename_i mid s₁ htree
    exact ⟨mid, s₁, htree, h⟩

/-- Related records are asked for what is below them, if there are any. -/
theorem run_loadBelow {f : Finder} {below : List Tree} {found : List Record} {s s₁ : Session τ σ}
    (h : (f.bare store).run.run s = (.ok found, s₁)) :
    (loadBelow store below f).run.run s =
      if found = [] then (.ok [], s₁)
      else
        match (loadForest store f.type found below).run s₁ with
        | (⟨_, some fault⟩, s') => (.error fault, s')
        | (⟨records, none⟩, s') => (.ok records, s') := by
  rw [loadBelow, Task.run_bind_ok h]
  by_cases hnone : found = []
  · rw [if_pos hnone, if_pos (List.isEmpty_iff.2 hnone), hnone]
    rfl
  · rw [if_neg hnone, if_neg (mt List.isEmpty_iff.1 hnone)]
    rcases hloaded : (loadForest store f.type found below).run s₁ with ⟨⟨records, _ | fault⟩, s'⟩
    · rw [Task.run_bind_ok (Task.run_always hloaded)]
      rfl
    · rw [Task.run_bind_ok (Task.run_always hloaded)]
      rfl

theorem exists_of_loadBelow {f : Finder} {below : List Tree} {results : List Record}
    {s s' : Session τ σ} (h : (loadBelow store below f).run.run s = (.ok results, s')) :
    ∃ found s₁, (f.bare store).run.run s = (.ok found, s₁) ∧
      if found = [] then results = []
      else (loadForest store f.type found below).run s₁ = (⟨results, none⟩, s') := by
  obtain ⟨found, s₁, hfound, -⟩ := Task.exists_of_run_bind h
  refine ⟨found, s₁, hfound, ?_⟩
  rw [run_loadBelow hfound] at h
  by_cases hnone : found = []
  · rw [if_pos hnone] at h ⊢
    exact (Except.ok.inj (congrArg Prod.fst h)).symm
  · rw [if_neg hnone] at h ⊢
    split at h
    · exact nomatch congrArg Prod.fst h
    · rename_i records s₂ hloaded
      obtain ⟨⟨rfl⟩, rfl⟩ := h
      exact hloaded

/-- A relation is reset before its batch is asked for, and dealt out after that. -/
theorem run_loadTree (t : ObjectType) (records : List Record) (relation : String)
    (steps : List FinderStep) (below : List Tree) (s : Session τ σ) :
    (loadTree store t records (.node relation steps below)).run s =
      match t.relation relation with
      | .error fault => (⟨records, some fault⟩, s)
      | .ok r =>
        let b := batch store r steps records
        match (b.value.results store (loadBelow store below)).run.run
            { s with log := s.log ++ b.events } with
        | (.error fault, s') => (⟨b.value.reset records, some fault⟩, s')
        | (.ok (results, b'), s') =>
          (⟨b'.deal (b'.dictionary results) (b.value.reset records), none⟩, s') := by
  rw [loadTree]
  cases t.relation relation with
  | error fault => rfl
  | ok r =>
    rw [StateT.run_bind, Session.run_trace]
    change (((batch store r steps records).value.results store (loadBelow store below)).run >>=
      _).run { s with log := s.log ++ (batch store r steps records).events } = _
    rw [StateT.run_bind]
    dsimp only
    rcases ((batch store r steps records).value.results store (loadBelow store below)).run.run _
      with ⟨_ | ⟨results, b'⟩, s'⟩ <;> rfl

/-- A tree that is loaded is one of a relation of the type, and its results were dealt out. -/
theorem exists_of_loadTree {t : ObjectType} {records records' : List Record} {relation : String}
    {steps : List FinderStep} {below : List Tree} {s s' : Session τ σ}
    (h : (loadTree store t records (.node relation steps below)).run s = (⟨records', none⟩, s')) :
    ∃ r results b', t.relation relation = .ok r ∧
      ((batch store r steps records).value.results store (loadBelow store below)).run.run
          { s with log := s.log ++ (batch store r steps records).events } =
        (.ok (results, b'), s') ∧
      records' = b'.deal (b'.dictionary results)
        ((batch store r steps records).value.reset records) := by
  rw [run_loadTree] at h
  cases hr : t.relation relation with
  | error cause =>
    rw [hr] at h
    exact nomatch congrArg (fun x => x.1.fault) h
  | ok r =>
    rw [hr] at h
    dsimp only at h
    split at h
    · exact nomatch congrArg (fun x => x.1.fault) h
    · rename_i results b' s₁ hb
      obtain ⟨⟨rfl, -⟩, rfl⟩ := h
      exact ⟨r, results, b', rfl, hb, rfl⟩

end RecordQuery.LoadPlan
