import RecordQuery.Proofs.Loading.Alone
import RecordQuery.Proofs.Pages.Delivery

namespace RecordQuery

variable {τ σ : Type} {store : Store τ σ}

/-- Some record has a key in a field. -/
def Keyed (records : List Record) (field : String) : Prop := ∃ p ∈ records, (p.key field).isSome

theorem distinctKeys_go_eq_nil {seen : List String} {values : List Value} :
    distinctKeys.go seen values = [] ↔
      ∀ v ∈ values, ∀ key, v.joinKey = some key → key ∈ seen := by
  induction values with
  | nil => simp [distinctKeys.go]
  | cons v values ih =>
    rw [distinctKeys.go, List.forall_mem_cons]
    cases hkey : v.joinKey with
    | none => simp [ih]
    | some key =>
      by_cases hseen : key ∈ seen
      · simp [hseen, ih]
      · simp [hseen]

theorem distinctKeys_eq_nil_iff {records : List Record} {field : String} :
    distinctKeys (records.map fun p => p.value field) = [] ↔ ¬Keyed records field := by
  rw [distinctKeys, distinctKeys_go_eq_nil, Keyed]
  simp only [List.mem_map, forall_exists_index, and_imp, forall_apply_eq_imp_iff₂,
    List.not_mem_nil, imp_false, not_exists, not_and, Bool.not_eq_true, Option.isSome_eq_false_iff,
    Option.isNone_iff_eq_none, Record.key, Option.eq_none_iff_forall_ne_some]

theorem keyed_congr {records records' : List Record} {field : String}
    (h : records'.map (fun p => p.value field) = records.map fun p => p.value field) :
    Keyed records' field ↔ Keyed records field := by
  rw [← not_iff_not, ← distinctKeys_eq_nil_iff, h, distinctKeys_eq_nil_iff]

namespace Batch

variable {b : Batch} {get : Finder → Task τ σ (List Record)} {s s' : Session τ σ}

theorem keyed_nil (b : Batch) : b.keyed [] = [] := by
  unfold keyed
  split
  · simp
  · rfl

theorem related_dictionary_nil (b : Batch) (parent : Record) :
    b.related (b.dictionary []) parent = .nothing b.relation.linkage.isToOne := by
  have hnone : (parent.key b.relation.linkage.parentKey).bind (b.dictionary []).find? = none := by
    rw [dictionary, keyed_nil]
    cases parent.key b.relation.linkage.parentKey <;> rfl
  unfold related
  dsimp only
  rw [hnone]

/-- Without results every parent has nothing, as after the reset. -/
theorem deal_nil_reset {b b' : Batch} (hb : b'.relation = b.relation) (records : List Record) :
    b'.deal (b'.dictionary []) (b.reset records) = b.reset records := by
  rw [LoadPlan.deal_reset hb, reset]
  refine List.map_congr_left fun p _ => ?_
  rw [related_dictionary_nil, hb]

/-- Without a junction the related records are asked for at once. -/
theorem unsent_results_direct (hk : b.keys ≠ []) (hl : b.relation.linkage.isDirect)
    (h : Unsent s ((get (LoadPlan.ensured b b.relation.linkage.relatedKey).finder).run.run s)) :
    Unsent s ((b.results store get).run.run s) := by
  obtain ⟨fault, s', hget, hsame⟩ := h.exists_eq
  rw [LoadPlan.run_results_direct (fun _ _ _ _ _ heq => Linkage.not_isDirect heq hl) hk, hget]
  exact ⟨⟨fault, rfl⟩, hsame⟩

/-- Through a junction its rows are asked for first. The related records cannot be asked for then,
but that is a fault only if the rows point at some. -/
theorem run_results_manyToMany (store : Store τ σ) {b : Batch}
    {get : Finder → Task (τ × List Call) σ (List Record)}
    {junction toParent toRelated parentKey relatedKey : String}
    (hl : b.relation.linkage = .manyToMany junction toParent toRelated parentKey relatedKey)
    (hk : b.keys ≠ [])
    (h : ∀ keys (s : Session (τ × List Call) σ), Unsent s ((get
      ((LoadPlan.ensured b relatedKey).finder.mapQuery
        (·.require (.isIn relatedKey keys)))).run.run s))
    (t : τ) (calls : List Call) (schemas : σ) (log : List Event) :
    let d := (LoadPlan.junctionQuery (LoadPlan.ensured b relatedKey) junction toParent
      toRelated).delivery store t
    ∃ answer s', (b.results store.recorded get).run.run ⟨(t, calls), schemas, log⟩ = (answer, s') ∧
      s'.transport = (d.transport, calls ++ d.calls) ∧
      (answer.isOk ↔
        d.fault = none ∧ LoadPlan.junctionKeys toRelated d.batches.flatten = []) ∧
      ∀ results b', answer = .ok (results, b') → results = [] ∧ b'.relation = b.relation := by
  intro d
  obtain ⟨log', hrun⟩ := Query.run_run store (LoadPlan.junctionQuery
    (LoadPlan.ensured b relatedKey) junction toParent toRelated) t calls schemas log
  have hd : (LoadPlan.junctionQuery (LoadPlan.ensured b relatedKey) junction toParent
    toRelated).delivery store t = d := rfl
  rw [LoadPlan.run_results_joined hl hk, hrun, hd]
  cases hfault : d.fault with
  | some fault =>
    refine ⟨_, _, rfl, rfl, by simp [Except.isOk, Except.toBool], fun _ _ h => nomatch h⟩
  | none =>
    let rows := d.batches.flatten
    dsimp only [Option.elim]
    -- Rows that point at nothing end the batch before the related query is written.
    by_cases hnone : LoadPlan.junctionKeys toRelated rows = []
    · rw [if_pos hnone]
      refine ⟨_, _, rfl, rfl, by simp [Except.isOk, Except.toBool, hnone, rows], ?_⟩
      rintro results b' ⟨⟩
      exact ⟨rfl, rfl⟩
    · obtain ⟨fault, s', hget, hsame⟩ := (h (LoadPlan.junctionKeys toRelated rows)
        ⟨(d.transport, calls ++ d.calls), schemas,
          log' ++ [.joined b.relation.name rows.length]⟩).exists_eq
      rw [if_neg hnone, hget]
      exact ⟨_, _, rfl, hsame, by simp [Except.isOk, Except.toBool, hnone, rows],
        fun _ _ h => nomatch h⟩

end Batch

namespace LoadPlan

variable {t : ObjectType} {r : Relation} {relation : String} {steps : List FinderStep}
  {below : List Tree} {records : List Record} {fault : Fault}

/-- The relation came to a fault before anything was asked of the transport. -/
structure Refused (before : Session τ σ) (run : Loaded × Session τ σ) : Prop where
  failed : run.1.fault.isSome
  unasked : run.2.transport = before.transport

theorem unsent_loadBelow (store : Store τ σ) (below : List Tree) {f : Finder}
    (h : f.query.fault = some fault) (s : Session τ σ) :
    Unsent s ((loadBelow store below f).run.run s) :=
  (Finder.unsent_bare (Query.value_text_of_fault h) s).bind _

theorem fault_ensured (b : Batch) (relatedKey : String) :
    (ensured b relatedKey).finder.query.fault = b.finder.query.fault :=
  Query.fault_ensureSelected b.finder.query relatedKey

/-- One condition more does not help a query that cannot be written. -/
theorem unsent_loadBelow_require (store : Store τ σ) (below : List Tree) {f : Finder}
    (h : f.query.fault = some fault) (c : Clause) (s : Session τ σ) :
    Unsent s ((loadBelow store below (f.mapQuery (·.require c))).run.run s) :=
  unsent_loadBelow store below (f := f.mapQuery (·.require c)) h s

/-- The query for the rows of a junction can be written whatever the related query is like. -/
theorem text_junctionQuery {b : Batch} (hk : b.keys ≠ []) (junction toParent toRelated : String) :
    ∃ text, (junctionQuery b junction toParent toRelated).text.value = .ok text := by
  have hc (d : Dialect) : Clause.text? d (.isIn toParent b.keys) =
      .ok (some (toParent ++ " IN " ++ d.literalList toParent b.keys)) := by
    rw [Clause.text?, if_neg (by simpa using hk)]
  have htext := Select.text_one (List.cons_ne_nil toParent [toRelated]) junction
    (hc b.finder.query.dialect.plain) none
  exact ⟨_, (Query.value_text _).trans htext⟩

theorem run_loadTree_of_error (hr : t.relation relation = .ok r) {s s' : Session τ σ}
    (h : ((batch store r steps records).value.results store (loadBelow store below)).run.run
      { s with log := s.log ++ (batch store r steps records).events } = (.error fault, s')) :
    (loadTree store t records (.node relation steps below)).run s =
      (⟨records.map fun p => p.setRelation relation (.nothing r.linkage.isToOne), some fault⟩,
        s') := by
  rw [run_loadTree, hr]
  dsimp only
  rw [h, reset_batch, relation_name hr]

theorem run_loadTree_of_nil (hr : t.relation relation = .ok r) {b' : Batch} {s s' : Session τ σ}
    (hb : b'.relation = r)
    (h : ((batch store r steps records).value.results store (loadBelow store below)).run.run
      { s with log := s.log ++ (batch store r steps records).events } = (.ok ([], b'), s')) :
    (loadTree store t records (.node relation steps below)).run s =
      (⟨records.map fun p => p.setRelation relation (.nothing r.linkage.isToOne), none⟩, s') := by
  rw [run_loadTree, hr]
  dsimp only
  rw [h]
  dsimp only
  rw [Batch.deal_nil_reset (hb.trans (relation_batch r steps records).symm), reset_batch,
    relation_name hr]

theorem run_loadTree_of_no_keys (hr : t.relation relation = .ok r)
    (hk : ¬Keyed records r.linkage.parentKey) (s : Session τ σ) :
    (loadTree store t records (.node relation steps below)).run s =
      (⟨records.map fun p => p.setRelation relation (.nothing r.linkage.isToOne), none⟩,
        { s with log := s.log ++ (batch store r steps records).events }) := by
  have hkeys : (batch store r steps records).value.keys = [] := by
    rw [keys_batch]
    exact distinctKeys_eq_nil_iff.2 hk
  exact run_loadTree_of_nil hr (relation_batch r steps records)
    (run_results_of_no_keys hkeys _)

/-- What the loading of a relation comes to when there is a mistake in its query. The relation leads
to nothing in any case. The mistake comes out before anything is asked if the related records are
asked for at once; it stays hidden if no parent has a key; and through a junction the rows come
first, so that it comes out only if they point at related records. -/
structure Mistaken (store : Store τ σ) (r : Relation) (b : Batch) (records : List Record)
    (s : Session (τ × List Call) σ) (run : Loaded × Session (τ × List Call) σ) : Prop where
  reset : run.1.records = records.map fun p =>
    p.setRelation r.name (.nothing r.linkage.isToOne)
  hidden : ¬Keyed records r.linkage.parentKey →
    run.1.fault = none ∧ run.2.transport = s.transport
  direct : r.linkage.isDirect → Keyed records r.linkage.parentKey → Refused s run
  joined : ∀ junction toParent toRelated parentKey relatedKey,
    r.linkage = .manyToMany junction toParent toRelated parentKey relatedKey →
    Keyed records parentKey →
      let q := junctionQuery (ensured b relatedKey) junction toParent toRelated
      let d := q.delivery store s.transport.1
      (∃ text rest, d.calls = .query (q.endpoint store.settings) text :: rest) ∧
      run.2.transport = (d.transport, s.transport.2 ++ d.calls) ∧
      (run.1.fault = none ↔ d.fault = none ∧ junctionKeys toRelated d.batches.flatten = [])

theorem keys_ne_nil (hk : Keyed records r.linkage.parentKey) :
    (batch store r steps records).value.keys ≠ [] := by
  rw [keys_batch]
  exact mt distinctKeys_eq_nil_iff.1 (not_not_intro hk)

theorem mistaken_of_no_keys (hr : t.relation relation = .ok r) (b : Batch)
    (hk : ¬Keyed records r.linkage.parentKey) (s : Session (τ × List Call) σ) :
    Mistaken store r b records s
      ((loadTree store.recorded t records (.node relation steps below)).run s) := by
  rw [run_loadTree_of_no_keys hr hk]
  exact {
    reset := by rw [relation_name hr]
    hidden := fun _ => ⟨rfl, rfl⟩
    direct := fun _ hk' => absurd hk' hk
    joined := by
      intro junction toParent toRelated parentKey relatedKey hl hk'
      rw [hl] at hk
      exact absurd hk' hk }

theorem mistaken_direct (hr : t.relation relation = .ok r) (hl : r.linkage.isDirect)
    (hk : Keyed records r.linkage.parentKey)
    (hfault : (batch store.recorded r steps records).value.finder.query.fault = some fault)
    (b : Batch) (s : Session (τ × List Call) σ) :
    Mistaken store r b records s
      ((loadTree store.recorded t records (.node relation steps below)).run s) := by
  let asked := batch store.recorded r steps records
  have hrelation : asked.value.relation = r := relation_batch r steps records
  have hget := unsent_loadBelow store.recorded below
    ((fault_ensured asked.value asked.value.relation.linkage.relatedKey).trans hfault)
    { s with log := s.log ++ asked.events }
  obtain ⟨cause, s', hresults, hsame⟩ := (Batch.unsent_results_direct (keys_ne_nil hk)
    (by rw [hrelation]; exact hl) hget).exists_eq
  rw [run_loadTree_of_error hr hresults]
  exact {
    reset := by rw [relation_name hr]
    hidden := fun hk' => absurd hk hk'
    direct := fun _ _ => ⟨rfl, hsame⟩
    joined := fun _ _ _ _ _ hl' => absurd hl (Linkage.not_isDirect hl') }

theorem mistaken_manyToMany (hr : t.relation relation = .ok r)
    {junction toParent toRelated parentKey relatedKey : String}
    (hl : r.linkage = .manyToMany junction toParent toRelated parentKey relatedKey)
    (hk : Keyed records r.linkage.parentKey)
    (hfault : (batch store.recorded r steps records).value.finder.query.fault = some fault)
    (s : Session (τ × List Call) σ) :
    Mistaken store r (batch store.recorded r steps records).value records s
      ((loadTree store.recorded t records (.node relation steps below)).run s) := by
  let b := batch store.recorded r steps records
  have hrelation : b.value.relation = r := relation_batch r steps records
  have hkeys : b.value.keys ≠ [] := keys_ne_nil hk
  have hensured := (fault_ensured b.value relatedKey).trans hfault
  obtain ⟨⟨t₀, calls⟩, schemas, log⟩ := s
  obtain ⟨answer, s', hresults, hsame, hok, hnil⟩ := Batch.run_results_manyToMany store
    (by rw [hrelation, hl]) hkeys
    (fun keys s => unsent_loadBelow_require store.recorded below hensured (.isIn relatedKey keys) s)
    t₀ calls schemas (log ++ b.events)
  have hloaded : ∃ cause?, (loadTree store.recorded t records (.node relation steps below)).run
      ⟨(t₀, calls), schemas, log⟩ =
        (⟨records.map fun p => p.setRelation relation (.nothing r.linkage.isToOne), cause?⟩, s') ∧
      (cause? = none ↔ answer.isOk) := by
    cases answer with
    | error cause =>
      exact ⟨some cause, run_loadTree_of_error hr hresults, by simp [Except.isOk, Except.toBool]⟩
    | ok answer =>
      obtain ⟨results, b'⟩ := answer
      obtain ⟨rfl, hb'⟩ := hnil results b' rfl
      exact ⟨none, run_loadTree_of_nil hr (hb'.trans hrelation) hresults,
        by simp [Except.isOk, Except.toBool]⟩
  obtain ⟨cause?, hrun, hcause⟩ := hloaded
  rw [hrun]
  refine {
    reset := by rw [relation_name hr]
    hidden := fun hk' => absurd hk hk'
    direct := fun hl' => absurd hl' (Linkage.not_isDirect hl)
    joined := ?_ }
  intro junction' toParent' toRelated' parentKey' relatedKey' hl' _
  rw [hl] at hl'
  obtain ⟨rfl, rfl, rfl, rfl, rfl⟩ := Linkage.manyToMany.inj hl'
  obtain ⟨text, htext⟩ := text_junctionQuery (b := ensured b.value relatedKey) hkeys junction
    toParent toRelated
  obtain ⟨rest, hcalls⟩ := Query.exists_calls_delivery store htext t₀
  exact ⟨⟨text, rest, hcalls⟩, hsame, hcause.trans hok⟩

theorem mistaken_loadTree (below : List Tree) (hr : t.relation relation = .ok r)
    (hfault : (batch store.recorded r steps records).value.finder.query.fault = some fault)
    (s : Session (τ × List Call) σ) :
    Mistaken store r (batch store.recorded r steps records).value records s
      ((loadTree store.recorded t records (.node relation steps below)).run s) := by
  by_cases hk : Keyed records r.linkage.parentKey
  · cases hl : r.linkage with
    | manyToMany junction toParent toRelated parentKey relatedKey =>
      exact mistaken_manyToMany hr hl hk hfault s
    | _ => exact mistaken_direct hr (by rw [hl]; rfl) hk hfault _ s
  · exact mistaken_of_no_keys hr _ hk s

/-- A mistake comes out before anything is asked exactly when there are keys to ask for and no
junction to ask first. -/
theorem Mistaken.refused_iff {b : Batch} {s : Session (τ × List Call) σ}
    {run : Loaded × Session (τ × List Call) σ} (h : Mistaken store r b records s run) :
    Refused s run ↔ r.linkage.isDirect ∧ Keyed records r.linkage.parentKey := by
  constructor
  · intro href
    have hk : Keyed records r.linkage.parentKey := by
      by_contra hk
      have hfailed := href.failed
      rw [(h.hidden hk).1] at hfailed
      exact Bool.false_ne_true hfailed
    refine ⟨?_, hk⟩
    cases hl : r.linkage with
    | manyToMany junction toParent toRelated parentKey relatedKey =>
      obtain ⟨⟨text, rest, hcalls⟩, hasked, -⟩ :=
        h.joined junction toParent toRelated parentKey relatedKey hl (by rw [hl] at hk; exact hk)
      -- The call for the rows is on record, so something was asked.
      have hgrown := congrArg (fun x => x.2.length) (hasked.symm.trans href.unasked)
      simp [hcalls] at hgrown
    | _ => rfl
  · rintro ⟨hl, hk⟩
    exact h.direct hl hk

theorem keyed_kept {names : List String} {records' : List Record}
    (h : List.Forall₂ (Kept names) records records') {field : String} :
    Keyed records' field ↔ Keyed records field :=
  keyed_congr (map_value_kept h field)

/-- A mistake in the query of a relation is refused, before anything is asked for the relation, just
when the relation is without a junction and some record has a key for it. Without keys it stays
hidden, and through a junction the rows are asked for first. The first fault ends the loading. -/
theorem loadForest_mistaken {done : List Tree} (below rest : List Tree)
    (hr : t.relation relation = .ok r)
    (hfault : (batch store.recorded r steps records).value.finder.query.fault = some fault)
    {mid : List Record} {s s₁ : Session (τ × List Call) σ}
    (hdone : (loadForest store.recorded t records done).run s = (⟨mid, none⟩, s₁)) :
    let here := (loadTree store.recorded t mid (.node relation steps below)).run s₁
    (Refused s₁ here ↔ r.linkage.isDirect ∧ Keyed records r.linkage.parentKey) ∧
    Mistaken store r (batch store.recorded r steps records).value mid s₁ here ∧
    (here.1.fault.isSome →
      (loadForest store.recorded t records (done ++ .node relation steps below :: rest)).run s =
        here) := by
  intro here
  have hkept := loadForest_kept hdone
  -- What was loaded before leaves the keys of the records, so the batch is the one from the start.
  have hbatch : batch store.recorded r steps mid = batch store.recorded r steps records :=
    batch_congr steps hkept
  have hmistaken := mistaken_loadTree below hr (hbatch ▸ hfault) s₁
  rw [hbatch] at hmistaken
  refine ⟨hmistaken.refused_iff.trans (and_congr_right fun _ => keyed_kept hkept), hmistaken, ?_⟩
  intro hfailed
  rcases hhere : here with ⟨⟨left, _ | cause⟩, s'⟩
  · rw [hhere] at hfailed
    exact absurd hfailed Bool.false_ne_true
  · have htree : (loadTree store.recorded t mid (.node relation steps below)).run s₁ =
        (⟨left, some cause⟩, s') := hhere
    rw [run_loadForest_append, hdone]
    dsimp only
    rw [run_loadForest_cons, htree]

/-- An operator that is none, in the steps for the members of a campaign. -/
def misspelt : List FinderStep := [.query (.compareBy "Name" "~" (.text "x"))]

/-- A session in which there are no rows that join members to campaigns. -/
def memberless : Session (List Page × List Call) Unit := ⟨([.last []], []), (), []⟩

theorem fault_misspelt :
    (batch memberStore.recorded members misspelt [campaign]).value.finder.query.fault =
      some (.invalidOperator "~") := rfl

/-- The rows are asked for, and the operator does not come out. -/
theorem mistaken_members :
    campaigns.relation "Members" = .ok members ∧
    (batch memberStore.recorded members misspelt [campaign]).value.finder.query.fault =
      some (.invalidOperator "~") ∧
    (loadForest memberStore.recorded campaigns [campaign] []).run memberless =
      (⟨[campaign], none⟩, memberless) ∧
    Keyed [campaign] members.linkage.parentKey ∧
    ¬Refused memberless ((loadTree memberStore.recorded campaigns [campaign]
      (.node "Members" misspelt [])).run memberless) := by
  have hrelation : campaigns.relation "Members" = .ok members := rfl
  have hempty : (loadForest memberStore.recorded campaigns [campaign] []).run memberless =
      (⟨[campaign], none⟩, memberless) := run_loadForest_nil _ _ _
  obtain ⟨hrefused, -⟩ := loadForest_mistaken [] [] hrelation fault_misspelt hempty
  refine ⟨rfl, fault_misspelt, hempty, ⟨campaign, List.mem_singleton_self _, rfl⟩, ?_⟩
  rw [hrefused]
  exact fun h => absurd h.1 Bool.false_ne_true

theorem not_refused_members :
    ¬∀ (records : List Record) (s : Session (List Page × List Call) Unit) (fault : Fault),
      records ≠ [] →
      (batch memberStore.recorded members misspelt records).value.finder.query.fault =
        some fault →
      Refused s ((loadForest memberStore.recorded campaigns records
        [.node "Members" misspelt []]).run s) := by
  intro h
  have hunfailed : ((loadForest memberStore.recorded campaigns [campaign]
      [.node "Members" misspelt []]).run memberless).1.fault = none := by with_unfolding_all rfl
  have hfailed := (h [campaign] memberless _ (by simp) fault_misspelt).failed
  rw [hunfailed] at hfailed
  exact Bool.false_ne_true hfailed

end LoadPlan

end RecordQuery
