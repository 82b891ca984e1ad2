import RecordQuery.Proofs.Loading.Junction
import RecordQuery.Proofs.Pages.Delivery

namespace RecordQuery

variable {τ σ α β : Type} {store : Store τ σ}

/-- In any session a run makes at most so many queries, and for each of them at most so many calls,
itself included. -/
def AsksAtMost (queries pages : Nat) (x : StateM (Session (τ × List Call) σ) α) : Prop :=
  ∀ s, ∃ made, (x.run s).2.transport.2 = s.transport.2 ++ made ∧
    (made.filter Call.isQuery).length ≤ queries ∧ made.length ≤ queries * pages

namespace AsksAtMost

variable {n m pages : Nat}

theorem of_quiet {x : StateM (Session (τ × List Call) σ) α}
    (h : ∀ s, (x.run s).2.transport = s.transport) : AsksAtMost n pages x := by
  intro s
  refine ⟨[], ?_, Nat.zero_le n, Nat.zero_le _⟩
  rw [h, List.append_nil]

theorem pure (a : α) :
    AsksAtMost n pages (Pure.pure a : StateM (Session (τ × List Call) σ) α) :=
  of_quiet fun _ => rfl

theorem bind {x : StateM (Session (τ × List Call) σ) α}
    {f : α → StateM (Session (τ × List Call) σ) β} (hx : AsksAtMost n pages x)
    (hf : ∀ a, AsksAtMost m pages (f a)) : AsksAtMost (n + m) pages (x >>= f) := by
  intro s
  obtain ⟨made, hcalls, hqueries, hlength⟩ := hx s
  obtain ⟨more, hcalls', hqueries', hlength'⟩ := hf (x.run s).1 (x.run s).2
  refine ⟨made ++ more, ?_, ?_, ?_⟩
  · change ((f (x.run s).1).run (x.run s).2).2.transport.2 = _
    rw [hcalls', hcalls, List.append_assoc]
  · rw [List.filter_append, List.length_append]
    omega
  · rw [List.length_append, Nat.add_mul]
    omega

theorem task_bind {x : Task (τ × List Call) σ α} {f : α → Task (τ × List Call) σ β}
    (hx : AsksAtMost n pages x.run) (hf : ∀ a, AsksAtMost m pages (f a).run) :
    AsksAtMost (n + m) pages (x >>= f).run := by
  rw [ExceptT.run_bind]
  refine hx.bind fun answer => ?_
  cases answer with
  | error fault => exact AsksAtMost.pure _
  | ok a => exact hf a

theorem always {x : StateM (Session (τ × List Call) σ) α} (h : AsksAtMost n pages x) :
    AsksAtMost n pages (Task.always x).run := by
  intro s
  obtain ⟨made, hcalls, hbounds⟩ := h s
  refine ⟨made, ?_, hbounds⟩
  have hrun : (Task.always x).run.run s = (.ok (x.run s).1, (x.run s).2) := Task.run_always rfl
  rw [hrun]
  exact hcalls

end AsksAtMost

/-- A query is sent once, and its other pages are asked for up to the page limit. -/
theorem Query.length_calls_delivery (store : Store τ σ) (q : Query) (t : τ) :
    ((q.delivery store t).calls.filter Call.isQuery).length ≤ 1 ∧
      (q.delivery store t).calls.length ≤ 1 * max 1 store.settings.maxPages.toNat := by
  have hrequests (urls : List String) :
      (urls.map (Call.request "GET")).filter Call.isQuery = [] := by
    refine List.filter_eq_nil_iff.2 fun call hcall => ?_
    obtain ⟨url, -, rfl⟩ := List.mem_map.1 hcall
    exact Bool.false_ne_true
  unfold delivery
  split
  · exact ⟨Nat.zero_le 1, Nat.zero_le _⟩
  · dsimp only
    split
    · exact ⟨Nat.le_refl 1, by rw [Nat.one_mul]; exact Nat.le_max_left 1 _⟩
    · rename_i page t' _
      have hurls := PageStream.length_urls_le store 1 (store.settings.maxPages.toNat - 1) page t'
      refine ⟨?_, ?_⟩
      · rw [List.filter_cons_of_pos rfl, hrequests]
        exact Nat.le_refl 1
      · rw [List.length_cons, List.length_map]
        omega

/-- The calls that one query may take. -/
def Store.pages (store : Store τ σ) : Nat := max 1 store.settings.maxPages.toNat

theorem Query.asksAtMost_run (store : Store τ σ) (q : Query) :
    AsksAtMost 1 store.pages (q.run store.recorded).run := by
  rintro ⟨⟨t, calls⟩, schemas, log⟩
  obtain ⟨log', hrun⟩ := run_run store q t calls schemas log
  refine ⟨(q.delivery store t).calls, ?_, length_calls_delivery store q t⟩
  rw [hrun]

theorem Finder.asksAtMost_prepared (store : Store τ σ) (f : Finder) :
    AsksAtMost 0 store.pages (f.prepared store.recorded).run := by
  have hschema : AsksAtMost 0 store.pages (store.recorded.schema f.type.object).run :=
    .of_quiet fun _ => rfl
  show AsksAtMost (0 + 0) store.pages (f.prepared store.recorded).run
  refine hschema.task_bind fun schema => ?_
  dsimp only
  split <;> exact .pure _

theorem Finder.asksAtMost_bare (store : Store τ σ) (f : Finder) :
    AsksAtMost 1 store.pages (f.bare store.recorded).run := by
  show AsksAtMost (0 + (1 + 0)) store.pages (f.bare store.recorded).run
  refine (f.asksAtMost_prepared store).task_bind fun (schema, query) => ?_
  exact (query.asksAtMost_run store).task_bind fun rows => .pure _

/-- How many queries lead to the related records of a batch. -/
def Linkage.queries : Linkage → Nat
  | .belongsTo .. | .hasOne .. | .hasMany .. => 1
  | .manyToMany .. => 2

theorem Batch.asksAtMost_results {get : Finder → Task (τ × List Call) σ (List Record)} {b : Batch}
    {n : Nat} (hget : ∀ f, f.type = b.finder.type → AsksAtMost (1 + n) store.pages (get f).run) :
    AsksAtMost (b.relation.linkage.queries + n) store.pages (b.results store.recorded get).run := by
  have hanswered (f : Finder) (hf : f.type = b.finder.type) (b' : Batch) :
      AsksAtMost (1 + n) store.pages (do return (← get f, b') :
        Task (τ × List Call) σ (List Record × Batch)).run :=
    (hget f hf).task_bind (m := 0) fun _ => .pure _
  unfold results
  split
  · exact AsksAtMost.pure _
  · dsimp only
    split
    · rename_i junction toParent toRelated parentKey relatedKey hl
      have hcost : b.relation.linkage.queries + n = 1 + (0 + (1 + n)) := by
        rw [hl, Linkage.queries]
        omega
      rw [hcost]
      refine (Query.asksAtMost_run store _).task_bind fun rows => ?_
      have hemit : AsksAtMost 0 store.pages (Task.emit (.joined b.relation.name rows.length) :
        Task (τ × List Call) σ Unit).run := .of_quiet fun _ => rfl
      refine hemit.task_bind fun _ => ?_
      split
      · exact AsksAtMost.pure _
      · refine hanswered _ ?_ _
        rfl
    · rename_i hl
      have hcost : b.relation.linkage.queries = 1 := by
        cases hlinkage : b.relation.linkage with
        | manyToMany => exact absurd hlinkage (hl _ _ _ _ _)
        | _ => rfl
      rw [hcost]
      refine hanswered _ ?_ _
      rfl

namespace LoadPlan

mutual

/-- How many queries the relations of a tree take below a type. -/
def Tree.queries (c : Catalog) (t : ObjectType) : Tree → Nat
  | .node relation _ below =>
    match t.relation relation with
    | .error _ => 0
    | .ok r => r.linkage.queries + Tree.allQueries c (c.describe r.related) below

def Tree.allQueries (c : Catalog) (t : ObjectType) : List Tree → Nat
  | [] => 0
  | tree :: rest => tree.queries c t + Tree.allQueries c t rest

end

theorem type_batch (store : Store τ σ) (r : Relation) (steps : List FinderStep)
    (records : List Record) :
    (batch store r steps records).value.finder.type = store.catalog.describe r.related := by
  cases hl : r.linkage <;> simp only [batch, Batch.forParents, Batch.new, hl] <;> rfl

/-- The related records of a batch take one query, with one for the junction before it, and what is
below them is loaded for all of them at once. -/
theorem asksAtMost_related {r : Relation} {below : List Tree} {n : Nat}
    (hbelow : ∀ found, AsksAtMost n store.pages
      (loadForest store.recorded (store.catalog.describe r.related) found below))
    (steps : List FinderStep) (records : List Record) :
    AsksAtMost (r.linkage.queries + n) store.pages
      ((batch store.recorded r steps records).value.results store.recorded
        (loadBelow store.recorded below)).run := by
  have hget (f : Finder) (hf : f.type = (batch store.recorded r steps records).value.finder.type) :
      AsksAtMost (1 + n) store.pages (loadBelow store.recorded below f).run := by
    rw [type_batch] at hf
    refine (f.asksAtMost_bare store).task_bind fun found => ?_
    split
    · exact .pure _
    · rw [hf]
      refine (hbelow found).always.task_bind (m := 0) fun loaded => ?_
      split <;> exact .pure _
  have hresults := Batch.asksAtMost_results hget
  rwa [relation_batch] at hresults

mutual

theorem asksAtMost_loadTree (store : Store τ σ) (t : ObjectType) (records : List Record) :
    ∀ tree : Tree, AsksAtMost (tree.queries store.catalog t) store.pages
      (loadTree store.recorded t records tree)
  | .node relation steps below => by
    intro s
    rw [run_loadTree, Tree.queries]
    cases t.relation relation with
    | error fault => exact AsksAtMost.pure _ s
    | ok r =>
      have hbelow (found : List Record) := asksAtMost_loadForest store
        (store.catalog.describe r.related) found below
      obtain ⟨made, hcalls, hbounds⟩ := asksAtMost_related hbelow steps records
        { s with log := s.log ++ (batch store.recorded r steps records).events }
      refine ⟨made, ?_, hbounds⟩
      rw [← hcalls]
      dsimp only
      split <;> rename_i hrun <;> rw [hrun]

theorem asksAtMost_loadForest (store : Store τ σ) (t : ObjectType) (records : List Record) :
    ∀ forest : List Tree, AsksAtMost (Tree.allQueries store.catalog t forest) store.pages
      (loadForest store.recorded t records forest)
  | [] => by
    rw [loadForest]
    exact .pure _
  | tree :: rest => by
    rw [loadForest, Tree.allQueries]
    refine (asksAtMost_loadTree store t records tree).bind fun loaded => ?_
    split
    · exact .pure _
    · exact asksAtMost_loadForest store t loaded.records rest

end

end LoadPlan

end RecordQuery
