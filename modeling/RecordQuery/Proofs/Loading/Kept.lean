import RecordQuery.Proofs.Loading.Basic
import RecordQuery.Proofs.Loading.Plan
import RecordQuery.Proofs.Pairs

namespace RecordQuery.LoadPlan

variable {τ σ : Type} {store : Store τ σ} {t : ObjectType} {records records' : List Record}
  {s s' : Session τ σ}

/-- Nothing but the relations of these names may differ. -/
structure Kept (names : List String) (before after : Record) : Prop where
  object : after.object = before.object
  attributes : after.attributes = before.attributes
  original : after.original = before.original
  relations : ∀ name, name ∉ names → after.relation? name = before.relation? name

namespace Kept

theorem refl (names : List String) (r : Record) : Kept names r r := ⟨rfl, rfl, rfl, fun _ _ => rfl⟩

theorem setRelation (r : Record) (name : String) (related : Related Record) :
    Kept [name] r (r.setRelation name related) := by
  refine ⟨rfl, rfl, rfl, fun other h => ?_⟩
  rw [Record.relation?_setRelation, if_neg (by simpa using h)]

theorem mono {names names' : List String} (hsub : names ⊆ names') {before after : Record}
    (h : Kept names before after) : Kept names' before after :=
  ⟨h.object, h.attributes, h.original, fun name hn => h.relations name (mt (@hsub name) hn)⟩

theorem trans {names : List String} {a b c : Record} (h : Kept names a b) (h' : Kept names b c) :
    Kept names a c :=
  ⟨h'.object.trans h.object, h'.attributes.trans h.attributes, h'.original.trans h.original,
    fun name hn => (h'.relations name hn).trans (h.relations name hn)⟩

end Kept

/-- Records that are kept have the values they had. -/
theorem map_value_kept {names : List String} (h : List.Forall₂ (Kept names) records records')
    (field : String) : records'.map (fun p => p.value field) = records.map fun p => p.value field :=
  (map_eq_of_forall₂ (R := Kept names)
    (fun _ _ hk => by simp only [Record.value, Record.get?, hk.attributes]) h).symm

theorem relation_name {name : String} {r : Relation} (h : t.relation name = .ok r) :
    r.name = name := by
  unfold ObjectType.relation at h
  split at h
  · rename_i found hf
    obtain rfl := Except.ok.inj h
    simpa using List.find?_some hf
  · exact nomatch h

theorem kept_map {name : String} {change : Record → Record}
    (h : ∀ r, Kept [name] r (change r)) (records : List Record) :
    List.Forall₂ (Kept [name]) records (records.map change) := by
  rw [List.forall₂_map_right_iff, List.forall₂_same]
  exact fun r _ => h r

/-- A tree that is loaded changes its own relation alone. -/
theorem loadTree_kept {relation : String} {steps : List FinderStep} {below : List Tree}
    (h : (loadTree store t records (.node relation steps below)).run s = (⟨records', none⟩, s')) :
    List.Forall₂ (Kept [relation]) records records' := by
  obtain ⟨r, results, b', hr, hb, rfl⟩ := exists_of_loadTree h
  have hname : b'.relation.name = relation := by
    rw [relation_results (pivots_batch r steps records) hb, relation_batch, relation_name hr]
  have hreset := kept_map (fun p => .setRelation p relation (.nothing r.linkage.isToOne)) records
  rw [reset_batch, relation_name hr, Batch.deal, hname]
  exact forall₂_comp (fun _ _ _ => .trans) hreset (kept_map (fun p => .setRelation p relation _) _)

/-- A forest that is loaded changes the relations of its trees alone. -/
theorem loadForest_kept {forest : List Tree}
    (h : (loadForest store t records forest).run s = (⟨records', none⟩, s')) :
    List.Forall₂ (Kept (forest.map Tree.name)) records records' := by
  induction forest generalizing records s with
  | nil =>
    rw [run_loadForest_nil] at h
    obtain ⟨⟨rfl, -⟩, -⟩ := h
    exact List.forall₂_same.2 fun r _ => .refl _ r
  | cons tree rest ih =>
    obtain ⟨relation, steps, below⟩ := tree
    obtain ⟨mid, s₁, hm, hr⟩ := exists_of_loadForest_cons h
    have hfirst : List.Forall₂ (Kept (relation :: rest.map Tree.name)) records mid :=
      (loadTree_kept hm).imp fun _ _ hk => hk.mono (by simp)
    have hrest : List.Forall₂ (Kept (relation :: rest.map Tree.name)) mid records' :=
      (ih hr).imp fun _ _ hk => hk.mono (by simp)
    exact forall₂_comp (fun _ _ _ => .trans) hfirst hrest

end RecordQuery.LoadPlan
