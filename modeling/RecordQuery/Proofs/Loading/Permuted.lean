import RecordQuery.Proofs.Loading.Closed

namespace RecordQuery.LoadPlan

/-- An entry is put in place of the one for its path. -/
theorem setEntry_perm (e : String × List FinderStep) {es : List (String × List FinderStep)}
    (h : (es.map (·.1)).Nodup) : (setEntry e es).Perm (e :: es.filter fun f => f.1 != e.1) := by
  induction es with
  | nil => exact .refl _
  | cons f rest ih =>
    rw [List.map_cons, List.nodup_cons] at h
    by_cases hf : f.1 = e.1
    · have hrest : rest.filter (fun f => f.1 != e.1) = rest := by
        refine List.filter_eq_self.2 fun g hg => bne_iff_ne.2 fun hge => h.1 ?_
        rw [hf, ← hge]
        exact List.mem_map_of_mem hg
      rw [setEntry, if_pos hf, List.filter_cons_of_neg (by simp [hf]), hrest]
    · rw [setEntry, if_neg hf, List.filter_cons_of_pos (by simp [hf])]
      exact ((ih h.2).cons f).trans (.swap e f _)

/-- A plan that another one is merged into has the entries of that one, and its own for the other
paths. -/
theorem merge_perm {p other : LoadPlan} (hp : p.paths.Nodup) (hother : other.paths.Nodup) :
    (p.merge other).entries.Perm
      (other.entries ++ p.entries.filter fun e => !other.contains e.1) := by
  obtain ⟨entries⟩ := other
  unfold merge
  induction entries generalizing p with
  | nil => simp [contains, paths]
  | cons e es ih =>
    have hnodup : (e.1 :: paths ⟨es⟩).Nodup := hother
    obtain ⟨hnew, hes⟩ := List.nodup_cons.1 hnodup
    have hkeep : (!contains ⟨es⟩ e.1) = true := by simpa [contains] using hnew
    have hothers : ((e :: p.entries.filter fun f => f.1 != e.1).filter fun f =>
        !contains ⟨es⟩ f.1) = e :: p.entries.filter fun f => !contains ⟨e :: es⟩ f.1 := by
      rw [List.filter_cons, if_pos hkeep, List.filter_filter]
      refine congrArg (e :: ·) (List.filter_congr fun f _ => ?_)
      simp [contains, paths, bne, Bool.and_comm]
    have hset : ((p.set e.1 e.2).entries.filter fun f => !contains ⟨es⟩ f.1).Perm
        (e :: p.entries.filter fun f => !contains ⟨e :: es⟩ f.1) := by
      rw [← hothers]
      exact (setEntry_perm e hp).filter _
    have hrest := ih (nodup_set hp e.1 e.2) hes
    exact hrest.trans ((hset.append_left es).trans List.perm_middle)

variable {p q : LoadPlan}

theorem paths_perm (h : p.entries.Perm q.entries) : p.paths.Perm q.paths := h.map _

theorem under_perm (h : p.entries.Perm q.entries) (relation : String) :
    (p.under relation).entries.Perm (q.under relation).entries := h.filterMap _

theorem topLevel_perm (h : p.entries.Perm q.entries) : p.topLevel.Perm q.topLevel := h.filter _

/-- What is loaded below a relation has the same entries too. -/
theorem child_perm (h : p.entries.Perm q.entries) (hp : p.paths.Nodup) (relation : String)
    (steps : List FinderStep) :
    (p.child relation steps).entries.Perm (q.child relation steps).entries := by
  have hq : q.paths.Nodup := (paths_perm h).nodup_iff.1 hp
  have hempty : empty.paths.Nodup := List.nodup_nil
  have hsteps := nodup_extendAll hempty steps
  have hunder := under_perm h relation
  have hothers : (p.under relation).contains = (q.under relation).contains :=
    funext fun path => (paths_perm hunder).contains_eq
  have hmerged := merge_perm hsteps (nodup_under hp relation)
  rw [hothers] at hmerged
  exact hmerged.trans ((hunder.append_right _).trans
    (merge_perm hsteps (nodup_under hq relation)).symm)

/-- Without steps of its own, a relation has below it what the plan has below it. -/
theorem child_perm_under (hp : p.paths.Nodup) (relation : String) :
    (p.child relation []).entries.Perm (p.under relation).entries := by
  have hmerged := merge_perm (p := empty) List.nodup_nil (nodup_under hp relation)
  rwa [show empty.entries = [] from rfl, List.filter_nil, List.append_nil] at hmerged

end RecordQuery.LoadPlan
