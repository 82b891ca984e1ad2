import RecordQuery.Proofs.Query.Mistakes

namespace RecordQuery

/-- The step changes nothing that a query says already but its object, order and extent. -/
def QueryStep.Adds : QueryStep → Prop
  | .select _ | .withSchema _ | .renew | .when .. => False
  | .addSelect _ | .ensureSelected _ | .addSelectQuery _ | .about _ | .fail _ | .compare ..
  | .compareBy .. | .compareAll _ | .compareQuery .. | .require _ | .group _ | .inText ..
  | .inQuery .. | .orderBy _ | .unordered | .limit _ | .offset _ | .forPage .. => True

namespace Query

/-- `r` says at least what `q` says. -/
structure Extends (q r : Query) : Prop where
  dialect : r.dialect = q.dialect
  fault : q.fault.isSome → r.fault.isSome
  clauses : q.statement.clauses ⊆ r.statement.clauses
  fields : q.statement.fields ⊆ r.statement.fields

theorem Extends.refl (q : Query) : q.Extends q := ⟨rfl, id, fun _ => id, fun _ => id⟩

theorem Extends.trans {q r s : Query} (h : q.Extends r) (h' : r.Extends s) : q.Extends s :=
  ⟨h'.dialect.trans h.dialect, h'.fault ∘ h.fault, fun _ hc => h'.clauses (h.clauses hc),
    fun _ hs => h'.fields (h.fields hs)⟩

theorem isSome_fault_fail (q : Query) (fault : Fault) : (q.fail fault).fault.isSome := by
  rw [fail, Option.isSome_or, Option.isSome_some, Bool.or_true]

theorem isSome_fault_absorb (q : Query) {sub : Query} (h : sub.fault.isSome) :
    (q.absorb sub).fault.isSome := by
  rw [absorb, Option.isSome_or, h, Bool.or_true]

theorem extends_fail (q : Query) (fault : Fault) : q.Extends (q.fail fault) := by
  refine ⟨rfl, fun h => ?_, fun _ => id, fun _ => id⟩
  rw [fail, Option.isSome_or, h, Bool.true_or]

theorem extends_absorb (q sub : Query) : q.Extends (q.absorb sub) := by
  refine ⟨rfl, fun h => ?_, fun _ => id, fun _ => id⟩
  rw [absorb, Option.isSome_or, h, Bool.true_or]

theorem extends_require (q : Query) (c : Clause) : q.Extends (q.require c) :=
  ⟨rfl, id, List.subset_append_left _ _, fun _ => id⟩

theorem extends_addSelect (q : Query) (name : String) : q.Extends (q.addSelect name) :=
  ⟨rfl, id, fun _ => id, List.subset_append_left _ _⟩

theorem extends_addSelectQuery (q sub : Query) : q.Extends (q.addSelectQuery sub) :=
  (q.extends_absorb sub).trans ⟨rfl, id, fun _ => id, List.subset_append_left _ _⟩

theorem extends_inSubselect (q : Query) (field : String) (negated : Bool) (sub : Subselect) :
    q.Extends (q.inSubselect field negated sub).value := by
  rw [value_inSubselect]
  cases sub.text.value with
  | ok text => exact q.extends_require _
  | error fault => exact q.extends_fail fault

theorem extends_foldl_compare (pairs : List (String × Value)) (q : Query) :
    q.Extends (pairs.foldl (fun q e => q.compare e.1 .eq e.2) q) := by
  induction pairs generalizing q with
  | nil => exact .refl q
  | cons e rest ih => exact (q.extends_require _).trans (ih _)

/-- A step that adds extends the query. -/
theorem extends_step (q : Query) : ∀ s : QueryStep, s.Adds → q.Extends (q.step s).value
  | .addSelect name, _ => by
    simp only [step, Traced.value_pure]
    exact q.extends_addSelect name
  | .ensureSelected name, _ => by
    simp only [step, Traced.value_pure, ensureSelected]
    split
    · exact .refl q
    · exact q.extends_addSelect name
  | .addSelectQuery steps, _ => by
    simp only [step, Traced.value_bind, Traced.value_pure]
    exact q.extends_addSelectQuery _
  | .fail fault, _ => by
    simp only [step, Traced.value_pure]
    exact q.extends_fail fault
  | .compare field op value, _ => by
    simp only [step, Traced.value_pure]
    exact q.extends_require _
  | .compareBy field op value, _ => by
    simp only [step, Traced.value_pure, compareBy]
    cases Operator.ofText op with
    | ok op => exact q.extends_require _
    | error fault => exact q.extends_fail fault
  | .compareAll pairs, _ => by
    simp only [step, Traced.value_pure]
    exact extends_foldl_compare pairs q
  | .compareQuery field op steps, _ => by
    simp only [step, Traced.value_bind, Traced.value_pure]
    exact (q.extends_absorb _).trans (extends_require _ _)
  | .require c, _ => by
    simp only [step, Traced.value_pure]
    exact q.extends_require c
  | .group steps, _ => by
    simp only [step, Traced.value_bind, Traced.value_pure]
    exact (q.extends_absorb _).trans (extends_require _ _)
  | .inText field negated text, _ => by
    simp only [step]
    exact q.extends_inSubselect field negated _
  | .inQuery field negated steps, _ => by
    simp only [step, Traced.value_bind]
    exact q.extends_inSubselect field negated _
  | .about _, _ | .orderBy _, _ | .unordered, _ | .limit _, _ | .offset _, _ | .forPage .., _ => by
    simp only [step, Traced.value_pure]
    exact ⟨rfl, id, fun _ => id, fun _ => id⟩

mutual

/-- No step changes which fields are selected when none are named. -/
theorem defaultFields_step (q : Query) : ∀ s : QueryStep,
    (q.step s).value.dialect.defaultFields = q.dialect.defaultFields
  | .when condition steps => by
    cases condition with
    | true =>
      simp only [step, if_true]
      exact defaultFields_steps q steps
    | false => simp [step]
  | .select _ | .withSchema _ | .renew => by
    simp only [step, Traced.value_pure]
    rfl
  | .addSelect _ | .ensureSelected _ | .addSelectQuery _ | .about _ | .fail _ | .compare ..
  | .compareBy .. | .compareAll _ | .compareQuery .. | .require _ | .group _ | .inText ..
  | .inQuery .. | .orderBy _ | .unordered | .limit _ | .offset _ | .forPage .. => by
    refine congrArg Dialect.defaultFields (q.extends_step _ ?_).dialect
    trivial

theorem defaultFields_steps (q : Query) : ∀ ss : List QueryStep,
    (q.steps ss).value.dialect.defaultFields = q.dialect.defaultFields
  | [] => by simp only [steps, Traced.value_pure]
  | s :: rest => by
    simp only [steps, Traced.value_bind]
    exact (defaultFields_steps (q.step s).value rest).trans (defaultFields_step q s)

end

/-- Steps one after the other are the first ones and then the others. -/
theorem value_steps_append (ss ss' : List QueryStep) (q : Query) :
    (q.steps (ss ++ ss')).value = ((q.steps ss).value.steps ss').value := by
  induction ss generalizing q with
  | nil => simp only [List.nil_append, steps, Traced.value_pure]
  | cons s rest ih => simp only [List.cons_append, steps, Traced.value_bind, ih]

end Query

end RecordQuery
