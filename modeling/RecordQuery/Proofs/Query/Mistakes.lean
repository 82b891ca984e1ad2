import RecordQuery.Finder.Basic
import RecordQuery.Proofs.Query.Unsupported

namespace RecordQuery

/-- The mistake of a query that is written at once and cannot be. -/
def Query.unwritable (q : Query) : List Fault := faults (q.statement.text q.dialect)

mutual

/-- The mistakes that a step records. -/
def Query.mistakes (q : Query) : QueryStep → List Fault
  | .fail fault => [fault]
  | .compareBy _ op _ => faults (Operator.ofText op)
  | .inText _ _ text => faults (Query.rawText text)
  | .inQuery _ _ steps => q.renewed.allMistakes steps ++ (q.renewed.steps steps).value.unwritable
  | .addSelectQuery steps | .compareQuery _ _ steps => q.renewed.allMistakes steps
  | .group steps => q.subgroup.allMistakes steps
  | .when condition steps => if condition then q.allMistakes steps else []
  | .select _ | .addSelect _ | .ensureSelected _ | .about _ | .withSchema _ | .renew | .compare ..
  | .compareAll _ | .require _ | .orderBy _ | .unordered | .limit _ | .offset _ | .forPage .. => []

def Query.allMistakes (q : Query) : List QueryStep → List Fault
  | [] => []
  | s :: rest => q.mistakes s ++ (q.step s).value.allMistakes rest

end

mutual

/-- Neither the step nor a step inside it starts anew. -/
def QueryStep.Continues : QueryStep → Prop
  | .renew => False
  | .addSelectQuery steps | .compareQuery _ _ steps | .group steps | .inQuery _ _ steps
  | .when _ steps => QueryStep.AllContinue steps
  | .select _ | .addSelect _ | .ensureSelected _ | .about _ | .withSchema _ | .fail _ | .compare ..
  | .compareBy .. | .compareAll _ | .require _ | .inText .. | .orderBy _ | .unordered | .limit _
  | .offset _ | .forPage .. => True

def QueryStep.AllContinue : List QueryStep → Prop
  | [] => True
  | s :: rest => s.Continues ∧ QueryStep.AllContinue rest

end

namespace Query

theorem fault_fail (q : Query) (fault : Fault) :
    (q.fail fault).fault = q.fault.or [fault].head? := rfl

/-- A query with a mistake is not written, and one without is as its statement is. -/
theorem value_text (q : Query) :
    q.text.value = match q.fault with
      | some fault => .error fault
      | none => q.statement.text q.dialect := by
  unfold text
  cases q.fault with
  | some fault => rfl
  | none => cases q.statement.text q.dialect <;> rfl

/-- A query is written if no mistake was made and its statement can be written. -/
theorem value_text_eq_ok {q : Query} {text : String} :
    q.text.value = .ok text ↔ q.fault = none ∧ q.statement.text q.dialect = .ok text := by
  rw [value_text]
  cases q.fault with
  | none => simp
  | some fault => simp

/-- Why a query is not written: the mistake that it keeps, or else what its statement lacks. -/
theorem head?_faults_text (q : Query) :
    (faults q.text.value).head? = q.fault.or q.unwritable.head? := by
  rw [value_text]
  cases q.fault <;> rfl

theorem value_inSubselect (q : Query) (field : String) (negated : Bool) (sub : Subselect) :
    (q.inSubselect field negated sub).value =
      match sub.text.value with
      | .ok text => q.require (if negated then .notInText field text else .inText field text)
      | .error fault => q.fail fault := by
  unfold inSubselect
  rw [Traced.value_bind]
  cases sub.text.value <;> rfl

/-- A sub-select that is not written leaves its reason behind. -/
theorem fault_inSubselect (q : Query) (field : String) (negated : Bool) (sub : Subselect) :
    (q.inSubselect field negated sub).value.fault = q.fault.or (faults sub.text.value).head? := by
  rw [value_inSubselect]
  cases sub.text.value with
  | ok text => exact (Option.or_none).symm
  | error fault => rfl

theorem fault_foldl_compare (pairs : List (String × Value)) (q : Query) :
    (pairs.foldl (fun q e => q.compare e.1 .eq e.2) q).fault = q.fault := by
  induction pairs generalizing q with
  | nil => rfl
  | cons e rest ih => exact ih (q.compare e.1 .eq e.2)

theorem fault_ensureSelected (q : Query) (name : String) :
    (q.ensureSelected name).fault = q.fault := by
  unfold ensureSelected
  split <;> rfl

mutual

/-- A step keeps an earlier mistake, else the first that it records. -/
theorem fault_step (q : Query) : ∀ s : QueryStep, s.Continues →
    (q.step s).value.fault = q.fault.or (q.mistakes s).head?
  | .renew, h => nomatch h
  | .fail fault, _ => by
    simp only [step, Traced.value_pure, mistakes]
    exact fault_fail q fault
  | .compareBy field op value, _ => by
    simp only [step, Traced.value_pure, compareBy, mistakes]
    cases Operator.ofText op with
    | ok op => exact (Option.or_none).symm
    | error fault => rfl
  | .inText field negated text, _ => by
    simpa only [step, mistakes, Subselect.text, Traced.value_pure] using
      fault_inSubselect q field negated (.raw text)
  | .inQuery field negated steps, h => by
    have hinner : (q.renewed.steps steps).value.fault = (q.renewed.allMistakes steps).head? := by
      simpa only [renewed, new, Option.none_or] using fault_steps q.renewed steps h
    simp only [step, Traced.value_bind, fault_inSubselect, Subselect.text, head?_faults_text,
      hinner, mistakes, List.head?_append]
  | .addSelectQuery steps, h => by
    have hinner := fault_steps q.renewed steps h
    simp only [step, Traced.value_bind, Traced.value_pure, mistakes]
    exact congrArg q.fault.or hinner
  | .compareQuery field op steps, h => by
    have hinner := fault_steps q.renewed steps h
    simp only [step, Traced.value_bind, Traced.value_pure, mistakes]
    exact congrArg q.fault.or hinner
  | .group steps, h => by
    have hinner := fault_steps q.subgroup steps h
    simp only [step, Traced.value_bind, Traced.value_pure, mistakes]
    exact congrArg q.fault.or hinner
  | .when condition steps, h => by
    cases condition with
    | true =>
      simp only [step, mistakes, if_true]
      exact fault_steps q steps h
    | false => simp [step, mistakes]
  | .compareAll pairs, _ => by
    simp only [step, Traced.value_pure, mistakes, List.head?_nil, Option.or_none]
    exact fault_foldl_compare pairs q
  | .ensureSelected name, _ => by
    simp only [step, Traced.value_pure, mistakes, List.head?_nil, Option.or_none]
    exact fault_ensureSelected q name
  | .select _, _ | .addSelect _, _ | .about _, _ | .withSchema _, _ | .compare .., _
  | .require _, _ | .orderBy _, _ | .unordered, _ | .limit _, _ | .offset _, _
  | .forPage .., _ => by
    simp only [step, Traced.value_pure, mistakes, List.head?_nil, Option.or_none]
    rfl

/-- A chain of steps keeps an earlier mistake, else the first that any of them records. -/
theorem fault_steps (q : Query) : ∀ ss : List QueryStep, QueryStep.AllContinue ss →
    (q.steps ss).value.fault = q.fault.or (q.allMistakes ss).head?
  | [], _ => by simp [steps, allMistakes]
  | s :: rest, h => by
    simp only [steps, Traced.value_bind, allMistakes, List.head?_append]
    rw [fault_steps (q.step s).value rest h.2, fault_step q s h.1, Option.or_assoc]

end

end Query

/-- The mistake of the query for related keys, which a semi-join over a junction writes first. -/
def Linkage.keyMistakes (l : Linkage) (related : Query) : List Fault :=
  match l with
  | .manyToMany .. => related.unwritable
  | _ => []

mutual

/-- The mistakes that a step of a finder records. What is to be loaded with the records is built
when it is loaded. -/
def Query.findMistakes (c : Catalog) (t : ObjectType) (q : Query) : FinderStep → List Fault
  | .query s => q.mistakes s
  | .when condition steps => if condition then q.allFindMistakes c t steps else []
  | .whereHas relation steps =>
    match t.relation relation with
    | .error fault => [fault]
    | .ok r =>
      let related := c.describe r.related
      let inner := ((r.keyQuery related q).findSteps c related steps).value
      (r.keyQuery related q).allFindMistakes c related steps ++ r.linkage.keyMistakes inner ++
        (r.linkage.parentKeyQuery q inner).value.unwritable
  | .load _ | .loadWith .. | .loadPlan _ => []

def Query.allFindMistakes (c : Catalog) (t : ObjectType) (q : Query) : List FinderStep → List Fault
  | [] => []
  | s :: rest => q.findMistakes c t s ++ (q.findStep c t s).value.allFindMistakes c t rest

end

mutual

def FinderStep.Continues : FinderStep → Prop
  | .query s => s.Continues
  | .when _ steps | .whereHas _ steps => FinderStep.AllContinue steps
  | .load _ | .loadWith .. | .loadPlan _ => True

def FinderStep.AllContinue : List FinderStep → Prop
  | [] => True
  | s :: rest => s.Continues ∧ FinderStep.AllContinue rest

end

namespace Query

/-- The query for the keys that parents are compared with has the mistake of the query for the
related keys, or that of writing it. -/
theorem fault_parentKeyQuery (l : Linkage) (q related : Query) :
    (l.parentKeyQuery q related).value.fault = related.fault.or (l.keyMistakes related).head? := by
  cases l with
  | manyToMany junction pivotToParent pivotToRelated parentKey relatedKey =>
    simp only [Linkage.parentKeyQuery, fault_inSubselect, Subselect.text, head?_faults_text,
      Linkage.keyMistakes]
    exact Option.none_or
  | _ => exact (Option.or_none).symm

mutual

theorem fault_findStep (c : Catalog) (t : ObjectType) (q : Query) :
    ∀ s : FinderStep, s.Continues →
      (q.findStep c t s).value.fault = q.fault.or (q.findMistakes c t s).head?
  | .query s, h => by
    simp only [findStep, findMistakes]
    exact fault_step q s h
  | .when condition steps, h => by
    cases condition with
    | true =>
      simp only [findStep, findMistakes, if_true]
      exact fault_findSteps c t q steps h
    | false => simp [findStep, findMistakes]
  | .whereHas relation steps, h => by
    rw [findStep_whereHas, Traced.value_bind]
    cases hr : t.relation relation with
    | error fault =>
      simp only [existence_of_error c q steps hr, findMistakes, hr, Traced.value_pure]
      exact fault_fail q fault
    | ok r =>
      have hinner := fault_findSteps c (c.describe r.related)
        (r.keyQuery (c.describe r.related) q) steps h
      have hfresh : (r.keyQuery (c.describe r.related) q).fault = none := rfl
      rw [hfresh, Option.none_or] at hinner
      simp only [value_existence c q steps hr, findMistakes, hr, fault_inSubselect, Subselect.text,
        head?_faults_text, fault_parentKeyQuery, hinner, List.head?_append]
  | .load _, _ | .loadWith .., _ | .loadPlan _, _ => by
    simp [findStep, findMistakes]

theorem fault_findSteps (c : Catalog) (t : ObjectType) (q : Query) :
    ∀ ss : List FinderStep, FinderStep.AllContinue ss →
      (q.findSteps c t ss).value.fault = q.fault.or (q.allFindMistakes c t ss).head?
  | [], _ => by simp [findSteps, allFindMistakes]
  | s :: rest, h => by
    simp only [findSteps, Traced.value_bind, allFindMistakes, List.head?_append]
    rw [fault_findSteps c t (q.findStep c t s).value rest h.2, fault_findStep c t q s h.1,
      Option.or_assoc]

end

end Query

end RecordQuery
