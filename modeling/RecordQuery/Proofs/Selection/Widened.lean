import RecordQuery.Proofs.Loading.Plan
import RecordQuery.Proofs.Query.Mistakes

namespace RecordQuery

namespace QueryStep

mutual

/-- The step without what it selects. -/
def widened : QueryStep → QueryStep
  | .select _ | .addSelect _ | .ensureSelected _ | .addSelectQuery _ => .when false []
  | .when condition steps => .when condition (allWidened steps)
  | s => s

def allWidened : List QueryStep → List QueryStep
  | [] => []
  | s :: rest => s.widened :: allWidened rest

end

end QueryStep

namespace FinderStep

mutual

def widened : FinderStep → FinderStep
  | .query s => .query s.widened
  | .when condition steps => .when condition (allWidened steps)
  | .load paths => .load paths
  | .loadWith path steps => .loadWith path (allWidened steps)
  | .loadPlan entries => .loadPlan (entriesWidened entries)
  | .whereHas relation steps => .whereHas relation steps

def allWidened : List FinderStep → List FinderStep
  | [] => []
  | s :: rest => s.widened :: allWidened rest

def entriesWidened : List (String × List FinderStep) → List (String × List FinderStep)
  | [] => []
  | (path, steps) :: rest => (path, allWidened steps) :: entriesWidened rest

end

end FinderStep

namespace Query

section Inner

variable {q q' : Query} (h : q'.dialect = q.dialect)

include h

/-- An inner query takes the dialect over and nothing else. -/
theorem renewed_congr : q'.renewed = q.renewed := by
  rw [renewed, renewed, h]

theorem keyQuery_congr (r : Relation) (related : ObjectType) :
    r.keyQuery related q' = r.keyQuery related q := by
  rw [Relation.keyQuery, Relation.keyQuery, renewed_congr h]

theorem parentKeyQuery_congr (l : Linkage) (related : Query) :
    l.parentKeyQuery q' related = l.parentKeyQuery q related := by
  cases l <;> simp only [Linkage.parentKeyQuery, renewed_congr h]

theorem existence_congr (c : Catalog) (t : ObjectType) (relation : String)
    (steps : List FinderStep) :
    q'.existence c t relation steps = q.existence c t relation steps := by
  simp only [existence, semijoin, keyQuery_congr h, parentKeyQuery_congr h]

end Inner

/-- A query is another one without what that one selects. A mistake in what is selected may be
missing from it. -/
structure Widens (q wide : Query) : Prop where
  dialect : wide.dialect = q.dialect
  statement : wide.statement = { q.statement with fields := [] }
  fault : q.fault = none → wide.fault = none

namespace Widens

variable {q wide : Query}

theorem refl (h : q.statement.fields = []) : Widens q q := by
  obtain ⟨d, ⟨fields, object, clauses, orders, limit, offset⟩, fault⟩ := q
  obtain rfl : fields = [] := h
  exact ⟨rfl, rfl, id⟩

theorem object (h : Widens q wide) : wide.object = q.object := by
  rw [Query.object, h.statement]
  rfl

/-- What a query selects does not matter. -/
theorem reselected (h : Widens q wide) {q' : Query} (hdialect : q'.dialect = q.dialect)
    (hstatement : { q'.statement with fields := [] } = { q.statement with fields := [] })
    (hfault : q'.fault = none → q.fault = none) : Widens q' wide where
  dialect := h.dialect.trans hdialect.symm
  statement := h.statement.trans hstatement.symm
  fault hnone := h.fault (hfault hnone)

/-- The rest of the statement changes in the same way. -/
theorem restated (h : Widens q wide) (change : Select → Select)
    (hchange : ∀ s : Select, change { s with fields := [] } = { change s with fields := [] }) :
    Widens { q with statement := change q.statement }
      { wide with statement := change wide.statement } where
  dialect := h.dialect
  statement := by
    rw [h.statement]
    exact hchange q.statement
  fault := h.fault

theorem fail (h : Widens q wide) (fault : Fault) : Widens (q.fail fault) (wide.fail fault) where
  dialect := h.dialect
  statement := h.statement
  fault hnone := by
    rw [fault_fail, Option.or_eq_none_iff] at hnone
    exact nomatch hnone.2

theorem absorb (h : Widens q wide) (sub : Query) : Widens (q.absorb sub) (wide.absorb sub) where
  dialect := h.dialect
  statement := h.statement
  fault hnone := by
    obtain ⟨hq, hsub⟩ := Option.or_eq_none_iff.1 hnone
    exact Option.or_eq_none_iff.2 ⟨h.fault hq, hsub⟩

theorem withSchema (h : Widens q wide) (schema : Schema) :
    Widens (q.withSchema schema) (wide.withSchema schema) where
  dialect := by
    rw [Query.withSchema, Query.withSchema, h.dialect]
  statement := h.statement
  fault := h.fault

theorem require (h : Widens q wide) (c : Clause) : Widens (q.require c) (wide.require c) :=
  h.restated (fun s => { s with clauses := s.clauses ++ [c] }) fun _ => rfl

theorem compare (h : Widens q wide) (field : String) (op : Operator) (v : Value) :
    Widens (q.compare field op v) (wide.compare field op v) :=
  h.require (comparison field op v)

theorem compareBy (h : Widens q wide) (field op : String) (v : Value) :
    Widens (q.compareBy field op v) (wide.compareBy field op v) := by
  unfold Query.compareBy
  cases Operator.ofText op with
  | ok op => exact h.compare field op v
  | error fault => exact h.fail fault

theorem compareAll (pairs : List (String × Value)) (h : Widens q wide) :
    Widens (pairs.foldl (fun q e => q.compare e.1 .eq e.2) q)
      (pairs.foldl (fun q e => q.compare e.1 .eq e.2) wide) := by
  induction pairs generalizing q wide with
  | nil => exact h
  | cons e pairs ih => exact ih (h.compare e.1 .eq e.2)

theorem inSubselect (h : Widens q wide) (field : String) (negated : Bool) (sub : Subselect) :
    Widens (q.inSubselect field negated sub).value (wide.inSubselect field negated sub).value := by
  unfold Query.inSubselect
  rw [Traced.value_bind, Traced.value_bind]
  cases sub.text.value with
  | ok text => exact h.require _
  | error fault => exact h.fail fault

theorem covers (h : Widens q wide) (name : String) : wide.covers name = true := by
  rw [Query.covers, h.statement]
  rfl

theorem ensureSelected (h : Widens q wide) (name : String) :
    Widens (q.ensureSelected name) (wide.ensureSelected name) := by
  rw [Query.ensureSelected, Query.ensureSelected, h.covers name, if_pos rfl]
  split
  · exact h
  · exact h.reselected rfl rfl id

mutual

/-- A step and the step without what it selects do the same to the rest of the query. -/
theorem step {q wide : Query} (h : Widens q wide) : ∀ s : QueryStep,
    Widens (q.step s).value (wide.step s.widened).value
  | .select _ | .addSelect _ => h.reselected rfl rfl id
  | .ensureSelected name => by
    refine h.reselected ?_ ?_ ?_ <;> simp only [Query.step, Traced.value_pure, Query.ensureSelected]
      <;> split <;> first | rfl | exact id
  | .addSelectQuery steps => h.reselected rfl rfl fun hnone => (Option.or_eq_none_iff.1 hnone).1
  | .when condition ss => by
    simp only [QueryStep.widened, Query.step]
    split
    · exact h.steps ss
    · exact h
  | .about object => h.restated (fun s => { s with object }) fun _ => rfl
  | .withSchema schema => h.withSchema schema
  | .renew => by
    simp only [QueryStep.widened, Query.step, Traced.value_pure, renewed_congr h.dialect]
    exact refl rfl
  | .fail fault => h.fail fault
  | .compare field op value => by
    simp only [QueryStep.widened, Query.step, Traced.value_pure]
    exact h.compare field op value
  | .compareBy field op value => by
    simp only [QueryStep.widened, Query.step, Traced.value_pure]
    exact h.compareBy field op value
  | .compareAll pairs => by
    simp only [QueryStep.widened, Query.step, Traced.value_pure]
    exact compareAll pairs h
  | .compareQuery field op steps => by
    simp only [QueryStep.widened, Query.step, Traced.value_bind, Traced.value_pure,
      renewed_congr h.dialect]
    exact (h.absorb _).require _
  | .require clause => h.require clause
  | .group steps => by
    simp only [QueryStep.widened, Query.step, Traced.value_bind, Traced.value_pure,
      Query.subgroup, renewed_congr h.dialect, h.object]
    exact (h.absorb _).require _
  | .inText field negated text => h.inSubselect field negated (.raw text)
  | .inQuery field negated steps => by
    simp only [QueryStep.widened, Query.step, Traced.value_bind, renewed_congr h.dialect]
    exact h.inSubselect field negated _
  | .orderBy order => h.restated (fun s => { s with orders := s.orders ++ [order] }) fun _ => rfl
  | .unordered => h.restated (fun s => { s with orders := [] }) fun _ => rfl
  | .limit n => h.restated (fun s => { s with limit := some n }) fun _ => rfl
  | .offset n => h.restated (fun s => { s with offset := some n }) fun _ => rfl
  | .forPage page perPage => h.restated (fun s =>
      { s with offset := some (min ((page - 1) * perPage) maxCount), limit := some perPage })
      fun _ => rfl

theorem steps {q wide : Query} (h : Widens q wide) : ∀ ss : List QueryStep,
    Widens (q.steps ss).value (wide.steps (QueryStep.allWidened ss)).value
  | [] => h
  | s :: rest => by
    simp only [QueryStep.allWidened, Query.steps, Traced.value_bind]
    exact (h.step s).steps rest

end

mutual

theorem findStep {q wide : Query} (c : Catalog) (t : ObjectType) (h : Widens q wide) :
    ∀ s : FinderStep, Widens (q.findStep c t s).value (wide.findStep c t s.widened).value
  | .query s => by
    simp only [FinderStep.widened, Query.findStep]
    exact h.step s
  | .when condition ss => by
    simp only [FinderStep.widened, Query.findStep]
    split
    · exact h.findSteps c t ss
    · exact h
  | .whereHas relation ss => by
    rw [FinderStep.widened, findStep_whereHas, findStep_whereHas, existence_congr h.dialect,
      Traced.value_bind, Traced.value_bind]
    cases (q.existence c t relation ss).value with
    | error fault => exact h.fail fault
    | ok compared => exact h.inSubselect _ false _
  | .load _ | .loadWith .. | .loadPlan _ => h

theorem findSteps {q wide : Query} (c : Catalog) (t : ObjectType) (h : Widens q wide) :
    ∀ ss : List FinderStep,
      Widens (q.findSteps c t ss).value (wide.findSteps c t (FinderStep.allWidened ss)).value
  | [] => h
  | s :: rest => by
    simp only [FinderStep.allWidened, Query.findSteps, Traced.value_bind]
    exact (h.findStep c t s).findSteps c t rest

end

end Widens

/-- Two queries select the same, and whatever is selected later will be the same. -/
structure SelectsAs (q q' : Query) : Prop where
  dialect : q'.dialect = q.dialect
  fields : q'.statement.fields = q.statement.fields

namespace SelectsAs

variable {q q' : Query}

theorem addSelect (h : SelectsAs q q') (name : String) :
    SelectsAs (q.addSelect name) (q'.addSelect name) :=
  ⟨h.dialect, congrArg (fun fields => fields ++ [Selected.field name]) h.fields⟩

theorem ensureSelected (h : SelectsAs q q') (name : String) :
    SelectsAs (q.ensureSelected name) (q'.ensureSelected name) := by
  have hcovers : q'.covers name = q.covers name := by
    rw [Query.covers, Query.covers, h.fields]
  rw [Query.ensureSelected, Query.ensureSelected, hcovers]
  split
  · exact h
  · exact h.addSelect name

theorem compareBy (h : SelectsAs q q') (field op : String) (v : Value) :
    SelectsAs (q.compareBy field op v) (q'.compareBy field op v) := by
  unfold Query.compareBy
  cases Operator.ofText op <;> exact ⟨h.dialect, h.fields⟩

theorem compareAll (pairs : List (String × Value)) (h : SelectsAs q q') :
    SelectsAs (pairs.foldl (fun q e => q.compare e.1 .eq e.2) q)
      (pairs.foldl (fun q e => q.compare e.1 .eq e.2) q') := by
  induction pairs generalizing q q' with
  | nil => exact h
  | cons e pairs ih => exact ih ⟨h.dialect, h.fields⟩

theorem inSubselect (h : SelectsAs q q') (field : String) (negated : Bool) (sub : Subselect) :
    SelectsAs (q.inSubselect field negated sub).value
      (q'.inSubselect field negated sub).value := by
  unfold Query.inSubselect
  rw [Traced.value_bind, Traced.value_bind]
  cases sub.text.value <;> exact ⟨h.dialect, h.fields⟩

mutual

theorem step {q q' : Query} (h : SelectsAs q q') : ∀ s : QueryStep,
    SelectsAs (q.step s).value (q'.step s).value
  | .select names => ⟨h.dialect, rfl⟩
  | .addSelect name => h.addSelect name
  | .ensureSelected name => h.ensureSelected name
  | .addSelectQuery ss => by
    simp only [Query.step, Traced.value_bind, Traced.value_pure, renewed_congr h.dialect]
    exact ⟨h.dialect, congrArg
      (fun fields => fields ++ [Selected.select (q.renewed.steps ss).value.statement]) h.fields⟩
  | .withSchema schema => ⟨by
      simp only [Query.step, Traced.value_pure, Query.withSchema, h.dialect], h.fields⟩
  | .renew => by
    simp only [Query.step, Traced.value_pure, renewed_congr h.dialect]
    exact ⟨rfl, rfl⟩
  | .when condition ss => by
    simp only [Query.step]
    split
    · exact h.steps ss
    · exact h
  | .compareBy field op v => by
    simp only [Query.step, Traced.value_pure]
    exact h.compareBy field op v
  | .compareAll pairs => by
    simp only [Query.step, Traced.value_pure]
    exact compareAll pairs h
  | .inText field negated text => h.inSubselect field negated (.raw text)
  | .inQuery field negated ss => by
    simp only [Query.step, Traced.value_bind, renewed_congr h.dialect]
    exact h.inSubselect field negated _
  | .about _ | .fail _ | .compare .. | .compareQuery .. | .require _ | .group _ | .orderBy _
  | .unordered | .limit _ | .offset _ | .forPage .. => ⟨h.dialect, h.fields⟩

theorem steps {q q' : Query} (h : SelectsAs q q') : ∀ ss : List QueryStep,
    SelectsAs (q.steps ss).value (q'.steps ss).value
  | [] => h
  | s :: rest => by
    simp only [Query.steps, Traced.value_bind]
    exact (h.step s).steps rest

end

mutual

theorem findStep {q q' : Query} (c : Catalog) (t : ObjectType) (h : SelectsAs q q') :
    ∀ s : FinderStep, SelectsAs (q.findStep c t s).value (q'.findStep c t s).value
  | .query s => by
    simp only [Query.findStep]
    exact h.step s
  | .when condition ss => by
    simp only [Query.findStep]
    split
    · exact h.findSteps c t ss
    · exact h
  | .whereHas relation ss => by
    rw [findStep_whereHas, findStep_whereHas, existence_congr h.dialect, Traced.value_bind,
      Traced.value_bind]
    cases (q.existence c t relation ss).value with
    | error fault => exact ⟨h.dialect, h.fields⟩
    | ok compared => exact h.inSubselect _ false _
  | .load _ | .loadWith .. | .loadPlan _ => h

theorem findSteps {q q' : Query} (c : Catalog) (t : ObjectType) (h : SelectsAs q q') :
    ∀ ss : List FinderStep, SelectsAs (q.findSteps c t ss).value (q'.findSteps c t ss).value
  | [] => h
  | s :: rest => by
    simp only [Query.findSteps, Traced.value_bind]
    exact (h.findStep c t s).findSteps c t rest

end

end SelectsAs

end Query

end RecordQuery
