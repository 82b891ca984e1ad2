import Mathlib.Data.List.Forall2
import RecordQuery.Proofs.Query.Growth

namespace RecordQuery

section Parts

variable (defaults : List String)

/-- Two clauses have the same text under every schema. -/
def Clause.SameText (c c' : Clause) : Prop :=
  ∀ schema, Clause.text? ⟨schema, defaults⟩ c = Clause.text? ⟨schema, defaults⟩ c'

/-- The same name is selected, or sub-selects with the same text are. -/
inductive Selected.SameText : Selected → Selected → Prop
  | field (name : String) : Selected.SameText (.field name) (.field name)
  | select {s s' : Select} :
    (∀ schema, s.text ⟨schema, defaults⟩ = s'.text ⟨schema, defaults⟩) →
    Selected.SameText (.select s) (.select s')

/-- Two statements agree part by part. -/
structure Select.SameText (s s' : Select) : Prop where
  fields : List.Forall₂ (Selected.SameText defaults) s.fields s'.fields
  object : s.object = s'.object
  clauses : List.Forall₂ (Clause.SameText defaults) s.clauses s'.clauses
  orders : s.orders = s'.orders
  limit : s.limit = s'.limit
  offset : s.offset = s'.offset

end Parts

variable {defaults : List String}

theorem Clause.SameText.refl (c : Clause) : c.SameText defaults c := fun _ => rfl

theorem Selected.SameText.refl (s : Selected) : s.SameText defaults s := by
  cases s with
  | field name => exact .field name
  | select s => exact .select fun _ => rfl

theorem Select.SameText.refl (s : Select) : s.SameText defaults s :=
  ⟨List.forall₂_same.2 fun s _ => .refl s, rfl, List.forall₂_same.2 fun c _ => .refl c, rfl, rfl,
    rfl⟩

theorem Clause.texts_congr {cs cs' : List Clause}
    (h : List.Forall₂ (Clause.SameText defaults) cs cs') (schema : Option Schema) :
    Clause.texts ⟨schema, defaults⟩ cs = Clause.texts ⟨schema, defaults⟩ cs' := by
  induction h with
  | nil => rfl
  | cons hc _ ih => rw [Clause.texts, Clause.texts, hc schema, ih]

theorem Selected.text_congr {s s' : Selected} (h : s.SameText defaults s')
    (schema : Option Schema) :
    Selected.text ⟨schema, defaults⟩ s = Selected.text ⟨schema, defaults⟩ s' := by
  cases h with
  | field name => rfl
  | select h =>
    rw [Selected.text, Selected.text]
    have hplain := h none
    exact congrArg (· >>= fun text => pure ("(" ++ text ++ ")")) hplain

theorem Selected.texts_congr {ss ss' : List Selected}
    (h : List.Forall₂ (Selected.SameText defaults) ss ss') (schema : Option Schema) :
    Selected.texts ⟨schema, defaults⟩ ss = Selected.texts ⟨schema, defaults⟩ ss' := by
  induction h with
  | nil => rfl
  | cons hs _ ih => rw [Selected.texts, Selected.texts, Selected.text_congr hs schema, ih]

/-- Statements that agree part by part have the same text. -/
theorem Select.SameText.text {s s' : Select} (h : s.SameText defaults s')
    (schema : Option Schema) : s.text ⟨schema, defaults⟩ = s'.text ⟨schema, defaults⟩ := by
  obtain ⟨fields, object, clauses, orders, limit, offset⟩ := s
  obtain ⟨fields', object', clauses', orders', limit', offset'⟩ := s'
  obtain ⟨hfields, hobject, hclauses, horders, hlimit, hoffset⟩ := h
  dsimp only at hfields hobject hclauses horders hlimit hoffset
  subst hobject horders hlimit hoffset
  have hempty : fields.isEmpty = fields'.isEmpty := by
    cases hfields with
    | nil => rfl
    | cons _ _ => rfl
  rw [Select.text, Select.text, Selected.texts_congr hfields, Clause.texts_congr hclauses, hempty]

namespace Query

/-- Two queries with the same dialect, the same mistake and the same text. -/
structure SameText (q q' : Query) : Prop where
  dialect : q.dialect = q'.dialect
  fault : q.fault = q'.fault
  statement : q.statement.SameText q.dialect.defaultFields q'.statement

variable {q q' : Query}

theorem SameText.refl (q : Query) : q.SameText q := ⟨rfl, rfl, .refl _⟩

theorem SameText.text (h : q.SameText q') : q.text.value = q'.text.value := by
  rw [value_text, value_text, ← h.fault, ← h.dialect]
  cases q.fault with
  | some fault => rfl
  | none => exact h.statement.text q.dialect.schema

theorem SameText.object (h : q.SameText q') : q.object = q'.object := h.statement.object

theorem SameText.renewed (h : q.SameText q') : q.renewed = q'.renewed := by
  rw [Query.renewed, Query.renewed, h.dialect]

theorem SameText.subgroup (h : q.SameText q') : q.subgroup = q'.subgroup := by
  rw [Query.subgroup, Query.subgroup, h.renewed, h.object]

theorem SameText.fail (h : q.SameText q') (fault : Fault) :
    (q.fail fault).SameText (q'.fail fault) :=
  ⟨h.dialect, congrArg (Option.or · (some fault)) h.fault, h.statement⟩

theorem SameText.absorb (h : q.SameText q') {sub sub' : Query} (hsub : sub.fault = sub'.fault) :
    (q.absorb sub).SameText (q'.absorb sub') :=
  ⟨h.dialect, congrArg₂ Option.or h.fault hsub, h.statement⟩

theorem SameText.require (h : q.SameText q') {c c' : Clause}
    (hc : c.SameText q.dialect.defaultFields c') : (q.require c).SameText (q'.require c') :=
  ⟨h.dialect, h.fault, { h.statement with
    clauses := List.rel_append h.statement.clauses (.cons hc .nil) }⟩

theorem SameText.withFields (h : q.SameText q') {ss ss' : List Selected}
    (hs : List.Forall₂ (Selected.SameText q.dialect.defaultFields) ss ss') :
    SameText { q with statement := { q.statement with fields := ss } }
      { q' with statement := { q'.statement with fields := ss' } } :=
  ⟨h.dialect, h.fault, { h.statement with fields := hs }⟩

theorem SameText.alsoSelect (h : q.SameText q') {s s' : Selected}
    (hs : s.SameText q.dialect.defaultFields s') :
    SameText { q with statement := { q.statement with fields := q.statement.fields ++ [s] } }
      { q' with statement := { q'.statement with fields := q'.statement.fields ++ [s'] } } :=
  h.withFields (List.rel_append h.statement.fields (.cons hs .nil))

theorem SameText.covers (h : q.SameText q') (name : String) : q.covers name = q'.covers name := by
  unfold Query.covers
  have hfields := h.statement.fields
  generalize q.statement.fields = ss at hfields
  generalize q'.statement.fields = ss' at hfields
  have hempty : ss.isEmpty = ss'.isEmpty := by
    cases hfields with
    | nil => rfl
    | cons _ _ => rfl
  rw [hempty]
  refine congrArg _ ?_
  clear hempty
  induction hfields with
  | nil => rfl
  | cons hs _ ih =>
    rw [List.any_cons, List.any_cons, ih]
    cases hs with
    | field name => rfl
    | select h => rfl

theorem SameText.inSubselect (h : q.SameText q') (field : String) (negated : Bool)
    {sub sub' : Subselect} (hsub : sub.text.value = sub'.text.value) :
    (q.inSubselect field negated sub).value.SameText (q'.inSubselect field negated sub').value := by
  rw [value_inSubselect, value_inSubselect, ← hsub]
  cases sub.text.value with
  | ok text => exact h.require (.refl _)
  | error fault => exact h.fail fault

theorem SameText.group (h : q.SameText q') {sub sub' : Query} (hsub : sub.SameText sub')
    (hdefaults : sub.dialect.defaultFields = q.dialect.defaultFields) :
    (q.group sub).SameText (q'.group sub') := by
  refine (h.absorb hsub.fault).require fun schema => ?_
  have hclauses := Clause.texts_congr hsub.statement.clauses schema
  rw [hdefaults] at hclauses
  change Clause.text? ⟨schema, q.dialect.defaultFields⟩ (.group sub.statement.clauses) =
    Clause.text? ⟨schema, q.dialect.defaultFields⟩ (.group sub'.statement.clauses)
  rw [Clause.text?, Clause.text?, hclauses]

theorem SameText.compareQuery (h : q.SameText q') (field : String) (op : Operator)
    {sub sub' : Query} (hsub : sub.SameText sub')
    (hdefaults : sub.dialect.defaultFields = q.dialect.defaultFields) :
    (q.compareQuery field op sub).SameText (q'.compareQuery field op sub') := by
  refine (h.absorb hsub.fault).require fun schema => ?_
  have htext := hsub.statement.text none
  rw [hdefaults] at htext
  change Clause.text? ⟨schema, q.dialect.defaultFields⟩ _ = _
  rw [Clause.text?, Clause.text?]
  split
  · exact congrArg (· >>= fun text => pure (some (field ++ " " ++ op.text ++ " (" ++ text ++ ")")))
      htext
  · rfl

theorem SameText.addSelectQuery (h : q.SameText q') {sub sub' : Query} (hsub : sub.SameText sub')
    (hdefaults : sub.dialect.defaultFields = q.dialect.defaultFields) :
    (q.addSelectQuery sub).SameText (q'.addSelectQuery sub') := by
  refine (h.absorb hsub.fault).alsoSelect (.select fun schema => ?_)
  have htext := hsub.statement.text schema
  rwa [hdefaults] at htext

theorem SameText.foldl_compare (pairs : List (String × Value)) (h : q.SameText q') :
    (pairs.foldl (fun q e => q.compare e.1 .eq e.2) q).SameText
      (pairs.foldl (fun q e => q.compare e.1 .eq e.2) q') := by
  induction pairs generalizing q q' with
  | nil => exact h
  | cons e rest ih => exact ih (h.require (.refl _))

mutual

/-- A step leaves queries that are written alike as ones that are. -/
theorem SameText.step {q q' : Query} (h : q.SameText q') :
    ∀ s : QueryStep, (q.step s).value.SameText (q'.step s).value
  | .select names => by
    simp only [Query.step, Traced.value_pure]
    exact h.withFields (List.forall₂_same.2 fun s _ => .refl s)
  | .addSelect name => by
    simp only [Query.step, Traced.value_pure]
    exact h.alsoSelect (.refl _)
  | .ensureSelected name => by
    simp only [Query.step, Traced.value_pure, ensureSelected, h.covers name]
    split
    · exact h
    · exact h.alsoSelect (.refl _)
  | .addSelectQuery steps => by
    -- The inner steps begin with the dialect alone, which is the same, and build the same query.
    simp only [Query.step, Traced.value_bind, Traced.value_pure, ← h.renewed]
    exact h.addSelectQuery (.refl _) (defaultFields_steps q.renewed steps)
  | .about object => by
    simp only [Query.step, Traced.value_pure]
    exact ⟨h.dialect, h.fault, { h.statement with object := rfl }⟩
  | .withSchema schema => by
    simp only [Query.step, Traced.value_pure]
    exact ⟨congrArg (fun d : Dialect => { d with schema := some schema }) h.dialect, h.fault,
      h.statement⟩
  | .renew => by
    simp only [Query.step, Traced.value_pure, ← h.renewed]
    exact .refl _
  | .fail fault => by
    simp only [Query.step, Traced.value_pure]
    exact h.fail fault
  | .compare field op value => by
    simp only [Query.step, Traced.value_pure]
    exact h.require (.refl _)
  | .compareBy field op value => by
    simp only [Query.step, Traced.value_pure, compareBy]
    cases Operator.ofText op with
    | ok op => exact h.require (.refl _)
    | error fault => exact h.fail fault
  | .compareAll pairs => by
    simp only [Query.step, Traced.value_pure]
    exact h.foldl_compare pairs
  | .compareQuery field op steps => by
    simp only [Query.step, Traced.value_bind, Traced.value_pure, ← h.renewed]
    exact h.compareQuery field op (.refl _) (defaultFields_steps q.renewed steps)
  | .require c => by
    simp only [Query.step, Traced.value_pure]
    exact h.require (.refl c)
  | .group steps => by
    simp only [Query.step, Traced.value_bind, Traced.value_pure, ← h.subgroup]
    exact h.group (.refl _) (defaultFields_steps q.subgroup steps)
  | .inText field negated text => by
    simp only [Query.step]
    exact h.inSubselect field negated rfl
  | .inQuery field negated steps => by
    simp only [Query.step, Traced.value_bind, ← h.renewed]
    exact h.inSubselect field negated rfl
  | .orderBy order => by
    simp only [Query.step, Traced.value_pure]
    exact ⟨h.dialect, h.fault, { h.statement with
      orders := congrArg (· ++ [order]) h.statement.orders }⟩
  | .unordered => by
    simp only [Query.step, Traced.value_pure]
    exact ⟨h.dialect, h.fault, { h.statement with orders := rfl }⟩
  | .limit n => by
    simp only [Query.step, Traced.value_pure]
    exact ⟨h.dialect, h.fault, { h.statement with limit := rfl }⟩
  | .offset n => by
    simp only [Query.step, Traced.value_pure]
    exact ⟨h.dialect, h.fault, { h.statement with offset := rfl }⟩
  | .forPage page perPage => by
    simp only [Query.step, Traced.value_pure]
    exact ⟨h.dialect, h.fault, { h.statement with offset := rfl, limit := rfl }⟩
  | .when condition steps => by
    cases condition with
    | true =>
      simp only [Query.step, if_true]
      exact h.steps steps
    | false =>
      simp only [Query.step, Bool.false_eq_true, if_false, Traced.value_pure]
      exact h

theorem SameText.steps {q q' : Query} (h : q.SameText q') :
    ∀ ss : List QueryStep, (q.steps ss).value.SameText (q'.steps ss).value
  | [] => by
    simp only [Query.steps, Traced.value_pure]
    exact h
  | s :: rest => by
    simp only [Query.steps, Traced.value_bind]
    exact (h.step s).steps rest

end

end Query

end RecordQuery
