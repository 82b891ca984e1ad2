import RecordQuery.Proofs.Query.SameText

namespace RecordQuery

def Fails {α : Type} (x : Except Fault α) : Prop := ∃ fault, x = .error fault

theorem Fails.bind {α β : Type} {x : Except Fault α} (h : Fails x) (f : α → Except Fault β) :
    Fails (x >>= f) := by
  obtain ⟨fault, rfl⟩ := h
  exact ⟨fault, rfl⟩

theorem fails_bind {α β : Type} (x : Except Fault α) {f : α → Except Fault β}
    (h : ∀ a, Fails (f a)) : Fails (x >>= f) := by
  cases x with
  | ok a => exact h a
  | error fault => exact ⟨fault, rfl⟩

def Clause.Unwritable (c : Clause) : Prop := ∀ d, Fails (Clause.text? d c)

def Selected.Unwritable (s : Selected) : Prop := ∀ d, Fails (Selected.text d s)

def Select.Unwritable (s : Select) : Prop := ∀ d, Fails (s.text d)

/-- What cannot be written in one dialect cannot be written in any. -/
theorem Select.unwritable_of_error {s : Select} {d : Dialect} {fault : Fault}
    (h : s.text d = .error fault) : s.Unwritable := by
  intro d'
  refine ⟨fault, eq_error_of_faults ?_⟩
  rw [Select.faults_text_congr rfl d' d, h]
  rfl

theorem Clause.fails_texts {c : Clause} (hc : c.Unwritable) (d : Dialect) :
    ∀ {cs : List Clause}, c ∈ cs → Fails (Clause.texts d cs)
  | c' :: rest, hmem => by
    rw [Clause.texts]
    rcases List.mem_cons.1 hmem with rfl | hmem
    · exact (hc d).bind _
    · exact fails_bind _ fun _ => (fails_texts hc d hmem).bind _

theorem Selected.fails_texts {s : Selected} (hs : s.Unwritable) (d : Dialect) :
    ∀ {ss : List Selected}, s ∈ ss → Fails (Selected.texts d ss)
  | s' :: rest, hmem => by
    rw [Selected.texts]
    rcases List.mem_cons.1 hmem with rfl | hmem
    · exact (hs d).bind _
    · exact fails_bind _ fun _ => (fails_texts hs d hmem).bind _

theorem Select.unwritable_of_clause {s : Select} {c : Clause} (hmem : c ∈ s.clauses)
    (hc : c.Unwritable) : s.Unwritable := by
  obtain ⟨fields, object, clauses, orders, limit, offset⟩ := s
  intro d
  rw [Select.text]
  exact fails_bind _ fun _ => (Clause.fails_texts hc d hmem).bind _

theorem Select.unwritable_of_field {s : Select} {x : Selected} (hmem : x ∈ s.fields)
    (hx : x.Unwritable) : s.Unwritable := by
  obtain ⟨fields, object, clauses, orders, limit, offset⟩ := s
  intro d
  rw [Select.text]
  exact (Selected.fails_texts hx d hmem).bind _

theorem Clause.unwritable_group {cs : List Clause} {c : Clause} (hmem : c ∈ cs)
    (hc : c.Unwritable) : (Clause.group cs).Unwritable := by
  intro d
  rw [Clause.text?]
  exact (Clause.fails_texts hc d hmem).bind _

theorem Clause.unwritable_inSelect {s : Select} (h : s.Unwritable) (field : String)
    (op : Operator) : (Clause.inSelect field op s).Unwritable := by
  intro d
  rw [Clause.text?]
  split
  · exact (h d.plain).bind _
  · exact ⟨_, rfl⟩

theorem Selected.unwritable_select {s : Select} (h : s.Unwritable) :
    (Selected.select s).Unwritable := by
  intro d
  rw [Selected.text]
  exact (h d.plain).bind _

namespace Query

theorem fault_or_unwritable_of_error {q : Query} {fault : Fault}
    (h : q.text.value = .error fault) : q.fault.isSome ∨ q.statement.Unwritable := by
  rw [value_text] at h
  cases hfault : q.fault with
  | some cause => exact .inl rfl
  | none =>
    rw [hfault] at h
    exact .inr (Select.unwritable_of_error h)

/-- The query has a mistake or cannot be written. Only a `loose` query may hang on what it
selects. -/
def Barred (loose : Bool) (q : Query) : Prop :=
  q.fault.isSome ∨ (∃ c ∈ q.statement.clauses, c.Unwritable) ∨
    (loose = true ∧ ∃ s ∈ q.statement.fields, s.Unwritable)

namespace Barred

variable {loose : Bool} {q r : Query}

theorem fault_or_unwritable (h : q.Barred loose) : q.fault.isSome ∨ q.statement.Unwritable := by
  rcases h with hfault | ⟨c, hmem, hc⟩ | ⟨-, s, hmem, hs⟩
  · exact .inl hfault
  · exact .inr (Select.unwritable_of_clause hmem hc)
  · exact .inr (Select.unwritable_of_field hmem hs)

theorem fails (h : q.Barred loose) : Fails q.text.value := by
  rw [value_text]
  cases hfault : q.fault with
  | some fault => exact ⟨fault, rfl⟩
  | none =>
    rcases h.fault_or_unwritable with hsome | hunwritable
    · rw [hfault] at hsome
      exact nomatch hsome
    · exact hunwritable q.dialect

theorem of_require {c : Clause} (hc : c.Unwritable) : (q.require c).Barred loose :=
  .inr (.inl ⟨c, List.mem_append_right _ List.mem_cons_self, hc⟩)

/-- Nothing that is added helps. -/
theorem of_extends (h : q.Barred loose) (hr : q.Extends r) : r.Barred loose := by
  rcases h with hfault | ⟨c, hmem, hc⟩ | ⟨hloose, s, hmem, hs⟩
  · exact .inl (hr.fault hfault)
  · exact .inr (.inl ⟨c, hr.clauses hmem, hc⟩)
  · exact .inr (.inr ⟨hloose, s, hr.fields hmem, hs⟩)

end Barred

section Inner

variable (q : Query) {sub : Query}

/-- A group has the clauses of its query but not what that selects. -/
theorem barred_group (h : sub.Barred false) : (q.group sub).Barred false := by
  rcases h with hfault | ⟨c, hmem, hc⟩ | ⟨hloose, -⟩
  · exact .inl (q.isSome_fault_absorb hfault)
  · exact .of_require (Clause.unwritable_group hmem hc)
  · exact nomatch hloose

theorem barred_compareQuery (field : String) (op : Operator)
    (h : sub.fault.isSome ∨ sub.statement.Unwritable) :
    (q.compareQuery field op sub).Barred false := by
  rcases h with hfault | hunwritable
  · exact .inl (q.isSome_fault_absorb hfault)
  · exact .of_require (Clause.unwritable_inSelect hunwritable field op)

theorem barred_addSelectQuery (h : sub.fault.isSome ∨ sub.statement.Unwritable) :
    (q.addSelectQuery sub).Barred true := by
  rcases h with hfault | hunwritable
  · exact .inl (q.isSome_fault_absorb hfault)
  · exact .inr (.inr ⟨rfl, _, List.mem_append_right _ List.mem_cons_self,
      Selected.unwritable_select hunwritable⟩)

end Inner

/-- Two queries that are written alike, or a query with a mistake and one that is barred. -/
def Agree (loose : Bool) (q q' : Query) : Prop :=
  q.SameText q' ∨ (q.dialect = q'.dialect ∧ q.fault.isSome ∧ q'.Barred loose)

end Query

mutual

/-- What is selected before the step is selected after it. -/
def QueryStep.KeepsFields : QueryStep → Prop
  | .select _ => False
  | .when condition steps => condition = true → QueryStep.AllKeepFields steps
  | .withSchema _ | .renew | .addSelect _ | .ensureSelected _ | .addSelectQuery _ | .about _
  | .fail _ | .compare .. | .compareBy .. | .compareAll _ | .compareQuery .. | .require _ | .group _
  | .inText .. | .inQuery .. | .orderBy _ | .unordered | .limit _ | .offset _ | .forPage .. => True

def QueryStep.AllKeepFields : List QueryStep → Prop
  | [] => True
  | s :: rest => s.KeepsFields ∧ QueryStep.AllKeepFields rest

end

namespace Query

theorem Agree.toOption_text {loose : Bool} {q q' : Query} (h : q.Agree loose q') :
    q.text.value.toOption = q'.text.value.toOption := by
  rcases h with h | ⟨-, hfault, hbarred⟩
  · rw [h.text]
  · obtain ⟨fault, herror⟩ := (show q.Barred loose from .inl hfault).fails
    obtain ⟨fault', herror'⟩ := hbarred.fails
    rw [herror, herror']
    rfl

theorem Agree.of_adds {loose : Bool} {q q' : Query} (h : q.Agree loose q') {s : QueryStep}
    (hs : s.Adds) : (q.step s).value.Agree loose (q'.step s).value := by
  rcases h with h | ⟨hdialect, hfault, hbarred⟩
  · exact .inl (h.step s)
  · have hq := q.extends_step s hs
    have hq' := q'.extends_step s hs
    exact .inr ⟨by rw [hq.dialect, hq'.dialect, hdialect], hq.fault hfault, hbarred.of_extends hq'⟩

mutual

/-- The agreement outlasts a step, and when it hangs on what is selected, a step that keeps
that. -/
theorem Agree.step {loose : Bool} {q q' : Query} (h : q.Agree loose q') :
    ∀ s : QueryStep, (loose = true → s.KeepsFields) →
      (q.step s).value.Agree loose (q'.step s).value
  | .select names, hs => by
    rcases h with h | ⟨hdialect, hfault, hbarred⟩
    · exact .inl (h.step _)
    · simp only [Query.step, Traced.value_pure]
      refine .inr ⟨hdialect, hfault, ?_⟩
      -- A sub-select that was selected is gone; a mistake or a clause is not.
      rcases hbarred with hfault' | hclause | ⟨hloose, -⟩
      · exact .inl hfault'
      · exact .inr (.inl hclause)
      · exact (hs hloose).elim
  | .withSchema schema, _ => by
    rcases h with h | ⟨hdialect, hfault, hbarred⟩
    · exact .inl (h.step _)
    · simp only [Query.step, Traced.value_pure]
      exact .inr ⟨congrArg (fun d : Dialect => { d with schema := some schema }) hdialect, hfault,
        hbarred⟩
  | .renew, _ => by
    have hdialect : q.dialect = q'.dialect := h.elim SameText.dialect And.left
    simp only [Query.step, Traced.value_pure, renewed, hdialect]
    exact .inl (.refl _)
  | .when condition steps, hs => by
    cases condition with
    | true =>
      simp only [Query.step, if_true]
      exact h.steps steps fun hloose => hs hloose rfl
    | false =>
      simp only [Query.step, Bool.false_eq_true, if_false, Traced.value_pure]
      exact h
  | .addSelect _, _ | .ensureSelected _, _ | .addSelectQuery _, _ | .about _, _ | .fail _, _
  | .compare .., _ | .compareBy .., _ | .compareAll _, _ | .compareQuery .., _ | .require _, _
  | .group _, _ | .inText .., _ | .inQuery .., _ | .orderBy _, _ | .unordered, _ | .limit _, _
  | .offset _, _ | .forPage .., _ => by
    refine h.of_adds ?_
    trivial

theorem Agree.steps {loose : Bool} {q q' : Query} (h : q.Agree loose q') :
    ∀ ss : List QueryStep, (loose = true → QueryStep.AllKeepFields ss) →
      (q.steps ss).value.Agree loose (q'.steps ss).value
  | [], _ => by
    simp only [Query.steps, Traced.value_pure]
    exact h
  | s :: rest, hs => by
    simp only [Query.steps, Traced.value_bind]
    exact (h.step s fun hloose => (hs hloose).1).steps rest fun hloose => (hs hloose).2

end

end Query

end RecordQuery
