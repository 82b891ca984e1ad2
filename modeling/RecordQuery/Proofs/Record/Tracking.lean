import RecordQuery.Proofs.Record.Discard
import RecordQuery.Proofs.Value.Same

namespace RecordQuery

namespace Record

variable {r r₀ : Record}

/-- What is called on a record to change it. -/
inductive Step where
  | set (field : String) (v : Value)
  | discard
  | setRelation (name : String) (related : Related Record)
  | takeRelation (name : String)

def Step.onFields : Step → Bool
  | .set .. | .discard => true
  | .setRelation .. | .takeRelation _ => false

def step (r : Record) : Step → Record
  | .set field v => r.set field v
  | .discard => r.discardChanges
  | .setRelation name related => r.setRelation name related
  | .takeRelation name => (r.takeRelation name).2

def run (r : Record) (steps : List Step) : Record := steps.foldl step r

/-- The value that a call leaves in a field, if it or a call before it has set one. -/
def Step.leaves (field : String) (earlier : Option Value) : Step → Option Value
  | .set name v => if field = name then some v else earlier
  | .discard => none
  | .setRelation .. | .takeRelation _ => earlier

/-- The value that calls leave in a field: the last one set since changes were taken back. -/
def lastSet (field : String) (steps : List Step) : Option Value :=
  steps.foldl (fun earlier s => s.leaves field earlier) none

theorem value_discardChanges (r : Record) (name : String) :
    r.discardChanges.value name = r.before name := by
  rw [value, get?_discardChanges]
  split
  next => exact value_restored (r.before name)
  next hnot =>
    have hnone : r.original.find? name = none := by
      simpa [FieldMap.contains] using hnot
    rw [before, hnone]
    rfl

theorem before_step (r : Record) (s : Step) (name : String) :
    (r.step s).before name = r.before name := by
  cases s with
  | set field v => exact before_set r field v name
  | discard => exact (before_of_unchanged rfl name).trans (value_discardChanges r name)
  | setRelation relation related => rfl
  | takeRelation relation => rfl

theorem before_run (r : Record) (steps : List Step) (name : String) :
    (r.run steps).before name = r.before name := by
  induction steps generalizing r with
  | nil => rfl
  | cons s steps ih => exact (ih (r.step s)).trans (before_step r s name)

/-- A field has the value that was set last, or else one that is the same as before. -/
def Holds (field : String) (left : Option Value) (r : Record) : Prop :=
  match left with
  | some v => r.value field = v
  | none => (r.value field == r.before field) = true

theorem value_set (r : Record) (name : String) (v : Value) (field : String) :
    (r.set name v).value field = if field = name then v else r.value field := by
  rw [value, get?_set]
  split <;> rfl

theorem Holds.step {field : String} {left : Option Value} (h : r.Holds field left)
    (hself : (r.before field == r.before field) = true) (s : Step) :
    (r.step s).Holds field (s.leaves field left) := by
  cases s with
  | setRelation relation related => exact h
  | takeRelation relation => exact h
  | discard =>
    change (r.discardChanges.value field == (r.step .discard).before field) = true
    rw [value_discardChanges, before_step]
    exact hself
  | set name v =>
    have hvalue := value_set r name v field
    have hbefore := before_set r name v field
    change (r.set name v).Holds field (if field = name then some v else left)
    unfold Holds at *
    by_cases hname : field = name
    · rw [if_pos hname] at hvalue ⊢
      exact hvalue
    · rw [if_neg hname] at hvalue ⊢
      rw [hvalue, hbefore]
      exact h

theorem holds_run (r : Record) (steps : List Step) {field : String}
    (h : (r.value field == r.before field) = true) :
    (r.run steps).Holds field (lastSet field steps) := by
  have hself : (r.before field == r.before field) = true := BEq.trans (BEq.symm h) h
  have hgo : ∀ (steps : List Step) (r' : Record) (left : Option Value),
      r'.before field = r.before field → r'.Holds field left →
      (r'.run steps).Holds field (steps.foldl (fun left s => s.leaves field left) left) := by
    intro steps
    induction steps with
    | nil => exact fun r' left _ hholds => hholds
    | cons s steps ih =>
      intro r' left hbefore hholds
      apply ih (r'.step s) (s.leaves field left)
      · rw [before_step, hbefore]
      · apply hholds.step
        rwa [hbefore]
  exact hgo steps r none rfl h

theorem find?_changes (r : Record) (field : String) :
    Fields.find? r.changes field = if r.hasChanged field then some (r.value field) else none := by
  unfold changes hasChanged FieldMap.find?
  rw [Fields.find?_map fun e => r.value e.1, Fields.find?_filter_of_inOrder r.original.inOrder]
  cases Fields.find? r.original.entries field with
  | none => rfl
  | some before =>
    rw [Option.filter_some]
    dsimp only
    split <;> rfl

theorem inOrder_changes (r : Record) : Fields.InOrder r.changes :=
  List.pairwise_map.2 (r.original.inOrder.filter _)

theorem isDirty_iff (r : Record) : r.isDirty ↔ ∃ field, r.hasChanged field := by
  have hnone : r.changes = [] ↔ ∀ field, r.hasChanged field = false := by
    rw [Fields.eq_nil_iff]
    apply forall_congr'
    intro field
    rw [find?_changes]
    cases r.hasChanged field <;> simp
  have hdirty : r.isDirty ↔ ¬r.changes = [] := by
    unfold isDirty
    cases r.changes <;> simp
  rw [hdirty, hnone]
  simp

theorem hasChanged_eq {field : String} (h : (r.before field == r.before field) = true) :
    r.hasChanged field = (r.value field != r.before field) := by
  unfold hasChanged before at *
  cases hfound : r.original.find? field with
  | some before => rfl
  | none =>
    rw [hfound] at h
    have hself : (r.value field == r.value field) = true := h
    change false = !(r.value field == r.value field)
    rw [hself]
    rfl

/-- The changes of a record are the fields whose values are not those of an earlier one. -/
structure Tracks (r₀ r : Record) : Prop where
  inOrder : Fields.InOrder r.changes
  find?_changes : ∀ field v, Fields.find? r.changes field = some v ↔
    v = r.value field ∧ (r.value field != r₀.value field) = true
  hasChanged : ∀ field, r.hasChanged field = (r.value field != r₀.value field)
  isDirty : r.isDirty ↔ ∃ field, (r.value field != r₀.value field) = true

theorem tracks_of_before (h : ∀ field, (r.before field == r₀.value field) = true) :
    Tracks r₀ r := by
  have hchanged (field : String) : r.hasChanged field = (r.value field != r₀.value field) := by
    have hself : (r.before field == r.before field) = true :=
      BEq.trans (h field) (BEq.symm (h field))
    rw [hasChanged_eq hself, bne, bne, BEq.congr_right (h field)]
  refine ⟨r.inOrder_changes, ?_, hchanged, ?_⟩
  · intro field v
    rw [Record.find?_changes, hchanged]
    cases r.value field != r₀.value field with
    | true => simp [eq_comm]
    | false => simp
  · rw [isDirty_iff]
    simp only [hchanged]

theorem definite_value (h : ∀ e ∈ r.attributes.entries, e.2.Definite) (field : String) :
    (r.value field).Definite := by
  unfold value get? FieldMap.find?
  cases hfound : Fields.find? r.attributes.entries field with
  | none => trivial
  | some v => exact h (field, v) (Fields.mem_of_find? hfound)

theorem before_beq_value (hclean : r.isDirty = false)
    (hdefinite : ∀ e ∈ r.attributes.entries, e.2.Definite) (field : String) :
    (r.before field == r.value field) = true := by
  have hunchanged : r.hasChanged field = false := by
    cases hchanged : r.hasChanged field with
    | false => rfl
    | true =>
      have hdirty := (isDirty_iff r).2 ⟨field, hchanged⟩
      rw [hclean] at hdirty
      exact nomatch hdirty
  unfold before
  unfold hasChanged at hunchanged
  cases hfound : r.original.find? field with
  | none => exact Value.beq_self (definite_value hdefinite field)
  | some before =>
    rw [hfound] at hunchanged
    have hsame : (r.value field == before) = true := by simpa [bne] using hunchanged
    exact BEq.symm hsame

def bare (r : Record) : Record := { r with relations := [] }

theorem bare_step (r : Record) (s : Step) :
    (r.step s).bare = if s.onFields then r.bare.step s else r.bare := by
  cases s <;> rfl

theorem bare_run (r : Record) (steps : List Step) :
    (r.run steps).bare = r.bare.run (steps.filter Step.onFields) := by
  induction steps generalizing r with
  | nil => rfl
  | cons s steps ih =>
    have hrest := ih (r.step s)
    rw [bare_step] at hrest
    rw [List.filter_cons]
    split at hrest
    next hfields =>
      rw [if_pos hfields]
      exact hrest
    next hfields =>
      rw [if_neg hfields]
      exact hrest

/-- After any calls the changes are the fields whose values are not those that the record had, and
calls for relations have no part in it. -/
theorem tracks_run (hclean : r₀.isDirty = false)
    (hdefinite : ∀ e ∈ r₀.attributes.entries, e.2.Definite) (steps : List Step) :
    let r := r₀.run steps
    let r' := r₀.run (steps.filter Step.onFields)
    Tracks r₀ r ∧
    (∀ field, match lastSet field steps with
      | some v => r.value field = v
      | none => (r.value field == r₀.value field) = true) ∧
    r.changes = r'.changes ∧ r.isDirty = r'.isDirty ∧
    ∀ field, r.value field = r'.value field ∧ r.hasChanged field = r'.hasChanged field := by
  intro r r'
  have hclean := before_beq_value hclean hdefinite
  have hbefore (field : String) : (r.before field == r₀.value field) = true := by
    rw [before_run]
    exact hclean field
  have hbare : r.bare = r'.bare := by
    rw [bare_run, bare_run, List.filter_filter]
    simp only [Bool.and_self]
  refine ⟨tracks_of_before hbefore, ?_, ?_, ?_, ?_⟩
  · intro field
    have hholds := holds_run r₀ steps (BEq.symm (hclean field))
    unfold Holds at hholds
    cases hlast : lastSet field steps with
    | some v =>
      rw [hlast] at hholds
      exact hholds
    | none =>
      rw [hlast] at hholds
      exact BEq.trans (α := Value) hholds (hbefore field)
  · have hchanges : r.bare.changes = r'.bare.changes := by rw [hbare]
    exact hchanges
  · have hdirty : r.bare.isDirty = r'.bare.isDirty := by rw [hbare]
    exact hdirty
  · intro field
    have hvalue : r.bare.value field = r'.bare.value field := by rw [hbare]
    have hchanged : r.bare.hasChanged field = r'.bare.hasChanged field := by rw [hbare]
    exact ⟨hvalue, hchanged⟩

/-- An account whose name was set and set back. -/
def revised : Record :=
  ((ofAttributes "Account" [("Name", .text "Acme"), ("Rating", .null)]).set "Name"
    (.text "Beta")).set "Name" (.text "Acme")

/-- A change is taken back, and others follow, one of them with the value that was there. -/
def revisions : List Step :=
  [.set "Name" (.text "Zeta"), .setRelation "Owner" (.one none), .discard, .set "Rating" (.int 3),
    .takeRelation "Owner", .set "Type" .null, .set "Name" (.text "Acme")]

/-- The rating has changed, and neither the name nor the type, which was absent. -/
theorem tracks_revised :
    revised.isDirty = false ∧ revised.original.entries.length = 1 ∧
    (∀ e ∈ revised.attributes.entries, e.2.Definite) ∧
    let r := revised.run revisions
    Tracks revised r ∧ r.changes = [("Rating", .int 3)] ∧ r.hasChanged "Type" = false := by
  have hclean : revised.isDirty = false := rfl
  have hdefinite : ∀ e ∈ revised.attributes.entries, e.2.Definite := by
    have hentries : revised.attributes.entries = [("Name", .text "Acme"), ("Rating", .null)] := rfl
    simp [hentries, Value.Definite]
  exact ⟨hclean, rfl, hdefinite, (tracks_run hclean hdefinite revisions).1, rfl, rfl⟩

end Record

end RecordQuery
