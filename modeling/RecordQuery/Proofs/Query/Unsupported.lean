import RecordQuery.Query.Dialect

namespace RecordQuery

def faults {α : Type} : Except Fault α → List Fault
  | .ok _ => []
  | .error fault => [fault]

@[simp] theorem faults_ok {α : Type} (a : α) : faults (.ok a) = [] := rfl

theorem eq_error_of_faults {α : Type} {x : Except Fault α} {fault : Fault}
    (h : faults x = [fault]) : x = .error fault := by
  cases x with
  | ok a => exact nomatch h
  | error cause =>
    obtain ⟨rfl, -⟩ := List.cons.inj h
    rfl

theorem exists_of_bind_ok {α β : Type} {x : Except Fault α} {f : α → Except Fault β} {b : β}
    (h : x >>= f = .ok b) : ∃ a, x = .ok a ∧ f a = .ok b := by
  cases x with
  | ok a => exact ⟨a, rfl, h⟩
  | error fault => exact nomatch h

/-- The operator of a clause if the clause has no meaning with it. -/
def Clause.misused? : Clause → Option Operator
  | .compare _ op _ => if op = .isIn ∨ op = .notIn then some op else none
  | .moment _ op _ => if op.isComparison then none else some op
  | .boolean _ op _ => if op = .eq ∨ op = .ne then none else some op
  | .inSelect _ op _ => if op = .isIn ∨ op = .notIn then none else some op
  | .isIn .. | .notIn .. | .inText .. | .notInText .. | .null _ | .notNull _ | .group _ => none

mutual

/-- Every clause of a query, in the order of the walk. -/
def Select.walk : Select → List Clause
  | ⟨fields, _, clauses, _, _, _⟩ => Selected.walkAll fields ++ Clause.walkAll clauses

def Selected.walk : Selected → List Clause
  | .field _ => []
  | .select query => query.walk

def Selected.walkAll : List Selected → List Clause
  | [] => []
  | s :: rest => s.walk ++ Selected.walkAll rest

def Clause.walk : Clause → List Clause
  | .inSelect field op query => .inSelect field op query :: query.walk
  | .group clauses => .group clauses :: Clause.walkAll clauses
  | c => [c]

def Clause.walkAll : List Clause → List Clause
  | [] => []
  | c :: rest => c.walk ++ Clause.walkAll rest

end

theorem Select.walk_eq (s : Select) :
    s.walk = Selected.walkAll s.fields ++ Clause.walkAll s.clauses := by
  cases s
  rfl

theorem Selected.walkAll_fields (names : List String) : walkAll (names.map .field) = [] := by
  induction names with
  | nil => rfl
  | cons name names ih => exact ih

/-- Names are written as they are. -/
theorem Selected.texts_fields (d : Dialect) (names : List String) :
    Selected.texts d (names.map .field) = .ok names := by
  induction names with
  | nil => rfl
  | cons name names ih =>
    rw [List.map_cons, Selected.texts, ih]
    rfl

/-- The fault of a clause that has no text. -/
def Clause.refusal? (c : Clause) : Option Fault :=
  c.misused?.map fun op => .unsupportedClause (c.kindName ++ " clause with operator " ++ op.text)

/-- Of two steps the first that fails has the fault, if what the second comes to does not depend on
the first. -/
theorem faults_bind_or {α β : Type} {x : Except Fault α} {f : α → Except Fault β}
    {first second : Option Fault} (hx : faults x = first.toList)
    (hf : ∀ a, faults (f a) = second.toList) :
    faults (x >>= f) = (first.or second).toList := by
  cases x with
  | ok a =>
    cases first with
    | none => exact hf a
    | some fault => exact nomatch hx
  | error fault =>
    cases first with
    | none => exact nomatch hx
    | some cause =>
      obtain ⟨rfl, -⟩ := List.cons.inj hx
      rfl

/-- Steps after the last that can fail do not matter. -/
theorem faults_bind_ok {α β : Type} {x : Except Fault α} {f : α → Except Fault β}
    {first : Option Fault} (hx : faults x = first.toList) (hf : ∀ a, faults (f a) = []) :
    faults (x >>= f) = first.toList := by
  have hnone (a : α) : faults (f a) = (none : Option Fault).toList := hf a
  rw [faults_bind_or hx hnone, Option.or_none]

namespace Clause

variable {c : Clause} {op : Operator}

theorem refusal?_eq_none : c.refusal? = none ↔ c.misused? = none := by
  rw [refusal?, Option.map_eq_none_iff]

theorem refusal?_eq_some {fault : Fault} :
    c.refusal? = some fault ↔ ∃ op, c.misused? = some op ∧
      fault = .unsupportedClause (c.kindName ++ " clause with operator " ++ op.text) := by
  rw [refusal?, Option.map_eq_some_iff]
  exact exists_congr fun op => and_congr_right fun _ => eq_comm

theorem faults_unsupported {α : Type} (h : c.misused? = some op) :
    faults (unsupported c op : Except Fault α) = c.refusal?.toList := by
  rw [refusal?, h]
  rfl

/-- A clause that is looked at before it is written. -/
theorem faults_guarded {α : Type} {p : Prop} [Decidable p] {x : Except Fault α}
    (h : c.misused? = if p then none else some op) (hx : faults x = []) :
    faults (if p then x else unsupported c op) = c.refusal?.toList := by
  by_cases hp : p
  · rw [if_pos hp] at h ⊢
    rw [refusal?_eq_none.2 h]
    exact hx
  · rw [if_neg hp] at h ⊢
    exact faults_unsupported h

/-- A clause without clauses inside it. -/
theorem faults_alone {α : Type} {x : Except Fault α} (hwalk : c.walk = [c])
    (h : faults x = c.refusal?.toList) : faults x = (c.walk.findSome? refusal?).toList := by
  rw [h, hwalk, List.findSome?_cons]
  cases c.refusal? <;> rfl

end Clause

mutual

theorem Select.faults_text_eq (d : Dialect) : ∀ s : Select,
    faults (s.text d) = (s.walk.findSome? Clause.refusal?).toList
  | ⟨fields, object, clauses, orders, limit, offset⟩ => by
    have hfields := Selected.faults_texts_eq d fields
    have hclauses := Clause.faults_texts_eq d clauses
    rw [Select.walk, List.findSome?_append, Select.text]
    exact faults_bind_or hfields fun _ => faults_bind_ok hclauses fun _ => rfl

theorem Selected.faults_texts_eq (d : Dialect) : ∀ fields : List Selected,
    faults (Selected.texts d fields) =
      ((Selected.walkAll fields).findSome? Clause.refusal?).toList
  | [] => rfl
  | s :: rest => by
    have hs := Selected.faults_text_eq d s
    have hrest := Selected.faults_texts_eq d rest
    rw [Selected.walkAll, List.findSome?_append, Selected.texts]
    exact faults_bind_or hs fun _ => faults_bind_ok hrest fun _ => rfl

theorem Selected.faults_text_eq (d : Dialect) : ∀ s : Selected,
    faults (Selected.text d s) = (s.walk.findSome? Clause.refusal?).toList
  | .field name => rfl
  | .select query => by
    have hquery := Select.faults_text_eq d.plain query
    rw [Selected.walk, Selected.text]
    exact faults_bind_ok hquery fun _ => rfl

theorem Clause.faults_texts_eq (d : Dialect) : ∀ clauses : List Clause,
    faults (Clause.texts d clauses) =
      ((Clause.walkAll clauses).findSome? Clause.refusal?).toList
  | [] => rfl
  | c :: rest => by
    have hc := Clause.faults_text?_eq d c
    have hrest := Clause.faults_texts_eq d rest
    rw [Clause.walkAll, List.findSome?_append, Clause.texts]
    exact faults_bind_or hc fun _ => faults_bind_ok hrest fun _ => rfl

theorem Clause.faults_text?_eq (d : Dialect) : ∀ c : Clause,
    faults (Clause.text? d c) = (c.walk.findSome? Clause.refusal?).toList
  | .compare field op value => by
    refine Clause.faults_alone rfl ?_
    rw [Clause.text?, ← ite_not]
    exact Clause.faults_guarded (ite_not ..).symm rfl
  | .moment field op m => by
    refine Clause.faults_alone rfl ?_
    rw [Clause.text?]
    exact Clause.faults_guarded rfl rfl
  | .boolean field op value => by
    refine Clause.faults_alone rfl ?_
    rw [Clause.text?]
    exact Clause.faults_guarded rfl rfl
  | .inSelect field op query => by
    have hquery := Select.faults_text_eq d.plain query
    rw [Clause.walk, List.findSome?_cons, Clause.text?]
    by_cases h : op = .isIn ∨ op = .notIn
    · have hused : (Clause.inSelect field op query).misused? = none := if_pos h
      rw [if_pos h, Clause.refusal?_eq_none.2 hused]
      exact faults_bind_ok hquery fun _ => rfl
    · -- The operator of the clause is looked at before the query inside it.
      have hmisused : (Clause.inSelect field op query).misused? = some op := if_neg h
      rw [if_neg h, Clause.faults_unsupported hmisused, Clause.refusal?, hmisused]
      rfl
  | .group clauses => by
    have hclauses := Clause.faults_texts_eq d clauses
    rw [Clause.walk, List.findSome?_cons, Clause.text?]
    exact faults_bind_ok hclauses fun _ => rfl
  | .isIn field values => by
    refine Clause.faults_alone rfl ?_
    rw [Clause.text?]
    split <;> rfl
  | .notIn field values => by
    refine Clause.faults_alone rfl ?_
    rw [Clause.text?]
    split <;> rfl
  | .inText .. | .notInText .. | .null _ | .notNull _ => rfl

end

/-- Queries with the same clauses are refused alike, in whatever dialects. -/
theorem Select.faults_text_congr {s s' : Select} (h : s.walk = s'.walk) (d d' : Dialect) :
    faults (s.text d) = faults (s'.text d') := by
  rw [s.faults_text_eq, s'.faults_text_eq, h]

/-- A query is written exactly if none of its clauses, in selected sub-selects, in groups and in the
sub-selects of clauses, is misused. Otherwise its fault names the kind and the operator of the first
that is. -/
theorem Select.first_misused_refused (d : Dialect) (s : Select) :
    ((∃ text, s.text d = .ok text) ↔ ∀ c ∈ s.walk, c.misused? = none) ∧
    ∀ fault, s.text d = .error fault ↔
      ∃ before c after op, s.walk = before ++ c :: after ∧
        (∀ b ∈ before, b.misused? = none) ∧ c.misused? = some op ∧
        fault = .unsupportedClause (c.kindName ++ " clause with operator " ++ op.text) := by
  have hfaults := s.faults_text_eq d
  have hnone : s.walk.findSome? Clause.refusal? = none ↔ ∀ c ∈ s.walk, c.misused? = none := by
    simp only [List.findSome?_eq_none_iff, Clause.refusal?_eq_none]
  have hsome (fault : Fault) : s.walk.findSome? Clause.refusal? = some fault ↔
      ∃ before c after op, s.walk = before ++ c :: after ∧
        (∀ b ∈ before, b.misused? = none) ∧ c.misused? = some op ∧
        fault = .unsupportedClause (c.kindName ++ " clause with operator " ++ op.text) := by
    simp only [List.findSome?_eq_some_iff, Clause.refusal?_eq_none, Clause.refusal?_eq_some]
    constructor
    · rintro ⟨before, c, after, hwalk, ⟨op, hop, rfl⟩, hbefore⟩
      exact ⟨before, c, after, op, hwalk, hbefore, hop, rfl⟩
    · rintro ⟨before, c, after, op, hwalk, hbefore, hop, rfl⟩
      exact ⟨before, c, after, hwalk, ⟨op, hop, rfl⟩, hbefore⟩
  simp only [← hnone, ← hsome]
  cases htext : s.text d with
  | ok text =>
    rw [htext] at hfaults
    have hfound : s.walk.findSome? Clause.refusal? = none :=
      Option.toList_eq_nil_iff.1 hfaults.symm
    rw [hfound]
    simp
  | error fault =>
    rw [htext] at hfaults
    have hfound : s.walk.findSome? Clause.refusal? = some fault :=
      Option.toList_eq_singleton_iff.1 hfaults.symm
    rw [hfound]
    simp

/-- An operator in a selected sub-select is found before one in a condition. -/
example :
    let conditions : List Clause := [.inSelect "Id" .eq (.about "Case")]
    let inner : Select := ⟨[], "Contacts", [.group [.boolean "Active" .lt true]], [], none, none⟩
    (Select.mk [.select inner] "Account" conditions [] none none).text ⟨none, ["Id"]⟩ =
      .error (.unsupportedClause "Boolean clause with operator <") := rfl

end RecordQuery
