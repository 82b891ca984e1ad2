import RecordQuery.Proofs.Query.Unsupported

namespace RecordQuery

/-- What stands in the segments of a text. -/
structure Segments where
  selection : List String
  object : String
  conditions : List String
  orders : List String
  limit : Option Nat
  offset : Option Nat

def Segments.text (g : Segments) : String :=
  "SELECT " ++ ", ".intercalate g.selection ++ " FROM " ++ g.object ++
    segment " WHERE " " AND " g.conditions ++
    segment " ORDER BY " ", " g.orders ++
    segment " LIMIT " "" (g.limit.map toString).toList ++
    segment " OFFSET " "" (g.offset.map toString).toList

theorem Clause.texts_concat {d : Dialect} {cs : List Clause} {c : Clause}
    {conditions : List String} {condition : String} (hcs : Clause.texts d cs = .ok conditions)
    (hc : Clause.text? d c = .ok (some condition)) :
    Clause.texts d (cs ++ [c]) = .ok (conditions ++ [condition]) := by
  induction cs generalizing conditions with
  | nil =>
    cases hcs
    rw [List.nil_append, Clause.texts, hc]
    rfl
  | cons first rest ih =>
    rw [Clause.texts] at hcs
    obtain ⟨text?, hfirst, hcs⟩ := exists_of_bind_ok hcs
    obtain ⟨texts, hrest, hcs⟩ := exists_of_bind_ok hcs
    cases hcs
    rw [List.cons_append, Clause.texts, hfirst, ih hrest, List.append_assoc]
    rfl

namespace Select

def segments (d : Dialect) (s : Select) : Except Fault Segments := do
  let names ← Selected.texts d s.fields
  let conditions ← Clause.texts d s.clauses
  return {
    selection := if s.fields.isEmpty then d.defaultFields else names
    object := s.object
    conditions
    orders := s.orders.map Order.text
    limit := s.limit
    offset := s.offset }

theorem text_eq_segments (d : Dialect) (s : Select) :
    s.text d = (s.segments d).map Segments.text := by
  obtain ⟨fields, object, clauses, orders, limit, offset⟩ := s
  rw [text, segments]
  cases Selected.texts d fields with
  | error fault => rfl
  | ok names => cases Clause.texts d clauses <;> rfl

theorem text_eq_ok {d : Dialect} {s : Select} {text : String} :
    s.text d = .ok text ↔ ∃ g, s.segments d = .ok g ∧ text = g.text := by
  rw [text_eq_segments]
  cases s.segments d with
  | error fault => simp [Except.map]
  | ok g => simp [Except.map, eq_comm]

variable {d : Dialect} {s : Select} {g : Segments} {text : String}

theorem segments_eq_ok : s.segments d = .ok g ↔
    ∃ names conditions, Selected.texts d s.fields = .ok names ∧
      Clause.texts d s.clauses = .ok conditions ∧
      g = ⟨if s.fields.isEmpty then d.defaultFields else names, s.object, conditions,
        s.orders.map Order.text, s.limit, s.offset⟩ := by
  constructor
  · intro h
    obtain ⟨names, hnames, h⟩ := exists_of_bind_ok h
    obtain ⟨conditions, hconditions, h⟩ := exists_of_bind_ok h
    exact ⟨names, conditions, hnames, hconditions, (Except.ok.inj h).symm⟩
  · rintro ⟨names, conditions, hnames, hconditions, rfl⟩
    rw [segments, hnames, hconditions]
    rfl

/-- A text has its parts from what is selected and from the clauses. -/
theorem exists_parts (h : s.text d = .ok text) :
    ∃ names conditions, Selected.texts d s.fields = .ok names ∧
      Clause.texts d s.clauses = .ok conditions ∧
      text = Segments.text ⟨if s.fields.isEmpty then d.defaultFields else names, s.object,
        conditions, s.orders.map Order.text, s.limit, s.offset⟩ := by
  obtain ⟨g, hg, rfl⟩ := text_eq_ok.1 h
  obtain ⟨names, conditions, hnames, hconditions, rfl⟩ := segments_eq_ok.1 hg
  exact ⟨names, conditions, hnames, hconditions, rfl⟩

theorem segments_limit (h : s.segments d = .ok g) (limit : Option Nat) :
    { s with limit }.segments d = .ok { g with limit } := by
  obtain ⟨names, conditions, hnames, hconditions, rfl⟩ := segments_eq_ok.1 h
  exact segments_eq_ok.2 ⟨names, conditions, hnames, hconditions, rfl⟩

theorem segments_offset (h : s.segments d = .ok g) (offset : Option Nat) :
    { s with offset }.segments d = .ok { g with offset } := by
  obtain ⟨names, conditions, hnames, hconditions, rfl⟩ := segments_eq_ok.1 h
  exact segments_eq_ok.2 ⟨names, conditions, hnames, hconditions, rfl⟩

theorem segments_orders (h : s.segments d = .ok g) (orders : List Order) :
    { s with orders }.segments d = .ok { g with orders := orders.map Order.text } := by
  obtain ⟨names, conditions, hnames, hconditions, rfl⟩ := segments_eq_ok.1 h
  exact segments_eq_ok.2 ⟨names, conditions, hnames, hconditions, rfl⟩

/-- Fields that are named take the place of whatever was selected. -/
theorem segments_names (h : s.segments d = .ok g) {names : List String} (hnames : names ≠ []) :
    { s with fields := names.map .field }.segments d = .ok { g with selection := names } := by
  obtain ⟨selected, conditions, -, hconditions, rfl⟩ := segments_eq_ok.1 h
  refine segments_eq_ok.2 ⟨names, conditions, Selected.texts_fields d names, hconditions, ?_⟩
  simp [hnames]

theorem segments_require {c : Clause} {condition : String} (h : s.segments d = .ok g)
    (hc : Clause.text? d c = .ok (some condition)) :
    { s with clauses := s.clauses ++ [c] }.segments d =
      .ok { g with conditions := g.conditions ++ [condition] } := by
  obtain ⟨names, conditions, hnames, hconditions, rfl⟩ := segments_eq_ok.1 h
  exact segments_eq_ok.2 ⟨names, _, hnames, Clause.texts_concat hconditions hc, rfl⟩

end Select

end RecordQuery
