import RecordQuery.Proofs.Query.Literal
import RecordQuery.Proofs.Query.Segments
import RecordQuery.Proofs.Query.Unsupported

namespace RecordQuery

/-- A piece of a condition: a text that is the same in every dialect, or the literal of a text that
a field is compared with. -/
inductive Piece where
  | fixed (text : String)
  | literal (field value : String)

namespace Piece

def text (d : Dialect) : Piece → String
  | fixed text => text
  | literal field value => d.literal field (.text value)

def join (d : Dialect) (pieces : List Piece) : String := String.join (pieces.map (text d))

/-- The field and the text of a literal. -/
def literal? : Piece → Option (String × String)
  | fixed _ => none
  | literal field value => some (field, value)

/-- The piece for a value that a field is compared with. -/
def ofValue (field : String) (v : Value) : Piece :=
  match v.text? with
  | some value => literal field value
  | none => fixed v.literal

/-- Pieces in brackets, with the same between any two of them. -/
def bracketed (between : String) (parts : List (List Piece)) : List Piece :=
  fixed "(" :: [fixed between].intercalate parts ++ [fixed ")"]

end Piece

mutual

/-- The pieces of a clause. A sub-select is one piece, which is written without a schema. -/
def Clause.pieces? (defaultFields : List String) : Clause → Except Fault (Option (List Piece))
  | .compare field op value =>
    if op = .isIn ∨ op = .notIn then unsupported (.compare field op value) op
    else .ok (some [.fixed (field ++ " " ++ op.text ++ " "), .ofValue field value])
  | .isIn field values =>
    if values.isEmpty then .ok (some [.fixed (field ++ " = null AND " ++ field ++ " != null")])
    else .ok (some (.fixed (field ++ " IN ") ::
      Piece.bracketed ", " (values.map fun v => [.ofValue field v])))
  | .notIn field values =>
    if values.isEmpty then
      .ok (some [.fixed ("(" ++ field ++ " = null OR " ++ field ++ " != null)")])
    else .ok (some (.fixed (field ++ " NOT IN ") ::
      Piece.bracketed ", " (values.map fun v => [.ofValue field v])))
  | .group clauses => do
    let parts ← Clause.allPieces defaultFields clauses
    return if parts.isEmpty then none else some (Piece.bracketed " AND " parts)
  | c => do return (← Clause.text? ⟨none, defaultFields⟩ c).map fun text => [.fixed text]

/-- The pieces of each of the clauses that say something. -/
def Clause.allPieces (defaultFields : List String) :
    List Clause → Except Fault (List (List Piece))
  | [] => .ok []
  | c :: rest => do
    let pieces? ← Clause.pieces? defaultFields c
    let parts ← Clause.allPieces defaultFields rest
    return pieces?.toList ++ parts

end

mutual

/-- The texts that fields are compared with in a clause and in the clauses of a group, in order. -/
def Clause.textLiterals : Clause → List (String × String)
  | .compare field _ value => (value.text?.map (field, ·)).toList
  | .isIn field values | .notIn field values => values.filterMap fun v => v.text?.map (field, ·)
  | .group clauses => Clause.allTextLiterals clauses
  | .inText .. | .notInText .. | .null _ | .notNull _ | .moment .. | .boolean .. | .inSelect .. => []

def Clause.allTextLiterals : List Clause → List (String × String)
  | [] => []
  | c :: rest => c.textLiterals ++ Clause.allTextLiterals rest

end

namespace Piece

variable (d : Dialect)

@[simp] theorem text_fixed (s : String) : (fixed s).text d = s := rfl

@[simp] theorem text_ofValue (field : String) (v : Value) :
    (ofValue field v).text d = d.literal field v := by
  cases v <;> rfl

@[simp] theorem join_nil : join d [] = "" := rfl

@[simp] theorem join_cons (p : Piece) (ps : List Piece) : join d (p :: ps) = p.text d ++ join d ps := by
  simp [join]

@[simp] theorem join_append (ps qs : List Piece) : join d (ps ++ qs) = join d ps ++ join d qs := by
  simp [join]

theorem join_intercalate (between : String) (parts : List (List Piece)) :
    join d ([fixed between].intercalate parts) = between.intercalate (parts.map (join d)) := by
  induction parts with
  | nil => rfl
  | cons part parts ih =>
    cases parts with
    | nil => simp
    | cons next parts => simp_all [List.intercalate_cons_cons, String.append_assoc]

theorem join_bracketed (between : String) (parts : List (List Piece)) :
    join d (bracketed between parts) =
      "(" ++ between.intercalate (parts.map (join d)) ++ ")" := by
  simp [bracketed, join_intercalate, String.append_assoc]

theorem join_listed (field : String) (values : List Value) :
    join d (bracketed ", " (values.map fun v => [ofValue field v])) = d.literalList field values := by
  simp [join_bracketed, Function.comp_def, Dialect.literalList]

def literals (pieces : List Piece) : List (String × String) := pieces.filterMap literal?

@[simp] theorem literals_nil : literals [] = [] := rfl

@[simp] theorem literals_fixed_cons (s : String) (ps : List Piece) :
    literals (fixed s :: ps) = literals ps := rfl

@[simp] theorem literals_append (ps qs : List Piece) :
    literals (ps ++ qs) = literals ps ++ literals qs :=
  List.filterMap_append

theorem literals_intercalate (between : String) (parts : List (List Piece)) :
    literals ([fixed between].intercalate parts) = literals parts.flatten := by
  induction parts with
  | nil => rfl
  | cons part parts ih =>
    cases parts with
    | nil => simp
    | cons next parts => simp_all [List.intercalate_cons_cons]

theorem literals_bracketed (between : String) (parts : List (List Piece)) :
    literals (bracketed between parts) = literals parts.flatten := by
  simp [bracketed, literals_intercalate]

theorem literals_ofValue (field : String) (v : Value) :
    literals [ofValue field v] = (v.text?.map (field, ·)).toList := by
  cases v <;> rfl

theorem literals_listed (field : String) (values : List Value) :
    literals (bracketed ", " (values.map fun v => [ofValue field v])) =
      values.filterMap fun v => v.text?.map (field, ·) := by
  rw [literals_bracketed]
  induction values with
  | nil => rfl
  | cons v values ih =>
    rw [List.map_cons, List.flatten_cons, literals_append, ih, literals_ofValue, List.filterMap_cons]
    cases v.text? <;> rfl

end Piece

theorem Selected.texts_plain (d : Dialect) (fields : List Selected) :
    Selected.texts d fields = Selected.texts d.plain fields := by
  induction fields with
  | nil => rfl
  | cons s rest ih =>
    have hs : Selected.text d s = Selected.text d.plain s := by cases s <;> rfl
    rw [Selected.texts, Selected.texts, hs, ih]

/-- A clause whose pieces are its text. -/
theorem Clause.text?_eq_fixed {d : Dialect} {x : Except Fault (Option String)} :
    x = (do return (← x).map fun text => [Piece.fixed text]).map (Option.map (Piece.join d)) := by
  cases x with
  | error fault => rfl
  | ok text? =>
    cases text? with
    | none => rfl
    | some text => simp [Except.map, bind, Except.bind, pure, Except.pure]

mutual

/-- The text of a clause is made of its pieces, with or without a schema. -/
theorem Clause.text?_eq_pieces (d : Dialect) : ∀ c : Clause, Clause.text? d c =
    (Clause.pieces? d.defaultFields c).map (Option.map (Piece.join d))
  | .compare field op value => by
    rw [Clause.text?, Clause.pieces?]
    split
    · rfl
    · simp [Except.map, String.append_assoc]
  | .isIn field values => by
    rw [Clause.text?, Clause.pieces?]
    split
    · simp [Except.map]
    · simp [Except.map, Piece.join_listed]
  | .notIn field values => by
    rw [Clause.text?, Clause.pieces?]
    split
    · simp [Except.map]
    · simp [Except.map, Piece.join_listed]
  | .group clauses => by
    rw [Clause.text?, Clause.pieces?, Clause.texts_eq_pieces d clauses]
    cases Clause.allPieces d.defaultFields clauses with
    | error fault => rfl
    | ok parts =>
      cases parts with
      | nil => rfl
      | cons part parts =>
        change Except.ok (some (segment "(" " AND " ((part :: parts).map (Piece.join d)) ++ ")")) =
          .ok (some (Piece.join d (Piece.bracketed " AND " (part :: parts))))
        rw [Piece.join_bracketed]
        rfl
  | .inText field query => Clause.text?_eq_fixed
  | .notInText field query => Clause.text?_eq_fixed
  | .null field => Clause.text?_eq_fixed
  | .notNull field => Clause.text?_eq_fixed
  | .moment field op m => Clause.text?_eq_fixed
  | .boolean field op value => Clause.text?_eq_fixed
  | .inSelect field op query => Clause.text?_eq_fixed

theorem Clause.texts_eq_pieces (d : Dialect) : ∀ cs : List Clause, Clause.texts d cs =
    (Clause.allPieces d.defaultFields cs).map (List.map (Piece.join d))
  | [] => rfl
  | c :: rest => by
    rw [Clause.texts, Clause.allPieces, Clause.text?_eq_pieces d c, Clause.texts_eq_pieces d rest]
    cases Clause.pieces? d.defaultFields c with
    | error fault => rfl
    | ok pieces? =>
      cases Clause.allPieces d.defaultFields rest with
      | error fault => rfl
      | ok parts => cases pieces? <;> rfl

end

/-- A clause that is one piece has no literal. -/
theorem Clause.literals_fixed {x : Except Fault (Option String)} {pieces? : Option (List Piece)}
    (h : (do return (← x).map fun text => [Piece.fixed text]) = .ok pieces?) :
    Piece.literals pieces?.toList.flatten = [] := by
  cases x with
  | error fault => cases h
  | ok text? =>
    cases h
    cases text? <;> rfl

mutual

/-- The literals in a clause are those of the texts that its fields are compared with. -/
theorem Clause.literals_pieces {defaultFields : List String} :
    ∀ {c : Clause} {pieces? : Option (List Piece)}, Clause.pieces? defaultFields c = .ok pieces? →
      Piece.literals pieces?.toList.flatten = c.textLiterals
  | .compare field op value, pieces?, h => by
    rw [Clause.pieces?] at h
    split at h
    · cases h
    · cases h
      simp [Piece.literals_ofValue, Clause.textLiterals]
  | .isIn field values, pieces?, h => by
    rw [Clause.pieces?] at h
    split at h
    next hempty =>
      obtain rfl := List.isEmpty_iff.1 hempty
      cases h
      rfl
    next =>
      cases h
      simp [Piece.literals_listed, Clause.textLiterals]
  | .notIn field values, pieces?, h => by
    rw [Clause.pieces?] at h
    split at h
    next hempty =>
      obtain rfl := List.isEmpty_iff.1 hempty
      cases h
      rfl
    next =>
      cases h
      simp [Piece.literals_listed, Clause.textLiterals]
  | .group clauses, pieces?, h => by
    rw [Clause.pieces?] at h
    obtain ⟨parts, hparts, hpieces⟩ := exists_of_bind_ok h
    rw [Clause.textLiterals, ← Clause.literals_allPieces hparts]
    cases parts with
    | nil =>
      cases hpieces
      rfl
    | cons part parts =>
      cases hpieces
      simp [Piece.literals_bracketed]
  | .inText .., _, h | .notInText .., _, h | .null _, _, h | .notNull _, _, h
  | .moment .., _, h | .boolean .., _, h | .inSelect .., _, h => Clause.literals_fixed h

theorem Clause.literals_allPieces {defaultFields : List String} :
    ∀ {cs : List Clause} {parts : List (List Piece)}, Clause.allPieces defaultFields cs = .ok parts →
      Piece.literals parts.flatten = Clause.allTextLiterals cs
  | [], _, h => by
    cases h
    rfl
  | c :: rest, parts, h => by
    rw [Clause.allPieces] at h
    obtain ⟨pieces?, hpieces, h⟩ := exists_of_bind_ok h
    obtain ⟨others, hothers, h⟩ := exists_of_bind_ok h
    cases h
    rw [List.flatten_append, Piece.literals_append, Clause.literals_pieces hpieces,
      Clause.literals_allPieces hothers, Clause.allTextLiterals]

end

/-- What a schema puts in the place of a quoted text that a field is compared with. -/
def Schema.Types (schema : Schema) (field value literal : String) : Prop :=
  (schema.kind? field = some .boolean ∧ (literal = "true" ∨ literal = "false")) ∨
    ((schema.kind? field = some .date ∨ schema.kind? field = some .dateTime) ∧
      ∃ m, Moment.ofText value = .ok m ∧ literal = m.text)

theorem Schema.quoted_or_types (schema : Schema) (defaultFields : List String)
    (field value : String) :
    let literal := (Dialect.mk (some schema) defaultFields).literal field (.text value)
    literal = quotedLiteral value ∨ schema.Types field value literal := by
  intro literal
  have hliteral : literal = ((schema.kind? field).bind (Dialect.typedLiteral? value)).getD
      (quotedLiteral value) :=
    Dialect.literal_text ⟨some schema, defaultFields⟩ field value
  rw [hliteral, Schema.Types]
  cases schema.kind? field with
  | none => exact .inl rfl
  | some kind =>
    rw [Option.bind_some]
    cases htyped : Dialect.typedLiteral? value kind with
    | none => exact .inl rfl
    | some text =>
      right
      rw [Option.getD_some, Option.some_inj, Option.some_inj, Option.some_inj]
      exact Dialect.typedLiteral?_eq_some htyped

/-- The segments with the conditions that pieces make in a dialect. -/
def Segments.fill (g : Segments) (d : Dialect) (conditions : List (List Piece)) : Segments :=
  { g with conditions := conditions.map (Piece.join d) }

/-- The segments of a query without its conditions, and the pieces of these. -/
def Select.outline (defaultFields : List String) (s : Select) :
    Except Fault (Segments × List (List Piece)) := do
  let names ← Selected.texts ⟨none, defaultFields⟩ s.fields
  let conditions ← Clause.allPieces defaultFields s.clauses
  let g : Segments := {
    selection := if s.fields.isEmpty then defaultFields else names
    object := s.object
    conditions := []
    orders := s.orders.map Order.text
    limit := s.limit
    offset := s.offset }
  return (g, conditions)

theorem Select.segments_eq_outline (d : Dialect) (s : Select) :
    s.segments d = (s.outline d.defaultFields).map fun (g, conditions) => g.fill d conditions := by
  have hplain : d.plain = ⟨none, d.defaultFields⟩ := rfl
  rw [Select.segments, Select.outline, Selected.texts_plain, Clause.texts_eq_pieces, hplain]
  cases Selected.texts ⟨none, d.defaultFields⟩ s.fields with
  | error fault => rfl
  | ok names => cases Clause.allPieces d.defaultFields s.clauses <;> rfl

theorem Select.literals_outline {defaultFields : List String} {s : Select} {g : Segments}
    {conditions : List (List Piece)} (h : s.outline defaultFields = .ok (g, conditions)) :
    Piece.literals conditions.flatten = Clause.allTextLiterals s.clauses := by
  rw [Select.outline] at h
  obtain ⟨names, -, h⟩ := exists_of_bind_ok h
  obtain ⟨parts, hparts, h⟩ := exists_of_bind_ok h
  cases h
  exact Clause.literals_allPieces hparts

theorem Select.text_eq_outline (d : Dialect) (s : Select) :
    s.text d =
      (s.outline d.defaultFields).map fun (g, conditions) => (g.fill d conditions).text := by
  rw [Select.text_eq_segments, Select.segments_eq_outline]
  cases s.outline d.defaultFields <;> rfl

/-- With a schema a query has the same fault as without it, if any; otherwise both texts have the
same segments but for the conditions, and those the same pieces. The pieces that are not fixed are
the literals of the texts that fields are compared with, at the top or in groups: without a schema
each is the quoted text, and with it the quoted text or a literal of the kind of the field. -/
theorem Select.schema_types_literals (schema : Schema) (defaultFields : List String) (s : Select) :
    let plain := Dialect.mk none defaultFields
    let typed := Dialect.mk (some schema) defaultFields
    (∀ fault, s.text typed = .error fault ↔ s.text plain = .error fault) ∧
    ∀ text, s.text plain = .ok text →
      ∃ (g : Segments) (conditions : List (List Piece)),
        s.segments plain = .ok (g.fill plain conditions) ∧
        text = (g.fill plain conditions).text ∧
        s.text typed = .ok (g.fill typed conditions).text ∧
        Piece.literals conditions.flatten = Clause.allTextLiterals s.clauses ∧
        ∀ field value,
          plain.literal field (.text value) = quotedLiteral value ∧
          (typed.literal field (.text value) = quotedLiteral value ∨
            schema.Types field value (typed.literal field (.text value))) := by
  intro plain typed
  have hplain := s.text_eq_outline plain
  have htyped := s.text_eq_outline typed
  have hsegments := s.segments_eq_outline plain
  cases houtline : s.outline defaultFields with
  | error fault =>
    rw [houtline] at hplain htyped
    have hplain : s.text plain = .error fault := hplain
    have htyped : s.text typed = .error fault := htyped
    rw [hplain, htyped]
    exact ⟨fun _ => .rfl, nofun⟩
  | ok outline =>
    obtain ⟨g, conditions⟩ := outline
    rw [houtline] at hplain htyped hsegments
    rw [hplain, htyped]
    constructor
    · intro fault
      constructor <;> exact nofun
    · intro text h
      refine ⟨g, conditions, hsegments, (Except.ok.inj h).symm, rfl, ?_, ?_⟩
      · exact Select.literals_outline houtline
      · intro field value
        have hquoted : plain.literal field (.text value) = quotedLiteral value :=
          Dialect.literal_text plain field value
        exact ⟨hquoted, schema.quoted_or_types defaultFields field value⟩

/-- Both a word and a date may be typed, and only for the fields that are of their kind. -/
example :
    let schema : Schema := ⟨"Account", [("Active", .boolean), ("Name", .text)]⟩
    let conditions : List Clause := [.group [.compare "Active" .eq (.text "TRUE")],
      .compare "Name" .eq (.text "TRUE")]
    (Select.mk [] "Account" conditions [] none none).text ⟨some schema, ["Id"]⟩ =
      .ok "SELECT Id FROM Account WHERE (Active = true) AND Name = 'TRUE'" := rfl

end RecordQuery
