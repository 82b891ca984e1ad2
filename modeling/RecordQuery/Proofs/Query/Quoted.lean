import RecordQuery.Proofs.Query.Literal

namespace RecordQuery

/-- The character that an escaped one stands for. -/
def escape? : Char → Option Char
  | '\\' => some '\\'
  | '\'' => some '\''
  | 'n' => some '\n'
  | 'r' => some '\r'
  | 't' => some '\t'
  | _ => none

/-- The text up to the first quote that is not escaped, and what follows the quote. -/
def readQuoted : List Char → Option (List Char × List Char)
  | [] => none
  | '\'' :: rest => some ([], rest)
  | '\\' :: [] => none
  | '\\' :: c :: rest => do
    let escaped ← escape? c
    let (body, rest) ← readQuoted rest
    return (escaped :: body, rest)
  | c :: rest => do
    let (body, rest) ← readQuoted rest
    return (c :: body, rest)

/-- The text of a literal that begins with a quote, and what follows the literal. -/
def readLiteral : List Char → Option (List Char × List Char)
  | '\'' :: cs => readQuoted cs
  | _ => none

theorem readQuoted_escape {c e : Char} (h : escape? e = some c) {cs body rest : List Char}
    (hread : readQuoted cs = some (body, rest)) :
    readQuoted ('\\' :: e :: cs) = some (c :: body, rest) := by
  simp [readQuoted, h, hread]

theorem readQuoted_char {c : Char} (hquote : c ≠ '\'') (hslash : c ≠ '\\')
    {cs body rest : List Char} (hread : readQuoted cs = some (body, rest)) :
    readQuoted (c :: cs) = some (c :: body, rest) := by
  rw [readQuoted]
  · simp [hread]
  · exact hquote
  · intro h _
    exact hslash h
  · intro e cs h _
    exact hslash h

/-- A quoted text is read back with an exact end. -/
theorem readLiteral_quotedLiteral (s : String) (rest : List Char) :
    readLiteral ((quotedLiteral s).toList ++ rest) = some (s.toList, rest) := by
  rw [quotedLiteral, String.toList_ofList]
  change readQuoted ((_ ++ ['\'']) ++ rest) = _
  rw [List.append_assoc, List.singleton_append]
  generalize s.toList = cs
  induction cs with
  | nil => rfl
  | cons c cs ih =>
    rw [List.flatMap_cons, List.append_assoc]
    -- The five characters with an escape, and then every other.
    split
    · exact readQuoted_escape rfl ih
    · exact readQuoted_escape rfl ih
    · exact readQuoted_escape rfl ih
    · exact readQuoted_escape rfl ih
    · exact readQuoted_escape rfl ih
    · rename_i hslash hquote _ _ _
      exact readQuoted_char hquote hslash ih

/-- Wherever a text is compared with a field, it is quoted, or it is a word of a boolean field or
the digits and marks of a date field; and what is quoted is read back whatever follows it. -/
theorem text_contained (d : Dialect) (field s : String) :
    (d.literal field (.text s) = quotedLiteral s ∨
      (d.kind? field = some .boolean ∧
        (d.literal field (.text s) = "true" ∨ d.literal field (.text s) = "false")) ∨
      ((d.kind? field = some .date ∨ d.kind? field = some .dateTime) ∧
        Text.Stamp (d.literal field (.text s)))) ∧
    ∀ rest, readLiteral ((quotedLiteral s).toList ++ rest) = some (s.toList, rest) := by
  refine ⟨?_, readLiteral_quotedLiteral s⟩
  rw [Dialect.literal_text]
  cases hkind : d.kind? field with
  | none => exact .inl rfl
  | some kind =>
    rw [Option.bind_some]
    cases htyped : Dialect.typedLiteral? s kind with
    | none => exact .inl rfl
    | some text =>
      rw [Option.getD_some, Option.some_inj, Option.some_inj, Option.some_inj]
      rcases Dialect.typedLiteral?_eq_some htyped with hword | ⟨hdate, m, -, rfl⟩
      · exact .inr (.inl hword)
      · exact .inr (.inr ⟨hdate, .moment m⟩)

example : readLiteral ("'it\\'s' AND Name = 'x'".toList) =
    some ("it's".toList, " AND Name = 'x'".toList) := by decide

end RecordQuery
