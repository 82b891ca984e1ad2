import RecordQuery.Proofs.Query.Quoted
import RecordQuery.Proofs.Query.Reading

namespace RecordQuery

open Text

/-- A literal of one value: a quoted text that ends the word, or a run of digits, signs and the
letters of a few words. -/
def IsScalar (w : List Char) : Prop :=
  (readLiteral w).map (·.2) = some [] ∨ w ≠ [] ∧ ∀ c ∈ w, isBare c

/-- The items of a list in brackets. -/
def listItems? (w : List Char) : Option (List (List Char)) :=
  (bracketed? w).bind fun body =>
    match readItems (outerWords body) with
    | (items, []) => some items
    | _ => none

/-- A quoted text ends with the quote before what follows it. -/
theorem exists_of_readQuoted {cs body rest : List Char} (h : readQuoted cs = some (body, rest)) :
    ∃ front, cs = front ++ '\'' :: rest := by
  fun_induction readQuoted cs generalizing body with
  | case1 => exact nomatch h
  | case2 rest' =>
    obtain ⟨-, rfl⟩ := Prod.mk.inj (Option.some.inj h)
    exact ⟨[], rfl⟩
  | case3 => exact nomatch h
  | case4 c cs ih =>
    obtain ⟨escaped, -, h⟩ := Option.bind_eq_some_iff.1 h
    obtain ⟨⟨inner, rest'⟩, hinner, h⟩ := Option.bind_eq_some_iff.1 h
    obtain ⟨-, rfl⟩ := Prod.mk.inj (Option.some.inj h)
    obtain ⟨front, rfl⟩ := ih hinner
    exact ⟨'\\' :: c :: front, rfl⟩
  | case5 c cs _ _ _ ih =>
    obtain ⟨⟨inner, rest'⟩, hinner, h⟩ := Option.bind_eq_some_iff.1 h
    obtain ⟨-, rfl⟩ := Prod.mk.inj (Option.some.inj h)
    obtain ⟨front, rfl⟩ := ih hinner
    exact ⟨c :: front, rfl⟩

namespace IsScalar

variable {w : List Char}

theorem quoted (s : String) : IsScalar (quotedLiteral s).toList := by
  have hread := readLiteral_quotedLiteral s []
  rw [List.append_nil] at hread
  exact .inl (by rw [hread]; rfl)

theorem bare {s : String} (hne : s ≠ "") (h : Bare s) : IsScalar s.toList :=
  .inr ⟨mt String.toList_eq_nil_iff.1 hne, h⟩

/-- What is in brackets is a list or a sub-select. -/
theorem bracketed?_eq_none (h : IsScalar w) : bracketed? w = none := by
  refine bracketed?_of_head fun hopen => ?_
  rcases h with hquoted | ⟨-, hbare⟩
  · obtain ⟨cs, rfl⟩ := List.head?_eq_some_iff.1 hopen
    exact nomatch hquoted
  · have hbracket := hbare '(' (List.mem_of_mem_head? hopen)
    exact absurd hbracket (by decide)

theorem listItems?_eq_none (h : IsScalar w) : listItems? w = none := by
  rw [listItems?, h.bracketed?_eq_none]
  rfl

/-- A literal of one value ends in a quote or in one of its own characters. -/
theorem exists_getLast? (h : IsScalar w) :
    ∃ c, w.getLast? = some c ∧ isBlank c = false ∧ c ≠ ',' := by
  rcases h with hquoted | ⟨hne, hbare⟩
  · obtain ⟨⟨body, rest⟩, hread, rfl⟩ := Option.map_eq_some_iff.1 hquoted
    unfold readLiteral at hread
    split at hread
    · obtain ⟨front, rfl⟩ := exists_of_readQuoted hread
      refine ⟨'\'', ?_, rfl, by decide⟩
      rw [← List.cons_append, List.getLast?_concat]
    · exact nomatch hread
  · have hlast := hbare _ (List.getLast_mem hne)
    refine ⟨w.getLast hne, List.getLast?_eq_some_getLast hne, (isPlain_of_isBare hlast).2.1, ?_⟩
    intro hcomma
    rw [hcomma] at hlast
    exact absurd hlast (by decide)

end IsScalar

/-- Items between commas in brackets are read as they were written. -/
theorem listItems?_listed {ws : List String}
    (h : ∀ w ∈ ws, Whole w.toList ∧ ∃ c, w.toList.getLast? = some c ∧ c ≠ ',') :
    listItems? ("(" ++ ", ".intercalate ws ++ ")").toList = some (ws.map String.toList) := by
  have hwhole : ∀ w ∈ ws.map String.toList, Whole w := by
    intro w hw
    obtain ⟨s, hs, rfl⟩ := List.mem_map.1 hw
    exact (h s hs).1
  have hends : ∀ w ∈ ws.map String.toList, w ≠ [] ∧ w.getLast? ≠ some ',' := by
    intro w hw
    obtain ⟨s, hs, rfl⟩ := List.mem_map.1 hw
    obtain ⟨-, c, hlast, hc⟩ := h s hs
    rw [hlast]
    refine ⟨fun hnil => ?_, fun hcomma => hc (Option.some.inj hcomma)⟩
    rw [hnil] at hlast
    exact nomatch hlast
  have hitems := readItems_listed hends []
  rw [List.append_nil] at hitems
  rw [IsLiteral.toList_listed, listItems?, bracketed?_inBrackets, Option.bind_some, ← spaced_listed,
    outerWords_spaced (listed_ne_nil _) (whole_listed hwhole), hitems]

def Value.isList : Value → Bool
  | .list _ => true
  | _ => false

theorem toString_nat_ne_empty (n : Nat) : toString n ≠ "" := by
  rw [Nat.toString_eq_ofList_toDigits]
  exact fun h => Nat.toDigits_ne_nil (String.ofList_eq_empty_iff.1 h)

theorem toString_int_ne_empty (i : Int) : toString i ≠ "" := by
  rw [Int.toString_eq_repr, Int.repr_eq_if]
  split
  · exact toString_nat_ne_empty _
  · simp

theorem Decimal.positional_ne_nil (whole : String) (d : Decimal.Digits) :
    Decimal.positional whole d ≠ [] := by
  rw [Decimal.positional_eq]
  split
  · exact List.cons_ne_nil _ _
  · split
    · intro hnil
      have hlength := congrArg List.length hnil
      simp only [List.length_append, List.length_replicate, List.length_nil] at hlength
      omega
    · exact List.append_ne_nil_of_right_ne_nil _ (List.cons_ne_nil _ _)

theorem Decimal.text_plain_ne_empty (f : Float) : FloatStyle.plain.text f ≠ "" := by
  unfold FloatStyle.text
  dsimp only
  split
  · decide
  · have hbody : (if f.isInf then "inf".toList
        else if f.toBits.toNat % Nat.pow 2 63 = 0 then '0' :: FloatStyle.plain.whole.toList
        else positional "" (shortest .upward f.toBits)) ≠ [] := by
      split
      · decide
      · split
        · exact List.cons_ne_nil _ _
        · exact positional_ne_nil _ _
    intro hempty
    have hnil := String.ofList_eq_empty_iff.1 hempty
    split at hnil
    · exact hbody hnil
    · exact nomatch hnil

theorem Moment.text_ne_empty (m : Moment) : m.text ≠ "" := by
  cases m with
  | day d => simp [Moment.text, Calendar.Date.text]
  | timestamp z => simp [Moment.text, Calendar.Zoned.text, Calendar.DateTime.secondText]

/-- The literal of a value that is no list is that of one value. -/
theorem Value.isScalar_literal (v : Value) (h : v.isList = false) : IsScalar v.literal.toList := by
  cases v with
  | null =>
    rw [literal]
    exact .bare (by decide) (by decide)
  | bool b =>
    rw [literal]
    exact .bare (by cases b <;> decide) (.boolText b)
  | int i =>
    rw [literal]
    exact .bare (toString_int_ne_empty _) (.int _)
  | float f =>
    rw [literal]
    exact .bare (Decimal.text_plain_ne_empty f) (Decimal.bare_plain f)
  | text s =>
    rw [literal]
    exact .quoted s
  | date d =>
    rw [literal]
    exact .bare (Moment.text_ne_empty _) (Stamp.moment _).bare
  | dateTime t =>
    rw [literal]
    exact .bare (Moment.text_ne_empty _) (Stamp.moment _).bare
  | instant t =>
    rw [literal]
    exact .bare (Moment.text_ne_empty _) (Stamp.moment _).bare
  | time t =>
    rw [literal]
    refine .bare (by simp) ?_
    exact (((Stamp.clock t).bare.append (by decide)).append (Stamp.padded _ _).bare).append
      (by decide)
  | json j =>
    rw [literal]
    exact .quoted _
  | list items => exact nomatch h

theorem Dialect.typedLiteral?_ne_empty {s t : String} {kind : FieldKind}
    (h : typedLiteral? s kind = some t) : t ≠ "" := by
  rcases typedLiteral?_eq_some h with ⟨-, rfl | rfl⟩ | ⟨-, m, -, rfl⟩
  · decide
  · decide
  · exact Moment.text_ne_empty m

/-- A schema changes the literal of a text, to that of another single value. -/
theorem Dialect.isScalar_literal (d : Dialect) (field : String) {v : Value}
    (h : v.isList = false) : IsScalar (d.literal field v).toList := by
  unfold literal
  dsimp only
  cases htyped : (do
      let s ← v.text?
      let schema ← d.schema
      typedLiteral? s (← schema.kind? field)) with
  | none => exact v.isScalar_literal h
  | some text =>
    obtain ⟨s, -, hs⟩ := Option.bind_eq_some_iff.1 htyped
    obtain ⟨schema, -, hschema⟩ := Option.bind_eq_some_iff.1 hs
    obtain ⟨kind, -, hkind⟩ := Option.bind_eq_some_iff.1 hschema
    exact .bare (typedLiteral?_ne_empty hkind) (IsLiteral.typed hkind)

theorem Dialect.plain_literal (d : Dialect) (field : String) (v : Value) :
    d.plain.literal field v = v.literal := by
  unfold literal plain
  cases v.text? <;> rfl

/-- The literal of a list is written without a schema. -/
theorem Dialect.literal_list (d : Dialect) (field : String) (items : List Value) :
    d.literal field (.list items) = d.plain.literalList field items := by
  have hitems : ∀ vs : List Value, Value.literals vs = vs.map (d.plain.literal field) := by
    intro vs
    induction vs with
    | nil => rw [Value.literals, List.map_nil]
    | cons v vs ih => rw [Value.literals, ih, List.map_cons, plain_literal]
  unfold literal
  rw [Value.literal, hitems]
  rfl

theorem Dialect.toList_literalList (d : Dialect) (field : String) (values : List Value) :
    (d.literalList field values).toList =
      '(' :: (", ".toList).intercalate ((values.map (d.literal field)).map String.toList) ++
        [')'] :=
  IsLiteral.toList_listed _

theorem Dialect.isScalar_literal_iff (d : Dialect) (field : String) (v : Value) :
    IsScalar (d.literal field v).toList ↔ v.isList = false := by
  refine ⟨fun h => ?_, d.isScalar_literal field⟩
  cases v with
  | list items =>
    have hnone := h.bracketed?_eq_none
    rw [literal_list, toList_literalList, bracketed?_inBrackets] at hnone
    exact nomatch hnone
  | _ => rfl

/-- The literal of a value ends in a character that is neither a blank nor a comma. -/
theorem Dialect.exists_getLast?_literal (d : Dialect) (field : String) (v : Value) :
    ∃ c, (d.literal field v).toList.getLast? = some c ∧ isBlank c = false ∧ c ≠ ',' := by
  cases h : v.isList with
  | false => exact (d.isScalar_literal field h).exists_getLast?
  | true =>
    cases v with
    | list items =>
      rw [literal_list, toList_literalList, List.getLast?_concat]
      exact ⟨')', rfl, rfl, by decide⟩
    | _ => exact nomatch h

/-- A list of literals is read as a list, and its items are those of single values exactly if no
value is a list. -/
theorem Dialect.listItems?_literalList (d : Dialect) (field : String) (values : List Value) :
    ∃ items, listItems? (d.literalList field values).toList = some items ∧
      (items = [] ↔ values = []) ∧
      ((∀ i ∈ items, IsScalar i) ↔ ∀ v ∈ values, v.isList = false) := by
  refine ⟨_, listItems?_listed fun w hw => ?_, by simp, ?_⟩
  · obtain ⟨v, -, rfl⟩ := List.mem_map.1 hw
    obtain ⟨c, hlast, -, hc⟩ := d.exists_getLast?_literal field v
    exact ⟨(IsLiteral.dialect d field v).whole, c, hlast, hc⟩
  · rw [List.map_map, List.forall_mem_map]
    exact forall_congr' fun v => imp_congr_right fun _ => d.isScalar_literal_iff field v

end RecordQuery
