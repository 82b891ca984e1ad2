import RecordQuery.Proofs.Query.Scalar
import RecordQuery.Query.Basic

namespace RecordQuery

open Text

/-- The text ends in a character that is no blank. -/
def Text.EndsFull (s : String) : Prop := ∃ c, s.toList.getLast? = some c ∧ isBlank c = false

namespace Text.EndsFull

variable {s t : String}

theorem append_left (s : String) (h : EndsFull t) : EndsFull (s ++ t) := by
  obtain ⟨c, hlast, hc⟩ := h
  exact ⟨c, by rw [String.toList_append, List.getLast?_append, hlast]; rfl, hc⟩

/-- A part that may be left out does not change that. -/
theorem append (h : EndsFull s) (ht : t = "" ∨ EndsFull t) : EndsFull (s ++ t) := by
  rcases ht with rfl | ht
  · rwa [String.append_empty]
  · exact ht.append_left s

theorem intercalate {between : String} {parts : List String} (hne : parts ≠ [])
    (h : ∀ p ∈ parts, EndsFull p) : EndsFull (between.intercalate parts) := by
  induction parts with
  | nil => exact absurd rfl hne
  | cons p parts ih =>
    cases parts with
    | nil => exact h p List.mem_cons_self
    | cons q parts =>
      rw [String.intercalate_cons_cons]
      exact append_left _ (ih (List.cons_ne_nil _ _) fun r hr => h r (List.mem_cons_of_mem _ hr))

/-- A segment is left out or ends with its last part. -/
theorem append_segment (h : EndsFull s) {lead between : String} {parts : List String}
    (hparts : ∀ p ∈ parts, EndsFull p) : EndsFull (s ++ segment lead between parts) := by
  unfold segment
  split
  · exact h.append (.inl rfl)
  · rename_i hne
    exact append_left s (append_left lead (intercalate (by simpa using hne) hparts))

theorem bare (hne : s ≠ "") (h : Bare s) : EndsFull s := by
  obtain ⟨c, hlast, hc, -⟩ := (IsScalar.bare hne h).exists_getLast?
  exact ⟨c, hlast, hc⟩

end Text.EndsFull

/-- What is trimmed already and is not empty ends in a character that is no blank. -/
theorem Text.endsFull_of_trimmed {s : String} (hne : s ≠ "") (h : trimmed s = s) : EndsFull s := by
  have hlist : s.toList = (skipBlanks (skipBlanks s.toList).reverse).reverse := by
    rw [← String.toList_ofList (l := (skipBlanks (skipBlanks s.toList).reverse).reverse)]
    exact congrArg String.toList h.symm
  have hnil := mt String.toList_eq_nil_iff.1 hne
  rw [hlist] at hnil
  have hhead := List.head?_dropWhile_not isBlank (skipBlanks s.toList).reverse
  cases hstart : (skipBlanks (skipBlanks s.toList).reverse).head? with
  | none => exact absurd (List.head?_eq_none_iff.1 hstart) (by simpa using hnil)
  | some c =>
    rw [skipBlanks] at hstart
    rw [hstart] at hhead
    exact ⟨c, by rw [hlist, List.getLast?_reverse, skipBlanks, hstart], by simpa using hhead⟩

theorem Text.trimmed_eq_self {s : String} {c : Char} (hfirst : s.toList.head? = some c)
    (hc : isBlank c = false) (h : EndsFull s) : trimmed s = s := by
  obtain ⟨d, hlast, hd⟩ := h
  have hskip {cs : List Char} {c : Char} (hhead : cs.head? = some c) (hc : isBlank c = false) :
      skipBlanks cs = cs := by
    obtain ⟨rest, rfl⟩ := List.head?_eq_some_iff.1 hhead
    rw [skipBlanks, List.dropWhile_cons, hc]
    rfl
  rw [trimmed, hskip hfirst hc, hskip (by rw [List.head?_reverse, hlast]) hd, List.reverse_reverse,
    String.ofList_toList]

theorem Dialect.endsFull_literal (d : Dialect) (field : String) (v : Value) :
    EndsFull (d.literal field v) := by
  obtain ⟨c, hlast, hc, -⟩ := d.exists_getLast?_literal field v
  exact ⟨c, hlast, hc⟩

theorem Order.endsFull_text (o : Order) : EndsFull o.text := by
  have hdirection : EndsFull o.direction.text := by
    cases o.direction
    · exact ⟨'C', rfl, rfl⟩
    · exact ⟨'C', rfl, rfl⟩
  have hkey : EndsFull (o.field ++ " " ++ o.direction.text) := hdirection.append_left _
  unfold text
  split
  · exact hkey.append (.inl rfl)
  · exact hkey.append (.inr ⟨'T', rfl, rfl⟩)
  · exact hkey.append (.inr ⟨'T', rfl, rfl⟩)

theorem Clause.endsFull_text? {d : Dialect} {c : Clause} {part? : Option String}
    (h : Clause.text? d c = .ok part?) : ∀ part ∈ part?, EndsFull part := by
  have hnull : EndsFull "null" := ⟨'l', rfl, rfl⟩
  have hbracket (s : String) : EndsFull (s ++ ")") := .append_left s ⟨')', rfl, rfl⟩
  have hsome {part : String} (hpart : EndsFull part) : ∀ p ∈ some part, EndsFull p := by
    rintro _ ⟨⟩
    exact hpart
  cases c with
  | compare field op value =>
    rw [Clause.text?] at h
    split at h
    · exact nomatch h
    · obtain rfl := Except.ok.inj h
      exact hsome ((d.endsFull_literal field value).append_left _)
  | isIn field values =>
    rw [Clause.text?] at h
    split at h
    · obtain rfl := Except.ok.inj h
      exact hsome (.append_left _ ⟨'l', rfl, rfl⟩)
    · obtain rfl := Except.ok.inj h
      exact hsome (.append_left _ (hbracket _))
  | notIn field values =>
    rw [Clause.text?] at h
    split at h
    · obtain rfl := Except.ok.inj h
      exact hsome (.append_left _ ⟨')', rfl, rfl⟩)
    · obtain rfl := Except.ok.inj h
      exact hsome (.append_left _ (hbracket _))
  | inText field query | notInText field query =>
    rw [Clause.text?] at h
    obtain rfl := Except.ok.inj h
    exact hsome (hbracket _)
  | null field | notNull field =>
    rw [Clause.text?] at h
    obtain rfl := Except.ok.inj h
    exact hsome (.append_left _ ⟨'l', rfl, rfl⟩)
  | moment field op m =>
    rw [Clause.text?] at h
    split at h
    · obtain rfl := Except.ok.inj h
      have hmoment : EndsFull m.text := .bare (Moment.text_ne_empty m) (Stamp.moment m).bare
      exact hsome (hmoment.append_left _)
    · exact nomatch h
  | boolean field op value =>
    rw [Clause.text?] at h
    split at h
    · obtain rfl := Except.ok.inj h
      have hbool : EndsFull (Value.boolText value) :=
        .bare (by cases value <;> decide) (.boolText value)
      exact hsome (hbool.append_left _)
    · exact nomatch h
  | inSelect field op query =>
    rw [Clause.text?] at h
    split at h
    · obtain ⟨text, -, h⟩ := exists_of_bind_ok h
      obtain rfl := Except.ok.inj h
      exact hsome (hbracket _)
    · exact nomatch h
  | group clauses =>
    rw [Clause.text?] at h
    obtain ⟨parts, -, h⟩ := exists_of_bind_ok h
    obtain rfl := Except.ok.inj h
    split
    · exact fun _ hp => nomatch hp
    · exact hsome (hbracket _)

theorem Clause.endsFull_texts {d : Dialect} {cs : List Clause} {parts : List String}
    (h : Clause.texts d cs = .ok parts) : ∀ part ∈ parts, EndsFull part := by
  induction cs generalizing parts with
  | nil =>
    rw [Clause.texts] at h
    obtain rfl := Except.ok.inj h
    exact List.forall_mem_nil _
  | cons c cs ih =>
    rw [Clause.texts] at h
    obtain ⟨part?, hpart, h⟩ := exists_of_bind_ok h
    obtain ⟨rest, hrest, h⟩ := exists_of_bind_ok h
    obtain rfl := Except.ok.inj h
    intro part hmem
    rcases List.mem_append.1 hmem with hmem | hmem
    · exact endsFull_text? hpart part (by simpa using hmem)
    · exact ih hrest part hmem

/-- The text of a query for an object that ends in no blank does neither. -/
theorem Select.endsFull_text {d : Dialect} {s : Select} {text : String} (h : s.text d = .ok text)
    (hobject : EndsFull s.object) : EndsFull text := by
  obtain ⟨fields, object, clauses, orders, limit, offset⟩ := s
  obtain ⟨names, parts, -, hparts, rfl⟩ := Select.exists_parts h
  have hcount (n : Option Nat) : ∀ p ∈ (n.map toString).toList, EndsFull p := by
    intro p hp
    obtain ⟨m, -, rfl⟩ := Option.map_eq_some_iff.1 (Option.mem_toList.1 hp)
    exact .bare (toString_nat_ne_empty m) (.nat m)
  have horders : ∀ p ∈ orders.map Order.text, EndsFull p := by
    intro p hp
    obtain ⟨o, -, rfl⟩ := List.mem_map.1 hp
    exact o.endsFull_text
  have hfrom := hobject.append_left
    ("SELECT " ++ ", ".intercalate (if fields.isEmpty then d.defaultFields else names) ++ " FROM ")
  exact (((hfrom.append_segment (Clause.endsFull_texts hparts)).append_segment
    horders).append_segment (hcount limit)).append_segment (hcount offset)

/-- The text of a query is taken over as a raw sub-select as it is. -/
theorem Query.rawText_text {d : Dialect} {s : Select} {text : String} (h : s.text d = .ok text)
    (hobject : EndsFull s.object) : rawText text = .ok text := by
  obtain ⟨rest, hrest⟩ : ∃ rest, text.toList = "SELECT ".toList ++ rest := by
    obtain ⟨names, parts, -, -, rfl⟩ := Select.exists_parts h
    exact ⟨_, by simp only [Segments.text, String.append_assoc, String.toList_append]; rfl⟩
  have hfirst : text.toList.head? = some 'S' := by rw [hrest]; rfl
  have hskip : skipBlanks text.toList = text.toList := by
    rw [hrest]
    rfl
  have hlead : String.ofList (text.toList.take 7) = "SELECT " := by
    rw [hrest]
    rfl
  rw [rawText, hskip, hlead, trimmed_eq_self hfirst rfl (Select.endsFull_text h hobject)]
  rfl

end RecordQuery
