import RecordQuery.Proofs.Text.Digits
import RecordQuery.Proofs.Text.Words
import RecordQuery.Query.Dialect

namespace RecordQuery

namespace Text

/-- The signs and letters of literals outside quotes and brackets. -/
def bareMarks : List Char :=
  ['+', '-', '.', ':', 'T', 'Z', 'N', 'a', 'e', 'f', 'i', 'l', 'n', 'r', 's', 't', 'u']

/-- The characters of literals outside quotes and brackets. -/
def isBare (c : Char) : Bool := c.isDigit || bareMarks.contains c

def Bare (s : String) : Prop := ∀ c ∈ s.toList, isBare c

instance (s : String) : Decidable (Bare s) :=
  inferInstanceAs (Decidable (∀ c ∈ s.toList, isBare c))

theorem isPlain_of_isBare {c : Char} (h : isBare c) :
    isPlain c ∧ isBlank c = false ∧ c ≠ '(' ∧ c ≠ 'S' := by
  unfold isBare at h
  obtain hdigit | hmark := Bool.or_eq_true_iff.1 h
  · have hc := Char.isDigit_iff_toNat.1 hdigit
    have hlow : 48 ≤ c.toNat := hc.1
    have hhigh : c.toNat ≤ 57 := hc.2
    have hne (d : Char) (hd : d.toNat < 48 ∨ 57 < d.toNat) : c ≠ d := by
      rintro rfl
      omega
    refine ⟨?_, isBlank_of_isDigit hdigit, hne '(' (by decide), hne 'S' (by decide)⟩
    simp [isPlain, hne '\'' (by decide), hne '(' (by decide), hne ')' (by decide)]
  · have hmarks : ∀ d ∈ bareMarks,
        isPlain d ∧ isBlank d = false ∧ d ≠ '(' ∧ d ≠ 'S' := by decide
    exact hmarks c (List.contains_iff_mem.1 hmark)

theorem isBare_of_isDigit (c : Char) (h : c.isDigit) : isBare c := by
  simp [isBare, h]

/-- The marks of days and timestamps. -/
def stampMarks : List Char := ['-', '+', ':', 'T']

def isStamp (c : Char) : Bool := c.isDigit || stampMarks.contains c

def Stamp (s : String) : Prop := Over isStamp s

instance (s : String) : Decidable (Stamp s) := inferInstanceAs (Decidable (Over isStamp s))

namespace Stamp

theorem padded (width n : Nat) : Stamp (Text.padded width n) := by
  apply (Over.digits_padded width n).mono
  intro c hc
  simp [isStamp, hc]

theorem year (y : Int) : Stamp (Calendar.Date.yearText y) := by
  have hminus : Stamp "-" := by decide
  have hplus : Stamp "+" := by decide
  unfold Calendar.Date.yearText
  apply Over.ite (hminus.append (padded _ _))
  exact Over.ite (padded _ _) (hplus.append (padded _ _))

theorem date (d : Calendar.Date) : Stamp d.text := by
  have hminus : Stamp "-" := by decide
  have hmonth : Stamp (Calendar.Date.yearText d.year ++ "-" ++ Text.padded 2 d.month) :=
    ((year _).append hminus).append (padded _ _)
  exact (hmonth.append hminus).append (padded _ _)

theorem clock (t : Calendar.Time) : Stamp t.clockText := by
  have hcolon : Stamp ":" := by decide
  have hminute : Stamp (Text.padded 2 t.hour ++ ":" ++ Text.padded 2 t.minute) :=
    ((padded _ _).append hcolon).append (padded _ _)
  exact (hminute.append hcolon).append (padded _ _)

theorem offset (seconds : Int) : Stamp (Calendar.Zoned.offsetText seconds) := by
  have hsign : Stamp (if seconds < 0 then "-" else "+") := Over.ite (by decide) (by decide)
  have hcolon : Stamp ":" := by decide
  exact ((hsign.append (padded _ _)).append hcolon).append (padded _ _)

theorem moment (m : Moment) : Stamp m.text := by
  cases m with
  | day d => exact date d
  | timestamp z =>
    have hbetween : Stamp "T" := by decide
    exact (((date _).append hbetween).append (clock _)).append (offset _)

theorem bare {s : String} (h : Stamp s) : Bare s := by
  apply Over.mono h
  intro c hc
  obtain hdigit | hmark := Bool.or_eq_true_iff.1 hc
  · exact isBare_of_isDigit c hdigit
  · have hmarks : ∀ d ∈ stampMarks, isBare d := by decide
    exact hmarks c (List.contains_iff_mem.1 hmark)

end Stamp

namespace Bare

theorem append {s t : String} (hs : Bare s) (ht : Bare t) : Bare (s ++ t) := Over.append hs ht

theorem nat (n : Nat) : Bare (toString n) := (Over.digits_toString n).mono isBare_of_isDigit

theorem int (i : Int) : Bare (toString i) := by
  rw [Int.toString_eq_repr, Int.repr_eq_if]
  exact Over.ite (nat _) (append (by decide) (nat _))

theorem boolText (b : Bool) : Bare (Value.boolText b) := Over.ite (by decide) (by decide)

end Bare

end Text

namespace Decimal

theorem positional_eq (whole : String) (d : Digits) :
    positional whole d =
      if d.point ≤ 0 then '0' :: '.' :: (List.replicate (-d.point).toNat '0' ++ d.digits)
      else if d.digits.length ≤ d.point then
        d.digits ++ List.replicate (d.point - d.digits.length).toNat '0' ++ whole.toList
      else d.digits.take d.point.toNat ++ '.' :: d.digits.drop d.point.toNat := rfl

theorem isDigit_of_mem_shortest {tie : Tie} {bits : UInt64} {c : Char}
    (h : c ∈ (shortest tie bits).digits) : c.isDigit := by
  unfold shortest at h
  dsimp only at h
  split at h
  · exact nomatch h
  · rename_i found
    obtain ⟨n, -, hn⟩ := List.exists_of_findSome?_eq_some found
    obtain ⟨d, -, hd⟩ := Option.map_eq_some_iff.1 hn
    obtain ⟨rfl, -⟩ := Prod.mk.inj hd
    have hmem := (List.dropWhile_sublist _).subset (List.mem_reverse.1 h)
    exact Nat.isDigit_of_mem_toDigits (by decide) (by decide) (List.mem_reverse.1 hmem)

/-- The literal of a double is its digits, with a sign and a point, or a word. -/
theorem bare_plain (f : Float) : Text.Bare (FloatStyle.plain.text f) := by
  have hdigit {c : Char} (h : c.isDigit) : Text.isBare c := by simp [Text.isBare, h]
  have hpositional (bits : UInt64) :
      ∀ c ∈ positional "" (shortest .upward bits), Text.isBare c := by
    intro c hc
    have hzeros (n : Nat) (h : c ∈ List.replicate n '0') : Text.isBare c := by
      obtain rfl := List.eq_of_mem_replicate h
      rfl
    have hdigits (h : c ∈ (shortest .upward bits).digits) : Text.isBare c :=
      hdigit (isDigit_of_mem_shortest h)
    rw [positional_eq] at hc
    split at hc
    · simp only [List.mem_cons, List.mem_append] at hc
      rcases hc with rfl | rfl | h | h
      · rfl
      · rfl
      · exact hzeros _ h
      · exact hdigits h
    · split at hc
      · simp only [List.mem_append] at hc
        rcases hc with (h | h) | h
        · exact hdigits h
        · exact hzeros _ h
        · exact nomatch h
      · simp only [List.mem_append, List.mem_cons] at hc
        rcases hc with h | rfl | h
        · exact hdigits (List.mem_of_mem_take h)
        · rfl
        · exact hdigits (List.mem_of_mem_drop h)
  unfold FloatStyle.text
  dsimp only
  split
  · decide
  · intro c hc
    rw [String.toList_ofList] at hc
    have hbody : ∀ c ∈ (if f.isInf then "inf".toList
        else if f.toBits.toNat % Nat.pow 2 63 = 0 then '0' :: FloatStyle.plain.whole.toList
        else positional "" (shortest .upward f.toBits)), Text.isBare c := by
      split
      · decide
      · split
        · decide
        · exact hpositional _
    split at hc
    · exact hbody c hc
    · rcases List.mem_cons.1 hc with rfl | hc
      · rfl
      · exact hbody c hc

end Decimal

namespace Dialect

def kind? (d : Dialect) (field : String) : Option FieldKind := do (← d.schema).kind? field

/-- A text is written as something else than a text for fields of these kinds only. -/
theorem typedLiteral?_eq_some {s t : String} {kind : FieldKind}
    (h : typedLiteral? s kind = some t) :
    (kind = .boolean ∧ (t = "true" ∨ t = "false")) ∨
      ((kind = .date ∨ kind = .dateTime) ∧ ∃ m, Moment.ofText s = .ok m ∧ t = m.text) := by
  -- Opened by cases on the kind, since the equations of the definition are slow to derive.
  unfold typedLiteral? at h
  split at h
  case h_1 =>
    simp only [List.contains_iff_mem, List.mem_cons, List.not_mem_nil, or_false] at h
    split at h
    · rename_i hword
      obtain rfl := Option.some.inj h
      exact .inl ⟨rfl, hword⟩
    · cases h
  case h_2 | h_3 =>
    refine .inr ⟨by simp, ?_⟩
    generalize Moment.ofText s = r at h ⊢
    cases r with
    | ok m =>
      obtain rfl := Option.some.inj h
      exact ⟨m, rfl, rfl⟩
    | error fault => cases h
  case h_4 | h_5 => cases h

/-- A text that is not written as something else is quoted. -/
theorem literal_text (d : Dialect) (field s : String) :
    d.literal field (.text s) =
      ((d.kind? field).bind (typedLiteral? s)).getD (quotedLiteral s) := by
  unfold literal kind?
  rw [Value.literal]
  simp only [Value.text?, Option.bind_eq_bind, Option.bind_some, Option.bind_assoc]

/-- What a text is compared as with a field of days or of moments. -/
theorem literal_text_of_temporal (d : Dialect) {field : String} {kind : FieldKind}
    (hdeclared : d.kind? field = some kind) (hkind : kind = .date ∨ kind = .dateTime) (s : String) :
    d.literal field (.text s) =
      match Moment.ofText s with
      | .ok m => m.text
      | .error _ => quotedLiteral s := by
  rw [literal_text, hdeclared, Option.bind_some]
  rcases hkind with rfl | rfl
  · unfold typedLiteral?
    dsimp only
    cases Moment.ofText s with
    | ok m => rfl
    | error fault => rfl
  · unfold typedLiteral?
    dsimp only
    cases Moment.ofText s with
    | ok m => rfl
    | error fault => rfl

end Dialect

/-- One word that is no sub-select and begins none. -/
structure IsLiteral (w : List Char) : Prop where
  whole : Text.Whole w
  head : w.head? ≠ some 'S'
  inside : ∀ body, Text.bracketed? w = some body → body.head? ≠ some 'S'

namespace IsLiteral

open Text

theorem bare {s : String} (h : Bare s) : IsLiteral s.toList := by
  have hplain {c : Char} (hc : c ∈ s.toList) := isPlain_of_isBare (h c hc)
  have hhead {d : Char} (hd : s.toList.head? = some d) : d ≠ '(' ∧ d ≠ 'S' :=
    (hplain (List.mem_of_mem_head? hd)).2.2
  refine ⟨.ofPlain fun c hc => ⟨(hplain hc).1, (hplain hc).2.1⟩, fun hS => (hhead hS).2 rfl, ?_⟩
  intro body hbody
  rw [bracketed?_of_head fun hopen => (hhead hopen).1 rfl] at hbody
  exact nomatch hbody

/-- Between the quotes of a literal every quote and every backslash is escaped. -/
theorem exists_quotable (s : String) :
    ∃ body, Quotable body ∧ (quotedLiteral s).toList = '\'' :: body ++ ['\''] := by
  refine ⟨_, ?_, by rw [quotedLiteral, String.toList_ofList]⟩
  generalize s.toList = cs
  induction cs with
  | nil => exact .nil
  | cons c cs ih =>
    rw [List.flatMap_cons]
    split
    · exact .escape ih
    · exact .escape ih
    · exact .escape ih
    · exact .escape ih
    · exact .escape ih
    · rename_i hslash hquote _ _ _
      exact .char hquote hslash ih

theorem quoted (s : String) : IsLiteral (quotedLiteral s).toList := by
  obtain ⟨body, hbody, htext⟩ := exists_quotable s
  rw [htext]
  refine ⟨.quoted hbody .nil, by simp, fun inner h => ?_⟩
  rw [bracketed?_of_head (by simp)] at h
  exact nomatch h

/-- Literals between commas begin no sub-select. -/
theorem head?_intercalate {ws : List (List Char)} (h : ∀ w ∈ ws, IsLiteral w) :
    ((", ".toList).intercalate ws).head? ≠ some 'S' := by
  cases ws with
  | nil => simp
  | cons w ws =>
    have hw := (h w List.mem_cons_self).head
    cases ws with
    | nil => simpa using hw
    | cons v ws =>
      rw [List.intercalate_cons_cons]
      cases w with
      | nil => simp
      | cons c w => simpa using hw

theorem toList_listed (ws : List String) : ("(" ++ ", ".intercalate ws ++ ")").toList =
    '(' :: (", ".toList).intercalate (ws.map String.toList) ++ [')'] := by
  simp only [String.toList_append, String.toList_intercalate]
  rfl

theorem listed {ws : List String} (h : ∀ w ∈ ws, IsLiteral w.toList) :
    IsLiteral ("(" ++ ", ".intercalate ws ++ ")").toList := by
  have hmem : ∀ w ∈ ws.map String.toList, IsLiteral w := by
    intro w hw
    obtain ⟨s, hs, rfl⟩ := List.mem_map.1 hw
    exact h s hs
  have hsep : Closed true ", ".toList := .char rfl (.inl rfl) (.char rfl (.inl rfl) .nil)
  rw [toList_listed]
  refine ⟨(Closed.intercalate hsep fun w hw => (hmem w hw).whole.blanks).inBrackets, by simp,
    fun body hbody => ?_⟩
  obtain rfl := Option.some.inj ((bracketed?_inBrackets _).symm.trans hbody)
  exact head?_intercalate hmem

mutual

theorem value : ∀ v : Value, IsLiteral v.literal.toList
  | .null => bare (by rw [Value.literal]; decide)
  | .bool b => bare (by rw [Value.literal]; exact .boolText b)
  | .int i => bare (by rw [Value.literal]; exact .int _)
  | .float f => bare (by rw [Value.literal]; exact Decimal.bare_plain f)
  | .text s => by rw [Value.literal]; exact quoted s
  | .date d => bare (by rw [Value.literal]; exact (Stamp.moment _).bare)
  | .dateTime t => bare (by rw [Value.literal]; exact (Stamp.moment _).bare)
  | .instant t => bare (by rw [Value.literal]; exact (Stamp.moment _).bare)
  | .time t => bare (by
      rw [Value.literal]
      exact (((Stamp.clock t).bare.append (by decide)).append (Stamp.padded _ _).bare).append
        (by decide))
  | .json j => by rw [Value.literal]; exact quoted _
  | .list items => by
    have hitems := values items
    rw [Value.literal]
    exact listed hitems

theorem values : ∀ vs : List Value, ∀ w ∈ Value.literals vs, IsLiteral w.toList
  | [], _, h => by
    rw [Value.literals] at h
    exact nomatch h
  | v :: vs, w, h => by
    rw [Value.literals] at h
    rcases List.mem_cons.1 h with rfl | h
    · exact value v
    · exact values vs w h

end

theorem typed {s t : String} {kind : FieldKind} (h : Dialect.typedLiteral? s kind = some t) :
    Bare t := by
  rcases Dialect.typedLiteral?_eq_some h with ⟨-, rfl | rfl⟩ | ⟨-, m, -, rfl⟩
  · decide
  · decide
  · exact (Stamp.moment m).bare

/-- With or without a schema the literal of a value is one. -/
theorem dialect (d : Dialect) (field : String) (v : Value) :
    IsLiteral (d.literal field v).toList := by
  unfold Dialect.literal
  dsimp only
  cases htyped : (do
      let s ← v.text?
      let schema ← d.schema
      Dialect.typedLiteral? s (← schema.kind? field)) with
  | none => exact value v
  | some text =>
    obtain ⟨s, -, hs⟩ := Option.bind_eq_some_iff.1 htyped
    obtain ⟨schema, -, hschema⟩ := Option.bind_eq_some_iff.1 hs
    obtain ⟨kind, -, hkind⟩ := Option.bind_eq_some_iff.1 hschema
    exact bare (typed hkind)

theorem dialectList (d : Dialect) (field : String) (values : List Value) :
    IsLiteral (d.literalList field values).toList := by
  refine listed fun w hw => ?_
  obtain ⟨v, -, rfl⟩ := List.mem_map.1 hw
  exact dialect d field v

end IsLiteral

end RecordQuery
