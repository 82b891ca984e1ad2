import RecordQuery.Proofs.Query.Literal

namespace RecordQuery

open Text

/-- The name of a field or an object: no blank, comma, quote or bracket in it. -/
structure IsName (s : String) : Prop where
  nonempty : s ≠ ""
  plain : ∀ c ∈ s.toList, isPlain c ∧ isBlank c = false ∧ c ≠ ','

instance (s : String) : Decidable (IsName s) :=
  decidable_of_iff (s ≠ "" ∧ ∀ c ∈ s.toList, isPlain c ∧ isBlank c = false ∧ c ≠ ',')
    ⟨fun h => ⟨h.1, h.2⟩, fun h => ⟨h.nonempty, h.plain⟩⟩

namespace IsName

theorem whole {s : String} (h : IsName s) : Whole s.toList :=
  .ofPlain fun c hc => ⟨(h.plain c hc).1, (h.plain c hc).2.1⟩

theorem bracketed?_eq_none {s : String} (h : IsName s) : bracketed? s.toList = none := by
  refine bracketed?_of_head fun hopen => ?_
  have hplain := (h.plain '(' (List.mem_of_mem_head? hopen)).1
  exact nomatch hplain

end IsName

inductive Operand where
  | literal (text : String)
  | subselect (text : String)
  deriving DecidableEq

/-- A field, an operator and what the field is compared with. -/
structure Comparison where
  field : String
  op : Operator
  operand : Operand
  deriving DecidableEq

inductive Connective where
  | and
  | or
  deriving DecidableEq

mutual

/-- A comparison, or a condition in brackets. -/
inductive Term where
  | comparison (c : Comparison)
  | group (c : Condition)

/-- Terms with connectives between them. -/
inductive Condition where
  | one (t : Term)
  | more (t : Term) (k : Connective) (c : Condition)

end

def Operator.words : Operator → List (List Char)
  | notIn => ["NOT".toList, "IN".toList]
  | op => [op.text.toList]

@[simp] theorem Operator.spaced_words (op : Operator) : spaced op.words = op.text.toList := by
  cases op <;> decide

theorem Operator.words_ne_nil (op : Operator) : op.words ≠ [] := by
  cases op <;> exact List.cons_ne_nil _ _

theorem Operator.whole_words (op : Operator) : ∀ w ∈ op.words, Whole w := by
  have hall : ∀ w ∈ op.words, ∀ c ∈ w, isPlain c ∧ isBlank c = false := by
    cases op <;> decide
  exact fun w hw => .ofPlain (hall w hw)

def Operand.word : Operand → List Char
  | literal text => text.toList
  | subselect text => '(' :: text.toList ++ [')']

def Connective.word : Connective → List Char
  | and => "AND".toList
  | or => "OR".toList

theorem Connective.whole_word (k : Connective) : Whole k.word := by
  have hall : ∀ c ∈ k.word, isPlain c ∧ isBlank c = false := by
    cases k <;> decide
  exact .ofPlain hall

def Comparison.words (c : Comparison) : List (List Char) :=
  c.field.toList :: (c.op.words ++ [c.operand.word])

mutual

def Term.words : Term → List (List Char)
  | .comparison c => c.words
  | .group c => ['(' :: spaced c.words ++ [')']]

def Condition.words : Condition → List (List Char)
  | .one t => t.words
  | .more t k c => t.words ++ k.word :: c.words

end

theorem Term.words_ne_nil (t : Term) : t.words ≠ [] := by
  cases t <;> exact List.cons_ne_nil _ _

theorem Condition.words_ne_nil (c : Condition) : c.words ≠ [] := by
  cases c with
  | one t => exact t.words_ne_nil
  | more t k c => exact List.append_ne_nil_of_left_ne_nil t.words_ne_nil _

/-- A text that can stand in brackets as a sub-select. -/
structure IsSubselect (cs : List Char) : Prop where
  closed : Closed true cs
  lead : "SELECT ".toList.isPrefixOf cs

def Operand.Sound : Operand → Prop
  | literal text => IsLiteral text.toList
  | subselect text => IsSubselect text.toList

structure Comparison.Sound (c : Comparison) : Prop where
  field : IsName c.field
  operand : c.operand.Sound

mutual

def Term.Sound : Term → Prop
  | .comparison c => c.Sound
  | .group c => c.Sound

/-- Fields are names, and what they are compared with can be told apart. -/
def Condition.Sound : Condition → Prop
  | .one t => t.Sound
  | .more t _ c => t.Sound ∧ c.Sound

end

theorem Operand.Sound.whole {x : Operand} (h : x.Sound) : Whole x.word := by
  cases x with
  | literal text => exact IsLiteral.whole h
  | subselect text => exact (IsSubselect.closed h).inBrackets

theorem Comparison.Sound.whole {c : Comparison} (h : c.Sound) : ∀ w ∈ c.words, Whole w := by
  intro w hw
  simp only [Comparison.words, List.mem_cons, List.mem_append, List.not_mem_nil, or_false] at hw
  rcases hw with rfl | hw | rfl
  · exact h.field.whole
  · exact c.op.whole_words w hw
  · exact h.operand.whole

mutual

theorem Term.Sound.whole : ∀ {t : Term}, t.Sound → ∀ w ∈ t.words, Whole w
  | .comparison _, h => Comparison.Sound.whole h
  | .group _, h => fun w hw => by
    obtain rfl := List.mem_singleton.1 hw
    exact (closed_spaced (Condition.Sound.whole h)).inBrackets

theorem Condition.Sound.whole : ∀ {c : Condition}, c.Sound → ∀ w ∈ c.words, Whole w
  | .one _, h => Term.Sound.whole h
  | .more t k c, ⟨ht, hc⟩ => fun w hw => by
    simp only [Condition.words, List.mem_append, List.mem_cons] at hw
    rcases hw with hw | rfl | hw
    · exact Term.Sound.whole ht w hw
    · exact k.whole_word
    · exact Condition.Sound.whole hc w hw

end

/-- The operator at the head of words, and the words after it. -/
def Operator.read : List (List Char) → Option (Operator × List (List Char))
  | [] => none
  | w :: ws =>
    if w = "NOT".toList ∧ ws.head? = some "IN".toList then some (notIn, ws.tail)
    else (all.find? fun op => op.text.toList = w).map (·, ws)

theorem Operator.read_words (op : Operator) (rest : List (List Char)) :
    read (op.words ++ rest) = some (op, rest) := by
  cases op <;> rfl

/-- What a word after an operator stands for. -/
def Operand.ofWord (w : List Char) : Operand :=
  match bracketed? w with
  | none => .literal (String.ofList w)
  | some body =>
    if "SELECT ".toList.isPrefixOf body then .subselect (String.ofList body)
    else .literal (String.ofList w)

theorem Operand.ofWord_word {x : Operand} (h : x.Sound) : ofWord x.word = x := by
  cases x with
  | literal text =>
    unfold ofWord word
    split
    · rw [String.ofList_toList]
    · rename_i body hbody
      have hlead : ¬"SELECT ".toList.isPrefixOf body = true := by
        intro hlead
        obtain ⟨tail, rfl⟩ := List.isPrefixOf_iff_prefix.1 hlead
        exact h.inside _ hbody rfl
      rw [if_neg hlead, String.ofList_toList]
  | subselect text =>
    unfold ofWord word
    rw [bracketed?_inBrackets]
    exact (if_pos h.lead).trans (by rw [String.ofList_toList])

def Connective.ofWord? (w : List Char) : Option Connective :=
  if w = "AND".toList then some and else if w = "OR".toList then some or else none

@[simp] theorem Connective.ofWord?_word (k : Connective) : ofWord? k.word = some k := by
  cases k <;> rfl

/-- What a term begins with: all of it, or a text in brackets that has to be read. -/
inductive Lead where
  | comparison (c : Comparison)
  | bracketed (body : List Char)

/-- The term at the head of words, and the words after it. -/
def Lead.read : List (List Char) → Option (Lead × List (List Char))
  | [] => none
  | w :: ws =>
    match bracketed? w with
    | some body => some (.bracketed body, ws)
    | none =>
      match Operator.read ws with
      | some (op, x :: rest) =>
        some (.comparison ⟨String.ofList w, op, Operand.ofWord x⟩, rest)
      | _ => none

def Lead.room : Lead → Nat
  | comparison _ => 0
  | bracketed body => body.length + 1

theorem Operator.room_of_read {ws rest : List (List Char)} {op : Operator}
    (h : read ws = some (op, rest)) : Text.room rest ≤ Text.room ws := by
  cases ws with
  | nil => exact nomatch h
  | cons w ws =>
    have htail : Text.room ws.tail ≤ Text.room ws := by
      cases ws with
      | nil => exact Nat.le_refl _
      | cons v ws =>
        rw [List.tail_cons, room_cons]
        omega
    rw [room_cons]
    rw [read] at h
    split at h
    · obtain ⟨-, rfl⟩ := Prod.mk.inj (Option.some.inj h)
      omega
    · obtain ⟨_, -, hpair⟩ := Option.map_eq_some_iff.1 h
      obtain ⟨-, rfl⟩ := Prod.mk.inj hpair
      omega

/-- What has to be read and what follows it take less room than the words they came from. -/
theorem Lead.room_of_read {ws rest : List (List Char)} {lead : Lead}
    (h : read ws = some (lead, rest)) : lead.room + Text.room rest < Text.room ws := by
  cases ws with
  | nil => exact nomatch h
  | cons w ws =>
    rw [room_cons]
    rw [read] at h
    split at h
    · rename_i body hbody
      obtain ⟨rfl, rfl⟩ := Prod.mk.inj (Option.some.inj h)
      have hlength := length_of_bracketed? hbody
      simp only [room]
      omega
    · split at h
      · rename_i op x tail hop
        obtain ⟨rfl, rfl⟩ := Prod.mk.inj (Option.some.inj h)
        have hroom := Operator.room_of_read hop
        rw [room_cons] at hroom
        simp only [room]
        omega
      · exact nomatch h

mutual

/-- The longest condition at the head of words, and the words after it. -/
def Condition.read (ws : List (List Char)) : Option (Condition × List (List Char)) :=
  match _hlead : Lead.read ws with
  | none => none
  | some (.comparison c, rest) => Condition.follow (.comparison c) rest
  | some (.bracketed body, rest) =>
    match Condition.read (outerWords body) with
    | some (c, []) => Condition.follow (.group c) rest
    | _ => none
termination_by Text.room ws
decreasing_by
  · have hroom := Lead.room_of_read _hlead
    omega
  · have hroom := Lead.room_of_read _hlead
    have hbody : Text.room (outerWords body) = body.length + 1 := room_wordsFrom _ _
    simp only [Lead.room] at hroom
    omega
  · have hroom := Lead.room_of_read _hlead
    omega

/-- The condition that begins with a term, if a connective follows the term or not. -/
def Condition.follow (t : Term) (ws : List (List Char)) :
    Option (Condition × List (List Char)) :=
  match ws with
  | [] => some (.one t, [])
  | w :: ws =>
    match Connective.ofWord? w with
    | some k => (Condition.read ws).map fun (c, rest) => (.more t k c, rest)
    | none => some (.one t, w :: ws)
termination_by Text.room ws
decreasing_by
  rw [room_cons]
  omega

end

def Condition.ofText? (s : String) : Option Condition :=
  match Condition.read (outerWords s.toList) with
  | some (c, []) => some c
  | _ => none

/-- No connective stands at the head of the words. -/
def Ends (ws : List (List Char)) : Prop := ∀ w ∈ ws.head?, Connective.ofWord? w = none

theorem ends_nil : Ends [] := fun _ hw => nomatch hw

namespace Condition

theorem read_of_comparison {ws rest : List (List Char)} {c : Comparison}
    (h : Lead.read ws = some (.comparison c, rest)) :
    read ws = follow (.comparison c) rest := by
  rw [read]
  split
  · rename_i hlead
    exact nomatch h.symm.trans hlead
  · rename_i hlead
    cases h.symm.trans hlead
    rfl
  · rename_i hlead
    exact nomatch h.symm.trans hlead

theorem read_of_bracketed {ws rest : List (List Char)} {body : List Char} {c : Condition}
    (h : Lead.read ws = some (.bracketed body, rest))
    (hbody : read (outerWords body) = some (c, [])) : read ws = follow (.group c) rest := by
  rw [read]
  split
  · rename_i hlead
    exact nomatch h.symm.trans hlead
  · rename_i hlead
    exact nomatch h.symm.trans hlead
  · rename_i hlead
    cases h.symm.trans hlead
    rw [hbody]

theorem follow_of_ends (t : Term) {ws : List (List Char)} (h : Ends ws) :
    follow t ws = some (.one t, ws) := by
  cases ws with
  | nil => rw [follow]
  | cons w ws =>
    have hw : Connective.ofWord? w = none := h w rfl
    rw [follow, hw]

theorem follow_word (t : Term) (k : Connective) (ws : List (List Char)) :
    follow t (k.word :: ws) = (read ws).map fun (c, rest) => (.more t k c, rest) := by
  rw [follow, Connective.ofWord?_word]

end Condition

/-- The words of a comparison are read as one term. -/
theorem Comparison.read_words {c : Comparison} (h : c.Sound) (rest : List (List Char)) :
    Lead.read (c.words ++ rest) = some (.comparison c, rest) := by
  have hop := c.op.read_words (c.operand.word :: rest)
  simp only [Comparison.words, List.cons_append, List.append_assoc, Lead.read,
    h.field.bracketed?_eq_none, List.nil_append, hop, String.ofList_toList,
    Operand.ofWord_word h.operand]

mutual

theorem Term.read_words : ∀ {t : Term}, t.Sound → ∀ rest : List (List Char),
    Condition.read (t.words ++ rest) = Condition.follow t rest
  | .comparison _, h, rest => Condition.read_of_comparison (Comparison.read_words h rest)
  | .group c, h, rest => by
    have hlead : Lead.read ((Term.group c).words ++ rest) =
        some (.bracketed (spaced c.words), rest) := by
      rw [Term.words, List.singleton_append, Lead.read, bracketed?_inBrackets]
    have hbody : Condition.read (outerWords (spaced c.words)) = some (c, []) := by
      rw [outerWords_spaced c.words_ne_nil (Condition.Sound.whole h)]
      simpa using Condition.read_words h ends_nil
    exact Condition.read_of_bracketed hlead hbody

/-- The words of a condition are read as the condition. -/
theorem Condition.read_words : ∀ {c : Condition}, c.Sound → ∀ {rest : List (List Char)},
    Ends rest → Condition.read (c.words ++ rest) = some (c, rest)
  | .one t, h, _, hrest => (Term.read_words h _).trans (Condition.follow_of_ends t hrest)
  | .more t k c, ⟨ht, hc⟩, rest, hrest => by
    have hread := Condition.read_words hc hrest
    rw [Condition.words, List.append_assoc, Term.read_words ht, List.cons_append,
      Condition.follow_word, hread]
    rfl

end

/-- The text of a condition is read as the condition. -/
theorem Condition.ofText?_spaced {c : Condition} (h : c.Sound) {text : String}
    (htext : text.toList = spaced c.words) : Condition.ofText? text = some c := by
  have hread := Condition.read_words h ends_nil
  rw [List.append_nil] at hread
  unfold Condition.ofText?
  rw [htext, outerWords_spaced c.words_ne_nil h.whole, hread]

end RecordQuery
