import RecordQuery.Proofs.Query.Form
import RecordQuery.Proofs.Query.Segments

namespace RecordQuery

open Text

def Condition.atom (field : String) (op : Operator) (x : Operand) : Condition :=
  .one (.comparison ⟨field, op, x⟩)

/-- A field is null, or is not. -/
def Condition.isNull (field : String) : Condition := .atom field .eq (.literal "null")

def Condition.notNull (field : String) : Condition := .atom field .ne (.literal "null")

/-- Two conditions on one level, with a connective between them. -/
def Condition.join (k : Connective) : Condition → Condition → Condition
  | .one t, d => .more t k d
  | .more t k' c, d => .more t k' (c.join k d)

mutual

/-- What a clause says. A group without conditions says nothing, and neither does a clause that
cannot be written. -/
def Clause.condition? (d : Dialect) : Clause → Option Condition
  | .compare field op value => some (.atom field op (.literal (d.literal field value)))
  | .isIn field values =>
    if values.isEmpty then some ((Condition.isNull field).join .and (.notNull field))
    else some (.atom field .isIn (.literal (d.literalList field values)))
  | .notIn field values =>
    if values.isEmpty then
      some (.one (.group ((Condition.isNull field).join .or (.notNull field))))
    else some (.atom field .notIn (.literal (d.literalList field values)))
  | .inText field query => some (.atom field .isIn (.subselect query))
  | .notInText field query => some (.atom field .notIn (.subselect query))
  | .null field => some (.isNull field)
  | .notNull field => some (.notNull field)
  | .moment field op m => some (.atom field op (.literal m.text))
  | .boolean field op value => some (.atom field op (.literal (Value.boolText value)))
  | .inSelect field op query =>
    match query.text d.plain with
    | .ok text => some (.atom field op (.subselect text))
    | .error _ => none
  | .group clauses => (Clause.conjunction? d clauses).map fun c => .one (.group c)

/-- What clauses say together. -/
def Clause.conjunction? (d : Dialect) : List Clause → Option Condition
  | [] => none
  | c :: cs => Option.merge (.join .and) (Clause.condition? d c) (Clause.conjunction? d cs)

end

mutual

/-- What a query asks for. Nothing selected means the default fields. -/
def Select.form (d : Dialect) : Select → Form
  | ⟨fields, object, clauses, orders, limit, offset⟩ =>
    ⟨if fields.isEmpty then d.defaultFields.map .name else Selected.items d fields, object,
      Clause.conjunction? d clauses, orders, limit, offset⟩

def Selected.items (d : Dialect) : List Selected → List Item
  | [] => []
  | s :: rest => Selected.item d s :: Selected.items d rest

def Selected.item (d : Dialect) : Selected → Item
  | .field name => .name name
  | .select query => .select (Select.form d.plain query)

end

/-- The default fields are names. -/
def Dialect.Named (d : Dialect) : Prop := ∀ n ∈ d.defaultFields, IsName n

mutual

/-- The fields of a clause are names. Its finished sub-selects are texts of queries over names. -/
inductive Clause.Named : Clause → Prop
  | compare {field : String} {op : Operator} {value : Value} :
    IsName field → Clause.Named (.compare field op value)
  | isIn {field : String} {values : List Value} :
    IsName field → Clause.Named (.isIn field values)
  | notIn {field : String} {values : List Value} :
    IsName field → Clause.Named (.notIn field values)
  | inText {field text : String} {query : Select} {d : Dialect} :
    IsName field → Select.Named query → d.Named → query.text d = .ok text →
    Clause.Named (.inText field text)
  | notInText {field text : String} {query : Select} {d : Dialect} :
    IsName field → Select.Named query → d.Named → query.text d = .ok text →
    Clause.Named (.notInText field text)
  | null {field : String} : IsName field → Clause.Named (.null field)
  | notNull {field : String} : IsName field → Clause.Named (.notNull field)
  | moment {field : String} {op : Operator} {moment : Moment} :
    IsName field → Clause.Named (.moment field op moment)
  | boolean {field : String} {op : Operator} {value : Bool} :
    IsName field → Clause.Named (.boolean field op value)
  | inSelect {field : String} {op : Operator} {query : Select} :
    IsName field → Select.Named query → Clause.Named (.inSelect field op query)
  | group {clauses : List Clause} :
    (∀ c ∈ clauses, Clause.Named c) → Clause.Named (.group clauses)

inductive Selected.Named : Selected → Prop
  | field {name : String} : IsName name → Selected.Named (.field name)
  | select {query : Select} : Select.Named query → Selected.Named (.select query)

/-- Objects, fields and the keys of orders are names throughout. -/
inductive Select.Named : Select → Prop
  | mk {fields : List Selected} {object : String} {clauses : List Clause} {orders : List Order}
    {limit offset : Option Nat} :
    (∀ s ∈ fields, Selected.Named s) → IsName object → (∀ c ∈ clauses, Clause.Named c) →
    (∀ o ∈ orders, IsName o.field) →
    Select.Named ⟨fields, object, clauses, orders, limit, offset⟩

end

theorem Condition.words_join (k : Connective) : ∀ c c' : Condition,
    (c.join k c').words = c.words ++ k.word :: c'.words
  | .one _, _ => rfl
  | .more _ _ c, c' => by
    simp only [Condition.join, Condition.words, words_join k c c', List.append_assoc,
      List.cons_append]

theorem Condition.Sound.join {k : Connective} : ∀ {c c' : Condition}, c.Sound → c'.Sound →
    (c.join k c').Sound
  | .one _, _, h, h' => ⟨h, h'⟩
  | .more _ _ _, _, ⟨ht, hc⟩, h' => ⟨ht, Condition.Sound.join hc h'⟩

/-- A text writes a condition that can be read back. -/
structure Condition.Writes (c : Condition) (text : String) : Prop where
  sound : c.Sound
  words : text.toList = spaced c.words

namespace Condition.Writes

theorem atom {field : String} {op : Operator} {x : Operand} {text : String} (hfield : IsName field)
    (hx : x.Sound)
    (htext : text.toList = field.toList ++ ' ' :: (op.text.toList ++ ' ' :: x.word)) :
    (Condition.atom field op x).Writes text where
  sound := ⟨hfield, hx⟩
  words := by
    have hwords : (Condition.atom field op x).words = field.toList :: (op.words ++ [x.word]) := rfl
    rw [hwords, spaced_cons _ (by simp), spaced_append op.words_ne_nil (by simp), op.spaced_words,
      spaced_singleton, htext]

theorem literal {field : String} {op : Operator} {text : String} (hfield : IsName field)
    (h : IsLiteral text.toList) :
    (Condition.atom field op (.literal text)).Writes (field ++ " " ++ op.text ++ " " ++ text) :=
  atom hfield h (by simp [Operand.word])

theorem join {c c' : Condition} {left right text : String} (h : c.Writes left)
    (h' : c'.Writes right) {k : Connective}
    (htext : text.toList = left.toList ++ ' ' :: (k.word ++ ' ' :: right.toList)) :
    (c.join k c').Writes text where
  sound := h.sound.join h'.sound
  words := by
    rw [words_join, spaced_append c.words_ne_nil (by simp), spaced_cons _ c'.words_ne_nil, htext,
      h.words, h'.words]

theorem group {c : Condition} {text : String} (h : c.Writes text) :
    (Condition.one (.group c)).Writes ("(" ++ text ++ ")") where
  sound := h.sound
  words := by simp [Condition.words, Term.words, h.words]

end Condition.Writes

theorem Condition.Writes.isNull {field : String} (h : IsName field) :
    (Condition.isNull field).Writes (field ++ " = null") :=
  .atom h (.bare (by decide)) (by simp [Operand.word, Operator.text])

theorem Condition.Writes.notNull {field : String} (h : IsName field) :
    (Condition.notNull field).Writes (field ++ " != null") :=
  .atom h (.bare (by decide)) (by simp [Operand.word, Operator.text])

/-- The contradiction for an empty set is two comparisons on the level it stands on. -/
theorem Condition.Writes.isNull_and_notNull {field : String} (h : IsName field) :
    ((Condition.isNull field).join .and (.notNull field)).Writes
      (field ++ " = null AND " ++ field ++ " != null") :=
  (isNull h).join (notNull h) (by simp [Connective.word])

/-- The tautology for its complement is a group of two. -/
theorem Condition.Writes.isNull_or_notNull {field : String} (h : IsName field) :
    (Condition.one (.group ((Condition.isNull field).join .or (.notNull field)))).Writes
      ("(" ++ field ++ " = null OR " ++ field ++ " != null)") := by
  have hboth : ((Condition.isNull field).join .or (.notNull field)).Writes
      (field ++ " = null OR " ++ field ++ " != null") :=
    (isNull h).join (notNull h) (by simp [Connective.word])
  have htext : "(" ++ field ++ " = null OR " ++ field ++ " != null)" =
      "(" ++ (field ++ " = null OR " ++ field ++ " != null") ++ ")" :=
    String.toList_inj.1 (by simp)
  rw [htext]
  exact hboth.group

/-- A text, if there is one, writes the condition, if there is one. -/
inductive Condition.Says : Option Condition → Option String → Prop
  | nothing : Says none none
  | text {c : Condition} {text : String} : c.Writes text → Says (some c) (some text)

/-- The texts of clauses as one text, if there are any. -/
def conjoined (parts : List String) : Option String :=
  if parts.isEmpty then none else some (" AND ".intercalate parts)

theorem Condition.Says.cons {c? d? : Option Condition} {part? : Option String}
    {parts : List String} (h : Says c? part?) (h' : Says d? (conjoined parts)) :
    Says (Option.merge (.join .and) c? d?) (conjoined (part?.toList ++ parts)) := by
  cases h with
  | nothing =>
    rw [Option.merge_none_left]
    exact h'
  | @text c text hc =>
    cases parts with
    | nil =>
      cases h'
      exact .text hc
    | cons p ps =>
      obtain ⟨⟩ | hd := h'
      rw [Option.merge_some_some]
      have hjoin : conjoined ((some text).toList ++ p :: ps) =
          some (text ++ " AND " ++ " AND ".intercalate (p :: ps)) := by
        simp [conjoined, String.intercalate_cons_cons]
      rw [hjoin]
      exact .text (hc.join hd (by simp [Connective.word]))

theorem Condition.Says.segment {c? : Option Condition} {parts : List String}
    (h : Says c? (conjoined parts)) :
    (segment " WHERE " " AND " parts).toList = trail (Form.whereWords c?) ∧
      ∀ c ∈ c?, c.Sound := by
  unfold RecordQuery.segment
  unfold conjoined at h
  split at h
  · rename_i hempty
    cases h
    rw [if_pos hempty]
    exact ⟨rfl, fun c hc => nomatch hc⟩
  · rename_i hsome
    rw [if_neg hsome]
    cases h with
    | @text c _ hc =>
      refine ⟨?_, fun c' hc' => Option.some.inj hc' ▸ hc.sound⟩
      rw [Form.whereWords, trail_eq (List.cons_ne_nil _ _), spaced_cons _ c.words_ne_nil,
        ← hc.words]
      simp

theorem Condition.Says.group {c? : Option Condition} {parts : List String}
    (h : Says c? (conjoined parts)) :
    Says (c?.map fun c => .one (.group c))
      (if parts.isEmpty then none else some (RecordQuery.segment "(" " AND " parts ++ ")")) := by
  unfold RecordQuery.segment
  unfold conjoined at h
  split at h
  · rename_i hempty
    cases h
    rw [if_pos hempty]
    exact .nothing
  · rename_i hsome
    rw [if_neg hsome, if_neg hsome]
    cases h with
    | text hc => exact .text hc.group

/-- A text writes a normal form that can be read back. -/
structure Form.Writes (f : Form) (text : String) : Prop where
  sound : f.Sound
  words : text.toList = spaced f.words

structure Item.Writes (i : Item) (text : String) : Prop where
  sound : i.Sound
  word : text.toList = i.word

theorem Form.Writes.isSubselect {f : Form} {text : String} (h : f.Writes text) :
    IsSubselect text.toList :=
  h.words ▸ h.sound.isSubselect

theorem Clause.says_conjunction {d : Dialect} {cs : List Clause}
    (h : ∀ c ∈ cs, ∀ {part? : Option String}, Clause.text? d c = .ok part? →
      Condition.Says (Clause.condition? d c) part?) {parts : List String}
    (htexts : Clause.texts d cs = .ok parts) :
    Condition.Says (Clause.conjunction? d cs) (conjoined parts) := by
  induction cs generalizing parts with
  | nil =>
    rw [Clause.texts] at htexts
    obtain rfl := Except.ok.inj htexts
    exact .nothing
  | cons c cs ih =>
    rw [Clause.texts] at htexts
    obtain ⟨part?, hpart, htexts⟩ := exists_of_bind_ok htexts
    obtain ⟨rest, hrest, htexts⟩ := exists_of_bind_ok htexts
    obtain rfl := Except.ok.inj htexts
    rw [Clause.conjunction?]
    exact (h c List.mem_cons_self hpart).cons
      (ih (fun c' hc' => h c' (List.mem_cons_of_mem _ hc')) hrest)

theorem Selected.writes_items {d : Dialect} {ss : List Selected}
    (h : ∀ s ∈ ss, ∀ {text : String}, Selected.text d s = .ok text →
      (Selected.item d s).Writes text) {names : List String}
    (htexts : Selected.texts d ss = .ok names) :
    (∀ i ∈ Selected.items d ss, i.Sound) ∧
      names.map String.toList = Item.words (Selected.items d ss) := by
  induction ss generalizing names with
  | nil =>
    rw [Selected.texts] at htexts
    obtain rfl := Except.ok.inj htexts
    exact ⟨(fun _ hi => nomatch hi), rfl⟩
  | cons s ss ih =>
    rw [Selected.texts] at htexts
    obtain ⟨text, htext, htexts⟩ := exists_of_bind_ok htexts
    obtain ⟨rest, hrest, htexts⟩ := exists_of_bind_ok htexts
    obtain rfl := Except.ok.inj htexts
    have hs := h s List.mem_cons_self htext
    obtain ⟨hsound, hwords⟩ := ih (fun s' hs' => h s' (List.mem_cons_of_mem _ hs')) hrest
    rw [Selected.items]
    refine ⟨fun i hi => ?_, ?_⟩
    · obtain rfl | hi := List.mem_cons.1 hi
      · exact hs.sound
      · exact hsound i hi
    · rw [List.map_cons, hs.word, hwords, Item.words]

theorem Selected.writes_selection {d : Dialect} (hd : d.Named) {ss : List Selected}
    {names : List String}
    (h : (∀ i ∈ Selected.items d ss, i.Sound) ∧
      names.map String.toList = Item.words (Selected.items d ss)) :
    (∀ i ∈ if ss.isEmpty then d.defaultFields.map .name else Selected.items d ss, i.Sound) ∧
      (if ss.isEmpty then d.defaultFields else names).map String.toList =
        Item.words (if ss.isEmpty then d.defaultFields.map .name else Selected.items d ss) := by
  split
  · refine ⟨fun i hi => ?_, ?_⟩
    · obtain ⟨n, hn, rfl⟩ := List.mem_map.1 hi
      exact .name (hd n hn)
    · rw [Item.words_eq_map, List.map_map]
      rfl
  · exact h

theorem toList_orderSegment (orders : List Order) :
    (segment " ORDER BY " ", " (orders.map Order.text)).toList =
      trail (Form.orderWords orders) := by
  unfold segment Form.orderWords
  by_cases h : orders = []
  · subst h
    rfl
  · rw [if_neg h, if_neg (by simpa using h), trail_eq (List.cons_ne_nil _ _),
      spaced_cons_cons, spaced_cons _ (Order.listed_ne_nil h), Order.spaced_listed]
    simp

theorem toList_countSegment (lead : String) (n : Option Nat) :
    (segment (" " ++ lead ++ " ") "" (n.map toString).toList).toList =
      trail (Form.countWords lead n) := by
  cases n with
  | none => rfl
  | some n => simp [segment, Form.countWords, trail]

theorem Form.spaced_words (items : List Item) (object : String) (condition : Option Condition)
    (orders : List Order) (limit offset : Option Nat) :
    spaced (Form.words ⟨items, object, condition, orders, limit, offset⟩) =
      "SELECT ".toList ++ (", ".toList).intercalate (Item.words items) ++ " FROM ".toList ++
        object.toList ++ trail (whereWords condition) ++ trail (orderWords orders) ++
        trail (countWords "LIMIT" limit) ++ trail (countWords "OFFSET" offset) := by
  have htail (ws : List (List Char)) :
      spaced (object.toList :: ws) = object.toList ++ trail ws := by
    simpa using spaced_append_trail (List.cons_ne_nil object.toList []) ws
  rw [words, spaced_cons _ (by simp), spaced_append (listed_ne_nil _) (by simp), spaced_listed,
    spaced_cons _ (by simp), htail, tailWords, trail_append, trail_append, trail_append]
  simp

mutual

/-- The text of a query over names writes its normal form. -/
theorem Select.writes_form : ∀ {s : Select}, s.Named → ∀ {d : Dialect}, d.Named →
    ∀ {text : String}, s.text d = .ok text → (s.form d).Writes text
  | ⟨fields, object, clauses, orders, limit, offset⟩, .mk hfields hobject hclauses horders, d, hd,
    text, h => by
    obtain ⟨names, parts, hnames, hparts, rfl⟩ := Select.exists_parts h
    have hitems := Selected.writes_items (fun s hs => Selected.writes_item (hfields s hs) hd) hnames
    have hwhere := (Clause.says_conjunction (fun c hc =>
      Clause.says_condition (hclauses c hc) hd) hparts).segment
    obtain ⟨hsound, hwords⟩ := Selected.writes_selection hd hitems
    rw [Select.form]
    refine ⟨.mk hsound hobject hwhere.2 horders, ?_⟩
    rw [Form.spaced_words, ← hwords, ← hwhere.1, ← toList_orderSegment, ← toList_countSegment,
      ← toList_countSegment, ← String.toList_intercalate, Segments.text]
    simp only [String.toList_append]
    rfl

theorem Selected.writes_item : ∀ {s : Selected}, s.Named → ∀ {d : Dialect}, d.Named →
    ∀ {text : String}, Selected.text d s = .ok text → (Selected.item d s).Writes text
  | .field name, .field hname, d, _, text, h => by
    rw [Selected.text] at h
    obtain rfl := Except.ok.inj h
    exact ⟨.name hname, rfl⟩
  | .select query, .select hquery, d, hd, text, h => by
    rw [Selected.text] at h
    obtain ⟨inner, hinner, h⟩ := exists_of_bind_ok h
    obtain rfl := Except.ok.inj h
    have hwrites := Select.writes_form hquery (d := d.plain) hd hinner
    exact ⟨.select hwrites.sound, by simp [Selected.item, Item.word, hwrites.words]⟩

/-- The text of a clause over names writes its condition. -/
theorem Clause.says_condition : ∀ {c : Clause}, c.Named → ∀ {d : Dialect}, d.Named →
    ∀ {part? : Option String}, Clause.text? d c = .ok part? →
      Condition.Says (Clause.condition? d c) part?
  | .compare field op value, .compare hfield, d, _, part?, h => by
    rw [Clause.text?] at h
    split at h
    · exact nomatch h
    · obtain rfl := Except.ok.inj h
      exact .text (.literal hfield (.dialect d field value))
  | .isIn field values, .isIn hfield, d, _, part?, h => by
    rw [Clause.text?] at h
    rw [Clause.condition?]
    split at h
    · rename_i hempty
      obtain rfl := Except.ok.inj h
      rw [if_pos hempty]
      exact .text (.isNull_and_notNull hfield)
    · rename_i hsome
      obtain rfl := Except.ok.inj h
      rw [if_neg hsome]
      exact .text (.atom hfield (.dialectList d field values)
        (by simp [Operand.word, Operator.text]))
  | .notIn field values, .notIn hfield, d, _, part?, h => by
    rw [Clause.text?] at h
    rw [Clause.condition?]
    split at h
    · rename_i hempty
      obtain rfl := Except.ok.inj h
      rw [if_pos hempty]
      exact .text (.isNull_or_notNull hfield)
    · rename_i hsome
      obtain rfl := Except.ok.inj h
      rw [if_neg hsome]
      exact .text (.atom hfield (.dialectList d field values)
        (by simp [Operand.word, Operator.text]))
  | .inText field text, .inText hfield hquery hd' htext, d, _, part?, h => by
    rw [Clause.text?] at h
    obtain rfl := Except.ok.inj h
    exact .text (.atom hfield (Select.writes_form hquery hd' htext).isSubselect
      (by simp [Operand.word, Operator.text]))
  | .notInText field text, .notInText hfield hquery hd' htext, d, _, part?, h => by
    rw [Clause.text?] at h
    obtain rfl := Except.ok.inj h
    exact .text (.atom hfield (Select.writes_form hquery hd' htext).isSubselect
      (by simp [Operand.word, Operator.text]))
  | .null field, .null hfield, d, _, part?, h => by
    rw [Clause.text?] at h
    obtain rfl := Except.ok.inj h
    exact .text (.isNull hfield)
  | .notNull field, .notNull hfield, d, _, part?, h => by
    rw [Clause.text?] at h
    obtain rfl := Except.ok.inj h
    exact .text (.notNull hfield)
  | .moment field op m, .moment hfield, d, _, part?, h => by
    rw [Clause.text?] at h
    split at h
    · obtain rfl := Except.ok.inj h
      exact .text (.literal hfield (.bare (Stamp.moment m).bare))
    · exact nomatch h
  | .boolean field op value, .boolean hfield, d, _, part?, h => by
    rw [Clause.text?] at h
    split at h
    · obtain rfl := Except.ok.inj h
      exact .text (.literal hfield (.bare (.boolText value)))
    · exact nomatch h
  | .inSelect field op query, .inSelect hfield hquery, d, hd, part?, h => by
    rw [Clause.text?] at h
    split at h
    · obtain ⟨text, htext, h⟩ := exists_of_bind_ok h
      obtain rfl := Except.ok.inj h
      have hwrites := Select.writes_form hquery (d := d.plain) hd htext
      rw [Clause.condition?, htext]
      exact .text (.atom hfield hwrites.isSubselect (by simp [Operand.word]))
    · exact nomatch h
  | .group clauses, .group hclauses, d, hd, part?, h => by
    rw [Clause.text?] at h
    obtain ⟨parts, hparts, h⟩ := exists_of_bind_ok h
    obtain rfl := Except.ok.inj h
    have hsays := Clause.says_conjunction (fun c hc =>
      Clause.says_condition (hclauses c hc) hd) hparts
    rw [Clause.condition?]
    exact hsays.group

end

end RecordQuery
