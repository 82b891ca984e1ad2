import RecordQuery.Proofs.Query.Scalar
import RecordQuery.Query.Basic

namespace RecordQuery

open Text

mutual

def Term.comparisons : Term → List Comparison
  | .comparison c => [c]
  | .group c => c.comparisons

def Condition.comparisons : Condition → List Comparison
  | .one t => t.comparisons
  | .more t _ c => t.comparisons ++ c.comparisons

end

mutual

/-- On the right of the operator stands what it takes. -/
inductive Comparison.Suitable : Comparison → Prop
  | scalar {field : String} {op : Operator} {text : String} :
    op.takesSet = false → IsScalar text.toList → Comparison.Suitable ⟨field, op, .literal text⟩
  | list {field : String} {op : Operator} {text : String} {items : List (List Char)} :
    op.takesSet = true → listItems? text.toList = some items → items ≠ [] →
    (∀ i ∈ items, IsScalar i) → Comparison.Suitable ⟨field, op, .literal text⟩
  | subselect {field : String} {op : Operator} {text : String} :
    op.takesSet = true → Fitting text.toList → Comparison.Suitable ⟨field, op, .subselect text⟩

/-- The text of a query with suitable comparisons only, in its condition and in every sub-select. -/
inductive Fitting : List Char → Prop
  | mk {cs : List Char} {outline : Outline} :
    Outline.read (outerWords cs) = some outline →
    (∀ w ∈ outline.items, ∀ body, bracketed? w = some body → Fitting body) →
    (∀ condition ∈ outline.condition, ∀ c ∈ condition.comparisons, c.Suitable) → Fitting cs

end

/-- The condition, if there is one, has suitable comparisons only. -/
def Condition.Suits (c? : Option Condition) : Prop :=
  ∀ condition ∈ c?, ∀ c ∈ condition.comparisons, c.Suitable

/-- A word has brackets around a fitting text only. -/
def FitsInside (w : List Char) : Prop := ∀ body, bracketed? w = some body → Fitting body

/-- What the operator of a comparison takes as a value. -/
def Operator.Takes (op : Operator) (v : Value) : Prop :=
  if op.takesSet then ∃ items, v = .list items ∧ items ≠ [] ∧ ∀ i ∈ items, i.isList = false
  else v.isList = false

theorem Operator.takesSet_of_isComparison {op : Operator} (h : op.isComparison = true) :
    op.takesSet = false := by
  cases op with
  | eq | ne | lt | le | gt | ge => rfl
  | like | isIn | notIn | includes | excludes => exact nomatch h

/-- A value that is no list is what an operator takes if the operator takes no set. -/
theorem Operator.takes_iff {v : Value} (h : v.isList = false) (op : Operator) :
    op.Takes v ↔ op.takesSet = false := by
  have hnot : ¬∃ items, v = .list items ∧ items ≠ [] ∧ ∀ i ∈ items, i.isList = false := by
    rintro ⟨items, rfl, -⟩
    exact nomatch h
  unfold Takes
  cases op.takesSet with
  | true => exact iff_of_false hnot (fun hset => nomatch hset)
  | false => exact iff_of_true h rfl

theorem Operator.takes_list_iff (op : Operator) (items : List Value) :
    op.Takes (.list items) ↔
      op.takesSet = true ∧ items ≠ [] ∧ ∀ i ∈ items, i.isList = false := by
  unfold Takes
  cases op.takesSet with
  | true => simp
  | false => simp [Value.isList]

mutual

/-- The operators of a clause have on their right what they take. -/
def Clause.Fits : Clause → Prop
  | .compare _ op value => op.Takes value
  | .isIn _ values | .notIn _ values => ∀ v ∈ values, v.isList = false
  | .inText _ text | .notInText _ text => Fitting text.toList
  | .null _ | .notNull _ | .moment .. | .boolean .. => True
  | .inSelect _ _ query => Select.Fits query
  | .group clauses => Clause.AllFit clauses

def Clause.AllFit : List Clause → Prop
  | [] => True
  | c :: cs => Clause.Fits c ∧ Clause.AllFit cs

def Selected.Fits : Selected → Prop
  | .field _ => True
  | .select query => Select.Fits query

def Selected.AllFit : List Selected → Prop
  | [] => True
  | s :: rest => Selected.Fits s ∧ Selected.AllFit rest

/-- The operators of a query have on their right what they take, at every level. -/
def Select.Fits : Select → Prop
  | ⟨fields, _, clauses, _, _, _⟩ => Selected.AllFit fields ∧ Clause.AllFit clauses

end

theorem Comparison.suitable_scalar_iff {field : String} {op : Operator} {text : String}
    (h : IsScalar text.toList) :
    Suitable ⟨field, op, .literal text⟩ ↔ op.takesSet = false := by
  constructor
  · intro hsuits
    cases hsuits with
    | scalar hop _ => exact hop
    | list _ hitems => exact nomatch h.listItems?_eq_none.symm.trans hitems
  · exact fun hop => .scalar hop h

/-- After a set operator the list of some values suits if there is one and none is a list. -/
theorem Comparison.suitable_list_iff (d : Dialect) (field : String) {op : Operator}
    (hop : op.takesSet = true) (values : List Value) :
    Suitable ⟨field, op, .literal (d.literalList field values)⟩ ↔
      values ≠ [] ∧ ∀ v ∈ values, v.isList = false := by
  obtain ⟨items, hitems, hempty, hscalar⟩ := d.listItems?_literalList field values
  rw [← hscalar, ne_eq, ← hempty]
  constructor
  · intro hsuits
    cases hsuits with
    | scalar hother _ => exact nomatch hop.symm.trans hother
    | list _ hread hne hall =>
      obtain rfl := Option.some.inj (hitems.symm.trans hread)
      exact ⟨hne, hall⟩
  · exact fun ⟨hne, hall⟩ => .list hop hitems hne hall

theorem Comparison.suitable_literal_iff (d : Dialect) (field : String) (op : Operator)
    (v : Value) : Suitable ⟨field, op, .literal (d.literal field v)⟩ ↔ op.Takes v := by
  cases hlist : v.isList with
  | false => rw [suitable_scalar_iff (d.isScalar_literal field hlist), op.takes_iff hlist]
  | true =>
    cases v with
    | list items =>
      rw [op.takes_list_iff, Dialect.literal_list]
      cases hop : op.takesSet with
      | true =>
        rw [suitable_list_iff _ _ hop]
        exact (and_iff_right rfl).symm
      | false =>
        refine iff_of_false (fun hsuits => ?_) (fun htakes => nomatch htakes.1)
        cases hsuits with
        | scalar _ hscalar =>
          rw [← Dialect.literal_list, Dialect.isScalar_literal_iff] at hscalar
          exact nomatch hscalar
        | list hset => exact nomatch hop.symm.trans hset
    | _ => exact nomatch hlist

theorem Comparison.suitable_subselect_iff {field : String} {op : Operator} {text : String}
    (hop : op.takesSet = true) :
    Suitable ⟨field, op, .subselect text⟩ ↔ Fitting text.toList := by
  constructor
  · intro hsuits
    cases hsuits with
    | subselect _ htext => exact htext
  · exact .subselect hop

theorem Condition.comparisons_join (k : Connective) : ∀ c c' : Condition,
    (c.join k c').comparisons = c.comparisons ++ c'.comparisons
  | .one _, _ => rfl
  | .more _ _ c, c' => by
    simp only [Condition.join, Condition.comparisons, comparisons_join k c c', List.append_assoc]

namespace Condition

theorem suits_none : Suits none := fun c h => absurd h (Option.not_mem_none c)

theorem suits_some {c : Condition} : Suits (some c) ↔ ∀ x ∈ c.comparisons, x.Suitable := by
  simp [Suits]

theorem suits_atom {field : String} {op : Operator} {x : Operand} :
    Suits (some (.atom field op x)) ↔ Comparison.Suitable ⟨field, op, x⟩ := by
  rw [suits_some, atom, comparisons, Term.comparisons, List.forall_mem_singleton]

theorem suits_join {k : Connective} {c c' : Condition} :
    Suits (some (c.join k c')) ↔ Suits (some c) ∧ Suits (some c') := by
  rw [suits_some, suits_some, suits_some, comparisons_join, List.forall_mem_append]

theorem suits_merge {k : Connective} {c? d? : Option Condition} :
    Suits (Option.merge (.join k) c? d?) ↔ Suits c? ∧ Suits d? := by
  cases c? with
  | none => simp [suits_none]
  | some c =>
    cases d? with
    | none => simp [suits_none]
    | some c' => exact suits_join

theorem suits_group {c? : Option Condition} :
    Suits (c?.map fun c => .one (.group c)) ↔ Suits c? := by
  cases c? with
  | none => exact Iff.rfl
  | some c => rw [Option.map_some, suits_some, suits_some, comparisons, Term.comparisons]

/-- Whatever the field, it can be compared with null. -/
theorem suits_null (field : String) {op : Operator} (hop : op.takesSet = false) :
    Suits (some (.atom field op (.literal "null"))) :=
  suits_atom.2 (.scalar hop (.bare (by decide) (by decide)))

end Condition

/-- A text that can be read is judged by its parts. -/
theorem fitting_iff_of_read {cs : List Char} {outline : Outline}
    (h : Outline.read (outerWords cs) = some outline) :
    Fitting cs ↔ (∀ w ∈ outline.items, FitsInside w) ∧ Condition.Suits outline.condition := by
  constructor
  · rintro ⟨hread, hitems, hcondition⟩
    obtain rfl := Option.some.inj (h.symm.trans hread)
    exact ⟨hitems, hcondition⟩
  · exact fun ⟨hitems, hcondition⟩ => .mk h hitems hcondition

theorem IsName.fitsInside {n : String} (h : IsName n) : FitsInside n.toList := by
  intro body hbody
  rw [h.bracketed?_eq_none] at hbody
  exact nomatch hbody

theorem fitsInside_inBrackets {body : List Char} :
    FitsInside ('(' :: body ++ [')']) ↔ Fitting body := by
  rw [FitsInside, bracketed?_inBrackets]
  simp only [Option.some.injEq, forall_eq']

theorem Form.Writes.fitting_iff {f : Form} {text : String} (h : f.Writes text) :
    Fitting text.toList ↔
      (∀ w ∈ Item.words f.items, FitsInside w) ∧ Condition.Suits f.condition := by
  have hread : Outline.read (outerWords text.toList) = some f.outline := by
    rw [h.words, outerWords_spaced f.words_ne_nil h.sound.whole, Outline.read_words h.sound]
  exact fitting_iff_of_read hread

theorem Clause.suits_conjunction_iff {d : Dialect} {cs : List Clause}
    (h : ∀ c ∈ cs, ∀ {part? : Option String}, Clause.text? d c = .ok part? →
      (Condition.Suits (Clause.condition? d c) ↔ c.Fits)) {parts : List String}
    (htexts : Clause.texts d cs = .ok parts) :
    Condition.Suits (Clause.conjunction? d cs) ↔ Clause.AllFit cs := by
  induction cs generalizing parts with
  | nil =>
    rw [Clause.conjunction?, Clause.AllFit]
    exact iff_true_intro Condition.suits_none
  | cons c cs ih =>
    rw [Clause.texts] at htexts
    obtain ⟨part?, hpart, htexts⟩ := exists_of_bind_ok htexts
    obtain ⟨rest, hrest, -⟩ := exists_of_bind_ok htexts
    rw [Clause.conjunction?, Clause.AllFit, Condition.suits_merge, h c List.mem_cons_self hpart,
      ih (fun c' hc' => h c' (List.mem_cons_of_mem _ hc')) hrest]

theorem Selected.fitsInside_items_iff {d : Dialect} {ss : List Selected}
    (h : ∀ s ∈ ss, ∀ {text : String}, Selected.text d s = .ok text →
      (FitsInside (Selected.item d s).word ↔ s.Fits)) {names : List String}
    (htexts : Selected.texts d ss = .ok names) :
    (∀ w ∈ Item.words (Selected.items d ss), FitsInside w) ↔ Selected.AllFit ss := by
  induction ss generalizing names with
  | nil => simp [Selected.items, Item.words, Selected.AllFit]
  | cons s ss ih =>
    rw [Selected.texts] at htexts
    obtain ⟨text, htext, htexts⟩ := exists_of_bind_ok htexts
    obtain ⟨rest, hrest, -⟩ := exists_of_bind_ok htexts
    rw [Selected.items, Item.words, Selected.AllFit, List.forall_mem_cons,
      h s List.mem_cons_self htext, ih (fun s' hs' => h s' (List.mem_cons_of_mem _ hs')) hrest]

mutual

/-- The text of a query over names fits exactly if the query does. -/
theorem Select.fitting_text_iff : ∀ {s : Select}, s.Named → ∀ {d : Dialect}, d.Named →
    ∀ {text : String}, s.text d = .ok text → (Fitting text.toList ↔ s.Fits)
  | ⟨fields, object, clauses, orders, limit, offset⟩, .mk hfields hobject hclauses horders, d, hd,
    text, h => by
    have hwrites := Select.writes_form (.mk hfields hobject hclauses horders) hd h
    rw [hwrites.fitting_iff, Select.Fits, Select.form]
    obtain ⟨names, parts, hnames, hparts, -⟩ := Select.exists_parts h
    refine and_congr ?_ (Clause.suits_conjunction_iff (fun c hc =>
      Clause.suits_condition_iff (hclauses c hc) hd) hparts)
    split
    · rename_i hempty
      obtain rfl := List.isEmpty_iff.1 hempty
      refine iff_of_true (fun w hw => ?_) trivial
      rw [Item.words_eq_map, List.map_map] at hw
      obtain ⟨n, hn, rfl⟩ := List.mem_map.1 hw
      exact (hd n hn).fitsInside
    · exact Selected.fitsInside_items_iff (fun s hs =>
        Selected.fitsInside_item_iff (hfields s hs) hd) hnames

theorem Selected.fitsInside_item_iff : ∀ {s : Selected}, s.Named → ∀ {d : Dialect}, d.Named →
    ∀ {text : String}, Selected.text d s = .ok text →
      (FitsInside (Selected.item d s).word ↔ s.Fits)
  | .field name, .field hname, d, _, text, _ => iff_of_true hname.fitsInside trivial
  | .select query, .select hquery, d, hd, text, h => by
    rw [Selected.text] at h
    obtain ⟨inner, hinner, -⟩ := exists_of_bind_ok h
    have hwrites := Select.writes_form hquery (d := d.plain) hd hinner
    rw [Selected.item, Item.word, fitsInside_inBrackets, ← hwrites.words, Selected.Fits]
    exact Select.fitting_text_iff hquery (d := d.plain) hd hinner

/-- The condition of a clause over names suits exactly if the clause fits. -/
theorem Clause.suits_condition_iff : ∀ {c : Clause}, c.Named → ∀ {d : Dialect}, d.Named →
    ∀ {part? : Option String}, Clause.text? d c = .ok part? →
      (Condition.Suits (Clause.condition? d c) ↔ c.Fits)
  | .compare field op value, .compare _, d, _, part?, _ => by
    rw [Clause.condition?, Clause.Fits, Condition.suits_atom, Comparison.suitable_literal_iff]
  | .isIn field values, .isIn _, d, _, part?, _ => by
    rw [Clause.condition?, Clause.Fits]
    by_cases hempty : values = []
    · subst hempty
      refine iff_of_true ?_ (fun _ hv => nomatch hv)
      exact Condition.suits_join.2 ⟨Condition.suits_null field rfl, Condition.suits_null field rfl⟩
    · rw [if_neg (by simpa using hempty), Condition.suits_atom,
        Comparison.suitable_list_iff d field rfl]
      exact and_iff_right hempty
  | .notIn field values, .notIn _, d, _, part?, _ => by
    rw [Clause.condition?, Clause.Fits]
    by_cases hempty : values = []
    · subst hempty
      refine iff_of_true ?_ (fun _ hv => nomatch hv)
      exact Condition.suits_group.2 (Condition.suits_join.2
        ⟨Condition.suits_null field rfl, Condition.suits_null field rfl⟩)
    · rw [if_neg (by simpa using hempty), Condition.suits_atom,
        Comparison.suitable_list_iff d field rfl]
      exact and_iff_right hempty
  | .inText field text, .inText .., d, _, part?, _ => by
    rw [Clause.condition?, Clause.Fits, Condition.suits_atom,
      Comparison.suitable_subselect_iff rfl]
  | .notInText field text, .notInText .., d, _, part?, _ => by
    rw [Clause.condition?, Clause.Fits, Condition.suits_atom,
      Comparison.suitable_subselect_iff rfl]
  | .null field, .null _, d, _, part?, _ => iff_of_true (Condition.suits_null field rfl) trivial
  | .notNull field, .notNull _, d, _, part?, _ =>
    iff_of_true (Condition.suits_null field rfl) trivial
  | .moment field op m, .moment _, d, _, part?, h => by
    rw [Clause.condition?, Clause.Fits, Condition.suits_atom]
    rw [Clause.text?] at h
    split at h
    · rename_i hop
      refine iff_of_true (.scalar (Operator.takesSet_of_isComparison hop) ?_) trivial
      exact .bare (Moment.text_ne_empty m) (Stamp.moment m).bare
    · exact nomatch h
  | .boolean field op value, .boolean _, d, _, part?, h => by
    rw [Clause.condition?, Clause.Fits, Condition.suits_atom]
    rw [Clause.text?] at h
    split at h
    · rename_i hop
      have hset : op.takesSet = false := by
        rcases hop with rfl | rfl <;> rfl
      refine iff_of_true (.scalar hset ?_) trivial
      exact .bare (by cases value <;> decide) (.boolText value)
    · exact nomatch h
  | .inSelect field op query, .inSelect _ hquery, d, hd, part?, h => by
    rw [Clause.text?] at h
    split at h
    · rename_i hop
      have hset : op.takesSet = true := by
        rcases hop with rfl | rfl <;> rfl
      obtain ⟨text, htext, -⟩ := exists_of_bind_ok h
      rw [Clause.condition?, htext, Clause.Fits, Condition.suits_atom,
        Comparison.suitable_subselect_iff hset]
      exact Select.fitting_text_iff hquery (d := d.plain) hd htext
    · exact nomatch h
  | .group clauses, .group hclauses, d, hd, part?, h => by
    rw [Clause.text?] at h
    obtain ⟨parts, hparts, -⟩ := exists_of_bind_ok h
    rw [Clause.condition?, Clause.Fits, Condition.suits_group]
    exact Clause.suits_conjunction_iff (fun c hc =>
      Clause.suits_condition_iff (hclauses c hc) hd) hparts

end

/-- What a field can be compared with by an operator so that the clause fits, if it can be written
at all. Null is compared by its own operators, and an empty list is written only after these two. -/
def Operator.Accepts (op : Operator) : Value → Prop
  | .null => True
  | .list items =>
    op.takesSet = true ∧ (∀ i ∈ items, i.isList = false) ∧ (items = [] → op = .isIn ∨ op = .notIn)
  | _ => op.takesSet = false

theorem Clause.text?_compare_eq_error (d : Dialect) (field : String) (op : Operator)
    (value : Value) :
    (∃ fault, Clause.text? d (.compare field op value) = .error fault) ↔
      op = .isIn ∨ op = .notIn := by
  rw [Clause.text?]
  split
  · rename_i hop
    exact iff_of_true ⟨_, rfl⟩ hop
  · rename_i hop
    exact iff_of_false (fun ⟨_, h⟩ => nomatch h) hop

theorem Clause.eq_unsupported {d : Dialect} {field : String} {op : Operator} {value : Value}
    {fault : Fault} (h : Clause.text? d (.compare field op value) = .error fault) :
    fault = .unsupportedClause ("Basic clause with operator " ++ op.text) := by
  rw [Clause.text?] at h
  split at h
  · exact (Except.error.inj h).symm
  · exact nomatch h

/-- A clause for a comparison that is written fits exactly if the operator accepts the value. -/
theorem Query.fits_comparison_iff {d : Dialect} {field : String} {op : Operator} {v : Value}
    {part? : Option String} (h : Clause.text? d (comparison field op v) = .ok part?) :
    (comparison field op v).Fits ↔ op.Accepts v := by
  have hmoment {m : Moment} (h : Clause.text? d (.moment field op m) = .ok part?) :
      op.takesSet = false := by
    rw [Clause.text?] at h
    split at h
    · rename_i hop
      exact Operator.takesSet_of_isComparison hop
    · exact nomatch h
  cases v with
  | null =>
    rw [comparison]
    split
    · exact Iff.rfl
    · exact Iff.rfl
  | bool b =>
    rw [comparison, Clause.text?] at h
    split at h
    · rename_i hop
      refine iff_of_true trivial ?_
      rcases hop with rfl | rfl <;> rfl
    · exact nomatch h
  | list items =>
    rw [comparison] at h ⊢
    by_cases hin : op = .isIn
    · subst hin
      simp [Clause.Fits, Operator.Accepts, Operator.takesSet]
    · by_cases hnot : op = .notIn
      · subst hnot
        simp [Clause.Fits, Operator.Accepts, Operator.takesSet]
      · rw [if_neg hin, if_neg hnot, Clause.Fits, op.takes_list_iff, Operator.Accepts]
        simp only [hin, hnot, or_self]
        exact and_congr_right fun _ => and_comm
  | date day => exact iff_of_true trivial (hmoment h)
  | dateTime t => exact iff_of_true trivial (hmoment h)
  | instant t => exact iff_of_true trivial (hmoment h)
  | int i => exact op.takes_iff rfl
  | float f => exact op.takes_iff rfl
  | text s => exact op.takes_iff rfl
  | time t => exact op.takes_iff rfl
  | json j => exact op.takes_iff rfl

/-- The text of a query over names has on the right of every operator what the operator takes,
through all groups and sub-selects, exactly if the values in its clauses are such. A basic clause is
refused with `IN` and `NOT IN`, and with no other operator. The clause that is made for a comparison
fits, if it can be written at all, exactly if the operator accepts the value. -/
theorem Select.fitting_iff_fits {s : Select} (hs : s.Named) {d : Dialect} (hd : d.Named)
    {text : String} (htext : s.text d = .ok text) :
    (Fitting text.toList ↔ s.Fits) ∧
    (∀ (d' : Dialect) field op value,
      ((∃ fault, Clause.text? d' (.compare field op value) = .error fault) ↔
        op = .isIn ∨ op = .notIn) ∧
      ∀ fault, Clause.text? d' (.compare field op value) = .error fault →
        fault = .unsupportedClause ("Basic clause with operator " ++ op.text)) ∧
    ∀ (d' : Dialect) field op v part?,
      Clause.text? d' (Query.comparison field op v) = .ok part? →
        ((Query.comparison field op v).Fits ↔ op.Accepts v) := by
  refine ⟨Select.fitting_text_iff hs hd htext, fun d' field op value => ⟨?_, ?_⟩, ?_⟩
  · exact Clause.text?_compare_eq_error d' field op value
  · exact fun _ => Clause.eq_unsupported
  · exact fun _ _ _ _ _ => Query.fits_comparison_iff

/-- The accounts with some tags. -/
def Select.tagged (tags : List String) : Select :=
  ⟨[], "Account", [Query.comparison "Tags" .includes (.list (tags.map .text))], [], none, none⟩

theorem Select.named_tagged (tags : List String) : (tagged tags).Named := by
  refine .mk (fun _ hs => nomatch hs) (by decide) (fun c hc => ?_) (fun _ ho => nomatch ho)
  obtain rfl := List.mem_singleton.1 hc
  exact .compare (by decide)

theorem Dialect.named_key : Dialect.Named ⟨none, ["Id"]⟩ := by
  intro n hn
  obtain rfl := List.mem_singleton.1 hn
  decide

/-- Two tags make a list that suits. -/
theorem Select.fitting_two_tags :
    Dialect.Named ⟨none, ["Id"]⟩ ∧ (tagged ["a", "b"]).Named ∧
    (tagged ["a", "b"]).text ⟨none, ["Id"]⟩ =
      .ok "SELECT Id FROM Account WHERE Tags INCLUDES ('a', 'b')" ∧
    Fitting "SELECT Id FROM Account WHERE Tags INCLUDES ('a', 'b')".toList := by
  have hnamed := named_tagged ["a", "b"]
  have htext : (tagged ["a", "b"]).text ⟨none, ["Id"]⟩ =
      .ok "SELECT Id FROM Account WHERE Tags INCLUDES ('a', 'b')" := rfl
  obtain ⟨hfitting, -, hcomparison⟩ := fitting_iff_fits hnamed Dialect.named_key htext
  have hfits := (hcomparison ⟨none, ["Id"]⟩ "Tags" .includes (.list [.text "a", .text "b"]) _ rfl).2
    ⟨rfl, by decide, fun hnil => nomatch hnil⟩
  exact ⟨Dialect.named_key, hnamed, htext, hfitting.2 ⟨trivial, hfits, trivial⟩⟩

/-- No tag at all makes an empty list. -/
theorem Select.not_always_fitting :
    ¬∀ (s : Select) (d : Dialect) (text : String), d.Named → s.Named → s.text d = .ok text →
      Fitting text.toList := by
  intro h
  have hnamed := named_tagged []
  have htext : (tagged []).text ⟨none, ["Id"]⟩ =
      .ok "SELECT Id FROM Account WHERE Tags INCLUDES ()" := rfl
  have hfitting := h _ _ _ Dialect.named_key hnamed htext
  obtain ⟨-, hfits, -⟩ := (fitting_text_iff hnamed Dialect.named_key htext).1 hfitting
  exact ((Operator.takes_list_iff .includes []).1 hfits).2.1 rfl

end RecordQuery
