import RecordQuery.Proofs.Query.Agreement
import RecordQuery.Proofs.Query.Raw

namespace RecordQuery

/-- A step that builds a query by other steps. -/
inductive Frame where
  | group
  | compareQuery (field : String) (op : Operator)
  | inQuery (field : String) (negated : Bool)
  | addSelectQuery
  | when (condition : Bool)

namespace Frame

def step : Frame → List QueryStep → QueryStep
  | .group, steps => .group steps
  | .compareQuery field op, steps => .compareQuery field op steps
  | .inQuery field negated, steps => .inQuery field negated steps
  | .addSelectQuery, steps => .addSelectQuery steps
  | .when condition, steps => .when condition steps

/-- The query that the inner steps begin with. -/
def start (q : Query) : Frame → Query
  | .group => q.subgroup
  | .when _ => q
  | .compareQuery .. | .inQuery .. | .addSelectQuery => q.renewed

/-- What becomes of the query that they build. -/
def join (q inner : Query) : Frame → Query
  | .group => q.group inner
  | .compareQuery field op => q.compareQuery field op inner
  | .inQuery field negated => (q.inSubselect field negated (.built inner)).value
  | .addSelectQuery => q.addSelectQuery inner
  | .when condition => if condition then inner else q

/-- Whether the outer query selects what the inner one says, when the inner one does or does not
select it itself. -/
def selects (inner : Bool) : Frame → Bool
  | .addSelectQuery => true
  | .when _ => inner
  | .group | .compareQuery .. | .inQuery .. => false

variable (f : Frame) (q : Query)

theorem value_step (steps : List QueryStep) :
    (q.step (f.step steps)).value = f.join q ((f.start q).steps steps).value := by
  cases f with
  | group => simp only [step, Query.step, Traced.value_bind, Traced.value_pure, join, start]
  | compareQuery field op =>
    simp only [step, Query.step, Traced.value_bind, Traced.value_pure, join, start]
  | inQuery field negated => simp only [step, Query.step, Traced.value_bind, join, start]
  | addSelectQuery =>
    simp only [step, Query.step, Traced.value_bind, Traced.value_pure, join, start]
  | when condition => cases condition <;> simp [step, Query.step, join, start]

theorem defaultFields_start :
    (f.start q).dialect.defaultFields = q.dialect.defaultFields := by
  cases f <;> rfl

variable {inner inner' : Query}

theorem defaultFields_join (h : inner.dialect.defaultFields = q.dialect.defaultFields) :
    (f.join q inner).dialect.defaultFields = q.dialect.defaultFields := by
  cases f with
  | inQuery field negated =>
    exact congrArg Dialect.defaultFields (q.extends_inSubselect field negated _).dialect
  | when condition =>
    cases condition with
    | true => exact h
    | false => rfl
  | group | compareQuery _ _ | addSelectQuery => rfl

theorem sameText_join (h : inner.SameText inner')
    (hdefaults : inner.dialect.defaultFields = q.dialect.defaultFields) :
    (f.join q inner).SameText (f.join q inner') := by
  cases f with
  | group => exact (Query.SameText.refl q).group h hdefaults
  | compareQuery field op => exact (Query.SameText.refl q).compareQuery field op h hdefaults
  | inQuery field negated => exact (Query.SameText.refl q).inSubselect field negated h.text
  | addSelectQuery => exact (Query.SameText.refl q).addSelectQuery h hdefaults
  | when condition =>
    cases condition with
    | true => exact h
    | false => exact .refl q

/-- An agreement inside is one outside, except that a group drops what its query selects. -/
theorem agree_join {loose : Bool} (h : inner.Agree loose inner')
    (hdefaults : inner.dialect.defaultFields = q.dialect.defaultFields)
    (hgroup : f = .group → loose = false) :
    (f.join q inner).Agree (f.selects loose) (f.join q inner') := by
  rcases h with h | ⟨hdialect, hfault, hbarred⟩
  · exact .inl (f.sameText_join q h hdefaults)
  cases f with
  | group =>
    -- Only the clauses of the inner query are left.
    obtain rfl := hgroup rfl
    exact .inr ⟨rfl, q.isSome_fault_absorb hfault, q.barred_group hbarred⟩
  | compareQuery field op =>
    have houter := q.barred_compareQuery field op hbarred.fault_or_unwritable
    exact .inr ⟨rfl, q.isSome_fault_absorb hfault, houter⟩
  | inQuery field negated =>
    obtain ⟨fault, herror⟩ := (show inner.Barred false from .inl hfault).fails
    obtain ⟨fault', herror'⟩ := hbarred.fails
    simp only [join, Query.value_inSubselect, Query.Subselect.text, herror, herror']
    exact .inr ⟨rfl, q.isSome_fault_fail fault, .inl (q.isSome_fault_fail fault')⟩
  | addSelectQuery =>
    have houter := q.barred_addSelectQuery hbarred.fault_or_unwritable
    exact .inr ⟨rfl, q.isSome_fault_absorb hfault, houter⟩
  | when condition =>
    cases condition with
    | true => exact .inr ⟨hdialect, hfault, hbarred⟩
    | false => exact .inl (.refl q)

end Frame

/-- The place of one step in a chain, at any depth. -/
inductive Place where
  | here (before after : List QueryStep)
  | inside (before : List QueryStep) (frame : Frame) (inner : Place) (after : List QueryStep)

namespace Place

/-- The chain with a step at its place. -/
def fill (s : QueryStep) : Place → List QueryStep
  | .here before after => before ++ s :: after
  | .inside before frame inner after => before ++ frame.step (inner.fill s) :: after

/-- The chain with anything at all done at its place. -/
def run (f : Query → Query) : Place → Query → Query
  | .here before after, q => ((f (q.steps before).value).steps after).value
  | .inside before frame inner after, q =>
    ((frame.join (q.steps before).value (inner.run f (frame.start (q.steps before).value))).steps
      after).value

/-- Whether the outermost query selects a sub-select with the place in it. -/
def selected : Place → Bool
  | .here .. => false
  | .inside _ frame inner _ => frame.selects inner.selected

/-- No query drops a sub-select with the place in it that it selects. -/
def Kept : Place → Prop
  | .here .. => True
  | .inside _ frame inner after =>
    inner.Kept ∧ (frame = .group → inner.selected = false) ∧
      (frame.selects inner.selected = true → QueryStep.AllKeepFields after)

theorem value_fill (s : QueryStep) : ∀ (c : Place) (q : Query),
    (q.steps (c.fill s)).value = c.run (fun p => (p.step s).value) q
  | .here before after, q => by
    simp only [fill, run, Query.value_steps_append, Query.steps, Traced.value_bind]
  | .inside before frame inner after, q => by
    simp only [fill, run, Query.value_steps_append, Query.steps, Traced.value_bind,
      Frame.value_step, value_fill s inner]

section Run

variable {defaults : List String} {f f' : Query → Query}

theorem defaultFields_run
    (hf : ∀ p, p.dialect.defaultFields = defaults → (f p).dialect.defaultFields = defaults) :
    ∀ (c : Place) (q : Query), q.dialect.defaultFields = defaults →
      (c.run f q).dialect.defaultFields = defaults
  | .here before after, q, hq => by
    rw [run, Query.defaultFields_steps]
    exact hf _ ((Query.defaultFields_steps q before).trans hq)
  | .inside before frame inner after, q, hq => by
    have hbefore := (Query.defaultFields_steps q before).trans hq
    have hinner := defaultFields_run hf inner (frame.start (q.steps before).value)
      ((frame.defaultFields_start _).trans hbefore)
    rw [run, Query.defaultFields_steps, frame.defaultFields_join _ (hinner.trans hbefore.symm),
      hbefore]

/-- What is written alike at the place makes queries that are. -/
theorem sameText_run
    (hf : ∀ p, p.dialect.defaultFields = defaults → (f p).dialect.defaultFields = defaults)
    (h : ∀ p, p.dialect.defaultFields = defaults → (f p).SameText (f' p)) :
    ∀ (c : Place) (q : Query), q.dialect.defaultFields = defaults →
      (c.run f q).SameText (c.run f' q)
  | .here before after, q, hq =>
    (h _ ((Query.defaultFields_steps q before).trans hq)).steps after
  | .inside before frame inner after, q, hq => by
    have hbefore := (Query.defaultFields_steps q before).trans hq
    have hstart := (frame.defaultFields_start (q.steps before).value).trans hbefore
    have hinner := sameText_run hf h inner _ hstart
    have hdefaults := defaultFields_run hf inner _ hstart
    exact (frame.sameText_join _ hinner (hdefaults.trans hbefore.symm)).steps after

/-- What agrees at the place makes queries that do, unless it is selected and dropped. -/
theorem agree_run
    (hf : ∀ p, p.dialect.defaultFields = defaults → (f p).dialect.defaultFields = defaults)
    (h : ∀ p, p.dialect.defaultFields = defaults → (f p).Agree false (f' p)) :
    ∀ c : Place, c.Kept → ∀ q : Query, q.dialect.defaultFields = defaults →
      (c.run f q).Agree c.selected (c.run f' q)
  | .here before after, _, q, hq =>
    (h _ ((Query.defaultFields_steps q before).trans hq)).steps after fun hloose => nomatch hloose
  | .inside before frame inner after, ⟨hkept, hgroup, hafter⟩, q, hq => by
    have hbefore := (Query.defaultFields_steps q before).trans hq
    have hstart := (frame.defaultFields_start (q.steps before).value).trans hbefore
    have hinner := agree_run hf h inner hkept _ hstart
    have hdefaults := defaultFields_run hf inner _ hstart
    exact (frame.agree_join _ hinner (hdefaults.trans hbefore.symm) hgroup).steps after hafter

end Run

end Place

def Operator.membership (negated : Bool) : Operator := if negated then .notIn else .isIn

/-- A filter by a text is written like one by the query with that text. -/
theorem Clause.text?_ofText (d : Dialect) (field : String) (negated : Bool) (text : String) :
    Clause.text? d (if negated then .notInText field text else .inText field text) =
      .ok (some (field ++ " " ++ (Operator.membership negated).text ++ " (" ++ text ++ ")")) := by
  have hlead (op : String) : field ++ " " ++ op ++ " (" = field ++ (" " ++ op ++ " (") := by
    rw [String.append_assoc, String.append_assoc, String.append_assoc]
  rw [hlead]
  cases negated with
  | true =>
    rw [if_pos rfl, Clause.text?]
    rfl
  | false =>
    rw [if_neg Bool.false_ne_true, Clause.text?]
    rfl

namespace Query

/-- Sub-selects of one store begin alike. -/
theorem renewed_eq_of_defaultFields {p q : Query}
    (h : p.dialect.defaultFields = q.dialect.defaultFields) : p.renewed = q.renewed := by
  rw [renewed, renewed, Dialect.plain, Dialect.plain, h]

/-- A query without a schema that is written is written the same by an outer query. -/
theorem sameText_compareQuery {p b : Query} {text : String} (field : String) (negated : Bool)
    (htext : b.text.value = .ok text)
    (hdialect : b.dialect = ⟨none, p.dialect.defaultFields⟩) :
    (p.require (if negated then .notInText field text else .inText field text)).SameText
      (p.compareQuery field (.membership negated) b) := by
  obtain ⟨hfault, hstatement⟩ := value_text_eq_ok.1 htext
  rw [hdialect] at hstatement
  have habsorb : p.absorb b = p := by rw [absorb, hfault, Option.or_none]
  have hmembership :
      Operator.membership negated = .isIn ∨ Operator.membership negated = .notIn := by
    cases negated <;> decide
  rw [compareQuery, habsorb]
  refine (SameText.refl p).require fun schema => ?_
  change b.statement.text (Dialect.plain ⟨schema, p.dialect.defaultFields⟩) = .ok text at hstatement
  rw [Clause.text?_ofText, Clause.text?, if_pos hmembership, hstatement]
  rfl

/-- A sub-select that is written at once agrees with one that is written later. -/
theorem agree_compareQuery {p b : Query} (field : String) (negated : Bool)
    (hdialect : b.dialect = ⟨none, p.dialect.defaultFields⟩) :
    (p.inSubselect field negated (.built b)).value.Agree false
      (p.compareQuery field (.membership negated) b) := by
  rw [value_inSubselect, Subselect.text]
  cases htext : b.text.value with
  | ok text => exact .inl (sameText_compareQuery field negated htext hdialect)
  | error fault =>
    have hlater := p.barred_compareQuery field (.membership negated)
      (fault_or_unwritable_of_error htext)
    exact .inr ⟨rfl, p.isSome_fault_fail fault, hlater⟩

end Query

namespace Place

/-- The outer query with a step at the place. -/
def written (c : Place) (q : Query) (s : QueryStep) : Except Fault String :=
  (q.steps (c.fill s)).value.text.value

/-- The outer query with a filter at the place by a query that is built already. -/
def writtenWith (c : Place) (q : Query) (field : String) (negated : Bool) (built : Query) :
    Except Fault String :=
  (c.run (fun p => (p.inSubselect field negated (.built built)).value) q).text.value

/-- The forms of a sub-select make the same outer query. This is so for every sub-select that can
be written, and its text stands in the brackets; and for one that cannot, where no query drops it
again. -/
theorem forms_agree (c : Place) (q : Query) (field : String) (negated : Bool)
    (g : List QueryStep)
    (hschema : (q.renewed.steps g).value.dialect.schema = none)
    (hobject : (q.renewed.steps g).value.object ≠ "")
    (htrimmed : Text.trimmed (q.renewed.steps g).value.object =
      (q.renewed.steps g).value.object) :
    c.written q (.inQuery field negated g) =
        c.writtenWith q field negated (q.renewed.steps g).value ∧
    (∀ text, (q.renewed.steps g).value.text.value = .ok text →
      c.written q (.compareQuery field (.membership negated) g) =
          c.writtenWith q field negated (q.renewed.steps g).value ∧
        c.written q (.inText field negated text) =
          c.writtenWith q field negated (q.renewed.steps g).value ∧
        ∀ p : Query, ∃ clause,
          (p.inSubselect field negated (.built (q.renewed.steps g).value)).value =
              p.require clause ∧
            ∀ d, Clause.text? d clause = .ok (some
              (field ++ " " ++ (Operator.membership negated).text ++ " (" ++ text ++ ")"))) ∧
    (c.Kept → (c.written q (.compareQuery field (.membership negated) g)).toOption =
      (c.writtenWith q field negated (q.renewed.steps g).value).toOption) := by
  -- Wherever the place is, the steps begin with the fields of the store alone and build `b`.
  generalize hb : (q.renewed.steps g).value = b at *
  have hdialect {p : Query} (hp : p.dialect.defaultFields = q.dialect.defaultFields) :
      b.dialect = ⟨none, p.dialect.defaultFields⟩ := by
    have hdefaults := Query.defaultFields_steps q.renewed g
    rw [hb] at hdefaults
    rw [hp, ← hschema]
    exact congrArg (Dialect.mk b.dialect.schema) hdefaults
  have hkeep (p : Query) (hp : p.dialect.defaultFields = q.dialect.defaultFields) :
      (p.inSubselect field negated (.built b)).value.dialect.defaultFields =
        q.dialect.defaultFields :=
    (congrArg Dialect.defaultFields (p.extends_inSubselect field negated _).dialect).trans hp
  have hbuilt {p : Query} (hp : p.dialect.defaultFields = q.dialect.defaultFields) :
      (p.renewed.steps g).value = b := by
    rw [Query.renewed_eq_of_defaultFields hp, hb]
  have htogether {p : Query} (hp : p.dialect.defaultFields = q.dialect.defaultFields) :
      (p.step (.compareQuery field (.membership negated) g)).value =
        p.compareQuery field (.membership negated) b := by
    simp only [Query.step, Traced.value_bind, Traced.value_pure, hbuilt hp]
  simp only [written, writtenWith, value_fill]
  refine ⟨Eq.symm ?_, fun text htext => ⟨Eq.symm ?_, Eq.symm ?_, fun p => ?_⟩,
    fun hkept => Eq.symm ?_⟩
  · refine (sameText_run hkeep (fun p hp => ?_) c q rfl).text
    simp only [Query.step, Traced.value_bind, hbuilt hp]
    exact .refl _
  · refine (sameText_run hkeep (fun p hp => ?_) c q rfl).text
    rw [htogether hp, Query.value_inSubselect, Query.Subselect.text, htext]
    exact Query.sameText_compareQuery field negated htext (hdialect hp)
  · refine (sameText_run hkeep (fun p hp => ?_) c q rfl).text
    obtain ⟨-, hstatement⟩ := Query.value_text_eq_ok.1 htext
    have hraw : Query.rawText text = .ok text :=
      Query.rawText_text hstatement (Text.endsFull_of_trimmed hobject htrimmed)
    have hsame : (Query.Subselect.built b).text.value = (Query.Subselect.raw text).text.value := by
      rw [Query.Subselect.text, Query.Subselect.text, Traced.value_pure, htext, hraw]
    simp only [Query.step]
    exact (Query.SameText.refl p).inSubselect field negated hsame
  · refine ⟨_, ?_, fun d => Clause.text?_ofText d field negated text⟩
    rw [Query.value_inSubselect, Query.Subselect.text, htext]
  · refine (agree_run hkeep (fun p hp => ?_) c hkept q rfl).toOption_text
    rw [htogether hp]
    exact Query.agree_compareQuery field negated (hdialect hp)

/-- The place of a filter on the contacts that are selected with each row. -/
def ofContacts : Place := .inside [] .addSelectQuery (.here [.about "Contacts"] []) [.limit 5]

def accounts : Query :=
  ((Query.new ⟨none, ["Id"]⟩).withSchema ⟨"Account", [("IsActive", .boolean)]⟩).about "Account"

/-- The contacts that opened a case. -/
def openers : List QueryStep := [.about "Case", .select ["ContactId"]]

/-- The cases whose state comes before being closed, which cannot be written. -/
def unclear : List QueryStep := [.about "Case", .compare "IsClosed" .lt (.bool true)]

theorem forms_agree_ofContacts :
    (accounts.renewed.steps openers).value.dialect.schema = none ∧
    (accounts.renewed.steps openers).value.object = "Case" ∧
    (accounts.renewed.steps openers).value.text.value = .ok "SELECT ContactId FROM Case" ∧
    ofContacts.Kept ∧
    ofContacts.writtenWith accounts "Id" true (accounts.renewed.steps openers).value =
      .ok ("SELECT (SELECT Id FROM Contacts WHERE Id NOT IN (SELECT ContactId FROM Case)) " ++
        "FROM Account LIMIT 5") ∧
    ofContacts.written accounts (.inQuery "Id" true openers) =
      ofContacts.writtenWith accounts "Id" true (accounts.renewed.steps openers).value ∧
    ofContacts.written accounts (.compareQuery "Id" .notIn openers) =
      ofContacts.writtenWith accounts "Id" true (accounts.renewed.steps openers).value ∧
    ofContacts.written accounts (.inText "Id" true "SELECT ContactId FROM Case") =
      ofContacts.writtenWith accounts "Id" true (accounts.renewed.steps openers).value ∧
    (ofContacts.written accounts (.compareQuery "Id" .notIn unclear)).toOption =
      (ofContacts.writtenWith accounts "Id" true
        (accounts.renewed.steps unclear).value).toOption := by
  have hschema : (accounts.renewed.steps openers).value.dialect.schema = none := rfl
  have htext : (accounts.renewed.steps openers).value.text.value =
      .ok "SELECT ContactId FROM Case" := rfl
  have hkept : ofContacts.Kept :=
    ⟨trivial, ⟨fun hgroup => Frame.noConfusion hgroup, fun _ => ⟨trivial, trivial⟩⟩⟩
  obtain ⟨hquery, hforms, -⟩ :=
    forms_agree ofContacts accounts "Id" true openers hschema (by decide) (by decide)
  obtain ⟨htogether, hraw, -⟩ := hforms _ htext
  obtain ⟨-, -, hfailed⟩ :=
    forms_agree ofContacts accounts "Id" true unclear rfl (by decide) (by decide)
  exact ⟨hschema, rfl, htext, hkept, rfl, hquery, htogether, hraw, hfailed hkept⟩

/-- A group keeps no selected sub-select: a filter in there that cannot be written is dropped with
it when it is put in as a query, and makes a mistake for good when it is put in as a text. -/
theorem forms_differ :
    ¬∀ (c : Place) (q : Query) (field : String) (negated : Bool) (g : List QueryStep),
      (q.renewed.steps g).value.dialect.schema = none →
      (q.renewed.steps g).value.object ≠ "" →
      Text.trimmed (q.renewed.steps g).value.object = (q.renewed.steps g).value.object →
      (c.written q (.compareQuery field (.membership negated) g)).toOption =
        (c.written q (.inQuery field negated g)).toOption := by
  intro h
  have hsame := h (.inside [] .group (.inside [] .addSelectQuery (.here [.about "Contacts"] []) [])
    []) accounts "Id" false unclear rfl (by decide) (by decide)
  exact nomatch hsame

end Place

end RecordQuery
