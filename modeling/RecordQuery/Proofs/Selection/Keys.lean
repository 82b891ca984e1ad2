import RecordQuery.Proofs.Selection.Columns

namespace RecordQuery

/-- Whether a name is among those that are selected. Selecting nothing selects everything. -/
def coversName (selected : List (Option String)) (name : String) : Bool :=
  selected.isEmpty || selected.any fun
    | some other => Text.sameLetters other name
    | none => false

namespace QueryStep

mutual

/-- The names that are selected after a step, none for a sub-select, from those before it. -/
def selection (selected : List (Option String)) : QueryStep → List (Option String)
  | .select names => names.map some
  | .addSelect name => selected ++ [some name]
  | .ensureSelected name => if coversName selected name then selected else selected ++ [some name]
  | .addSelectQuery _ => selected ++ [none]
  | .renew => []
  | .when condition steps => if condition then allSelection selected steps else selected
  | _ => selected

def allSelection (selected : List (Option String)) : List QueryStep → List (Option String)
  | [] => selected
  | s :: rest => allSelection (s.selection selected) rest

end

end QueryStep

namespace FinderStep

mutual

def selection (selected : List (Option String)) : FinderStep → List (Option String)
  | .query s => s.selection selected
  | .when condition steps => if condition then allSelection selected steps else selected
  | _ => selected

def allSelection (selected : List (Option String)) : List FinderStep → List (Option String)
  | [] => selected
  | s :: rest => allSelection (s.selection selected) rest

end

end FinderStep

namespace Query

/-- The names of what a query selects, none for a sub-select. -/
def selected (q : Query) : List (Option String) := q.statement.fields.map Selected.name?

theorem covers_eq (q : Query) (name : String) : q.covers name = coversName q.selected name := by
  unfold covers coversName selected
  rw [List.isEmpty_map, List.any_map]
  congr 2
  funext s
  cases s <;> rfl

theorem selected_ensureSelected (q : Query) (name : String) :
    (q.ensureSelected name).selected =
      if coversName q.selected name then q.selected else q.selected ++ [some name] := by
  rw [ensureSelected, covers_eq]
  split
  · rfl
  · exact List.map_append

theorem selected_inSubselect (q : Query) (field : String) (negated : Bool) (sub : Subselect) :
    (q.inSubselect field negated sub).value.selected = q.selected := by
  unfold inSubselect
  rw [Traced.value_bind]
  cases sub.text.value with
  | ok text => rfl
  | error fault => rfl

theorem selected_compareBy (q : Query) (field op : String) (v : Value) :
    (q.compareBy field op v).selected = q.selected := by
  unfold compareBy
  cases Operator.ofText op with
  | ok op => rfl
  | error fault => rfl

theorem selected_compareAll (pairs : List (String × Value)) (q : Query) :
    (pairs.foldl (fun q e => q.compare e.1 .eq e.2) q).selected = q.selected := by
  induction pairs generalizing q with
  | nil => rfl
  | cons e pairs ih => exact ih (q.compare e.1 .eq e.2)

mutual

theorem selected_step (q : Query) : ∀ s : QueryStep,
    (q.step s).value.selected = s.selection q.selected
  | .select names => by
    simp only [step, Traced.value_pure, QueryStep.selection, selected, select, List.map_map]
    rfl
  | .addSelect _ | .addSelectQuery _ => by
    simp only [step, Traced.value_pure, Traced.value_bind, QueryStep.selection]
    exact List.map_append
  | .ensureSelected name => by
    simp only [step, Traced.value_pure, QueryStep.selection]
    exact selected_ensureSelected q name
  | .when condition steps => by
    cases condition with
    | true =>
      simp only [step, QueryStep.selection, if_true]
      exact selected_steps q steps
    | false => simp [step, QueryStep.selection]
  | .compareBy field op v => by
    simp only [step, Traced.value_pure, QueryStep.selection]
    exact selected_compareBy q field op v
  | .compareAll pairs => by
    simp only [step, Traced.value_pure, QueryStep.selection]
    exact selected_compareAll pairs q
  | .inText field negated _ | .inQuery field negated _ => by
    simp only [step, Traced.value_bind, QueryStep.selection]
    exact selected_inSubselect q field negated _
  | .renew | .about _ | .withSchema _ | .fail _ | .compare .. | .compareQuery .. | .require _
  | .group _ | .orderBy _ | .unordered | .limit _ | .offset _ | .forPage .. => by
    simp only [step, Traced.value_pure, Traced.value_bind, QueryStep.selection]
    rfl

theorem selected_steps (q : Query) : ∀ ss : List QueryStep,
    (q.steps ss).value.selected = QueryStep.allSelection q.selected ss
  | [] => by simp [steps, QueryStep.allSelection]
  | s :: rest => by
    simp only [steps, Traced.value_bind, QueryStep.allSelection]
    rw [selected_steps (q.step s).value rest, selected_step q s]

end

mutual

theorem selected_findStep (c : Catalog) (t : ObjectType) (q : Query) : ∀ s : FinderStep,
    (q.findStep c t s).value.selected = s.selection q.selected
  | .query s => by
    simp only [findStep, FinderStep.selection]
    exact selected_step q s
  | .when condition steps => by
    cases condition with
    | true =>
      simp only [findStep, FinderStep.selection, if_true]
      exact selected_findSteps c t q steps
    | false => simp [findStep, FinderStep.selection]
  | .whereHas relation steps => by
    rw [findStep_whereHas, Traced.value_bind]
    cases (q.existence c t relation steps).value with
    | error fault => rfl
    | ok compared => exact selected_inSubselect q _ false _
  | .load _ | .loadWith .. | .loadPlan _ => by
    simp only [findStep, Traced.value_pure, FinderStep.selection]

theorem selected_findSteps (c : Catalog) (t : ObjectType) (q : Query) : ∀ ss : List FinderStep,
    (q.findSteps c t ss).value.selected = FinderStep.allSelection q.selected ss
  | [] => by simp [findSteps, FinderStep.allSelection]
  | s :: rest => by
    simp only [findSteps, Traced.value_bind, FinderStep.allSelection]
    rw [selected_findSteps c t (q.findStep c t s).value rest, selected_findStep c t q s]

end

theorem fields_of_selected {q : Query} {names : List String} (h : q.selected = names.map some) :
    q.statement.fields = names.map .field := by
  unfold selected at h
  generalize q.statement.fields = fields at h ⊢
  induction fields generalizing names with
  | nil =>
    obtain rfl := List.map_eq_nil_iff.1 h.symm
    rfl
  | cons s fields ih =>
    cases names with
    | nil => exact nomatch h
    | cons name names =>
      obtain ⟨hname, hrest⟩ := List.cons.inj h
      cases s with
      | field found =>
        obtain rfl : found = name := Option.some.inj hname
        rw [ih hrest, List.map_cons]
      | select query => exact nomatch hname

/-- The text of a query for names begins with them. -/
theorem text_of_selected {q : Query} {names : List String} {text : String}
    (h : q.selected = names.map some) (htext : q.text.value = .ok text) :
    ∃ tail, q.statement.tail q.dialect = .ok tail ∧
      text = selectText (if names.isEmpty then q.dialect.defaultFields else names) tail := by
  have hwritten := (value_text_eq_ok.1 htext).2
  have hstatement : q.statement = { q.statement with fields := names.map .field } := by
    have hfields := fields_of_selected h
    revert hfields
    generalize q.statement = statement
    obtain ⟨fields, object, clauses, orders, limit, offset⟩ := statement
    rintro rfl
    rfl
  rw [hstatement, Select.text_fields] at hwritten
  cases htail : q.statement.tail q.dialect with
  | error fault =>
    rw [htail] at hwritten
    exact nomatch hwritten
  | ok tail =>
    rw [htail] at hwritten
    exact ⟨tail, rfl, (Except.ok.inj hwritten).symm⟩

end Query

/-- The text that the key of a parent is looked for in, from the text for related keys. -/
def Linkage.semijoinText (l : Linkage) (keys : String) : String :=
  match l with
  | .manyToMany junction pivotToParent pivotToRelated _ _ =>
    "SELECT " ++ pivotToParent ++ " FROM " ++ junction ++ " WHERE " ++
      (pivotToRelated ++ " IN (" ++ keys ++ ")")
  | _ => keys

/-- The query for the keys of parents is written if the one for related keys is. -/
theorem Linkage.text_parentKeyQuery (l : Linkage) (q inner : Query) :
    (l.parentKeyQuery q inner).value.text.value = inner.text.value.map l.semijoinText := by
  have hsame : inner.text.value = inner.text.value.map fun keys => keys := by
    cases inner.text.value with
    | ok keys => rfl
    | error fault => rfl
  cases l with
  | belongsTo foreignKey ownerKey => exact hsame
  | hasOne foreignKey localKey => exact hsame
  | hasMany foreignKey localKey => exact hsame
  | manyToMany junction pivotToParent pivotToRelated parentKey relatedKey =>
    let base : Query := (q.renewed.about junction).select [pivotToParent]
    change (base.inSubselect pivotToRelated false (.built inner)).value.text.value = _
    rw [Query.value_inSubselect, Query.Subselect.text]
    cases inner.text.value with
    | ok keys =>
      have hclause : Clause.text? base.dialect (.inText pivotToRelated keys) =
          .ok (some (pivotToRelated ++ " IN (" ++ keys ++ ")")) := by
        rw [Clause.text?]
      have hone : (base.require (.inText pivotToRelated keys)).statement.text base.dialect = _ :=
        Select.text_one (List.cons_ne_nil pivotToParent []) junction hclause none
      refine (Query.value_text _).trans (hone.trans ?_)
      simp [Except.map, semijoinText, segment]
    | error fault => exact Query.value_text_of_fault rfl

/-- A filter on related records compares the key of the parent with whatever the steps leave selected
of the related records: with their key, and with nothing else, if the steps leave exactly the key
selected. -/
theorem Query.whereHas_selects {t : ObjectType} {relation : String} {r : Relation}
    (hr : t.relation relation = .ok r) (c : Catalog) (q : Query) (steps : List FinderStep) :
    let inner := ((r.keyQuery (c.describe r.related) q).findSteps c (c.describe r.related) steps).value
    let left := FinderStep.allSelection [some r.linkage.relatedKey] steps
    ((q.findStep c t (.whereHas relation steps)).value =
      match inner.text.value with
      | .ok keys => q.require (.inText r.linkage.parentKey (r.linkage.semijoinText keys))
      | .error fault => q.fail fault) ∧
    inner.selected = left ∧
    (inner.statement.fields = [.field r.linkage.relatedKey] ↔ left = [some r.linkage.relatedKey]) ∧
    ∀ keys names, inner.text.value = .ok keys → left = names.map some →
      ∃ tail, inner.statement.tail inner.dialect = .ok tail ∧
        keys = selectText (if names.isEmpty then inner.dialect.defaultFields else names) tail := by
  intro inner left
  have hleft : inner.selected = left :=
    selected_findSteps c (c.describe r.related) (r.keyQuery (c.describe r.related) q) steps
  have hstep : (q.findStep c t (.whereHas relation steps)).value =
      (q.inSubselect r.linkage.parentKey false
        (.built (r.linkage.parentKeyQuery q inner).value)).value := by
    rw [Query.findStep_whereHas, Traced.value_bind, Query.value_existence c q steps hr]
  refine ⟨?_, hleft, ⟨?_, ?_⟩, ?_⟩
  · rw [hstep, value_inSubselect, Subselect.text, Linkage.text_parentKeyQuery]
    cases inner.text.value with
    | ok keys => rfl
    | error fault => rfl
  · intro hfields
    rw [← hleft, selected, hfields]
    rfl
  · intro hkey
    have hnames : left = [r.linkage.relatedKey].map some := hkey
    exact fields_of_selected (hleft.trans hnames)
  · intro keys names hkeys hnames
    exact text_of_selected (hleft.trans hnames) hkeys

def contactQuery : Query := (Query.new ⟨none, ["Id"]⟩).about "Contact"

/-- The contacts of accounts, with the accounts selected by name. -/
def byAccountName : List FinderStep := [.query (.select ["Name"])]

/-- The names of accounts are compared with the keys that contacts have for them. The keys of
campaigns are compared, because nothing else is selected. -/
theorem whereHas_compared :
    (∃ tail, (contactQuery.findStep Crm.catalog Crm.contact
      (.whereHas "Account" byAccountName)).value =
        contactQuery.require (.inText "AccountId" (selectText ["Name"] tail))) ∧
    ∃ tail, (contactQuery.findStep Crm.catalog Crm.contact (.whereHas "Campaigns" [])).value =
      contactQuery.require (.inText "Id" ("SELECT ContactId FROM CampaignMember WHERE " ++
        ("CampaignId IN (" ++ selectText ["Id"] tail ++ ")"))) := by
  have haccount : Crm.contact.relation "Account" =
      .ok ⟨"Account", "Account", .belongsTo "AccountId" "Id"⟩ := rfl
  have hcampaigns : Crm.contact.relation "Campaigns" =
      .ok ⟨"Campaigns", "Campaign",
        .manyToMany "CampaignMember" "ContactId" "CampaignId" "Id" "Id"⟩ := rfl
  constructor
  · obtain ⟨hvalue, -, -, hkeys⟩ :=
      Query.whereHas_selects haccount Crm.catalog contactQuery byAccountName
    obtain ⟨tail, -, htext⟩ := hkeys _ ["Name"] rfl rfl
    exact ⟨tail, hvalue.trans (congrArg (fun keys => contactQuery.require (.inText "AccountId" keys))
      htext)⟩
  · obtain ⟨hvalue, -, -, hkeys⟩ :=
      Query.whereHas_selects hcampaigns Crm.catalog contactQuery []
    obtain ⟨tail, -, htext⟩ := hkeys _ ["Id"] rfl rfl
    exact ⟨tail, hvalue.trans (congrArg (fun keys => contactQuery.require (.inText "Id"
      ("SELECT ContactId FROM CampaignMember WHERE " ++ ("CampaignId IN (" ++ keys ++ ")")))) htext)⟩

theorem not_whereHas_key :
    ¬∀ (c : Catalog) (t : ObjectType) (q : Query) (relation : String) (r : Relation)
      (steps : List FinderStep), t.relation relation = .ok r →
      let inner :=
        ((r.keyQuery (c.describe r.related) q).findSteps c (c.describe r.related) steps).value
      inner.fault = none → inner.object = (c.describe r.related).object →
        inner.statement.fields = [.field r.linkage.relatedKey] := by
  intro h
  have hfields := h Crm.catalog Crm.contact contactQuery "Account"
    ⟨"Account", "Account", .belongsTo "AccountId" "Id"⟩ byAccountName rfl rfl rfl
  have hname : [Selected.field "Name"] = [Selected.field "Id"] := hfields
  exact absurd hname (by simp)

end RecordQuery
