import RecordQuery.Proofs.Loading.Alone
import RecordQuery.Proofs.Query.Reading
import RecordQuery.Sample.Crm

namespace RecordQuery

open Text

/-- What a character stands for after a backslash. -/
def unescapedChar : Char → Char
  | 'n' => '\n'
  | 'r' => '\r'
  | 't' => '\t'
  | c => c

/-- The text that stands between the quotes of a literal. -/
def unescaped : List Char → List Char
  | '\\' :: c :: cs => unescapedChar c :: unescaped cs
  | c :: cs => c :: unescaped cs
  | [] => []

theorem exists_unescaped (s : String) :
    ∃ body, (quotedLiteral s).toList = '\'' :: body ++ ['\''] ∧ unescaped body = s.toList := by
  refine ⟨_, by rw [quotedLiteral, String.toList_ofList], ?_⟩
  generalize s.toList = cs
  induction cs with
  | nil => rfl
  | cons c cs ih =>
    rw [List.flatMap_cons]
    split
    · exact congrArg _ ih
    · exact congrArg _ ih
    · exact congrArg _ ih
    · exact congrArg _ ih
    · exact congrArg _ ih
    · rename_i hslash _ _ _ _
      rw [List.singleton_append, unescaped, ih]
      exact fun _ _ hc _ => hslash hc

theorem quotedLiteral_inj {s t : String} : quotedLiteral s = quotedLiteral t ↔ s = t := by
  refine ⟨fun h => ?_, fun h => by rw [h]⟩
  obtain ⟨body, hs, hbody⟩ := exists_unescaped s
  obtain ⟨body', ht, hbody'⟩ := exists_unescaped t
  rw [h, ht] at hs
  obtain rfl : body' = body := List.append_cancel_right (List.cons.inj hs).2
  exact String.toList_inj.1 (hbody.symm.trans hbody')

/-- The words of a list of literals in brackets, without commas. -/
def listWords (literal : List Char) : List (List Char) :=
  match bracketed? literal with
  | none => []
  | some body => (readItems (outerWords body)).1

theorem listWords_literals (texts : List String) :
    listWords ("(" ++ ", ".intercalate (texts.map quotedLiteral) ++ ")").toList =
      texts.map fun s => (quotedLiteral s).toList := by
  let ws := texts.map fun s => (quotedLiteral s).toList
  have hwhole : ∀ w ∈ ws, Whole w := by
    intro w hw
    obtain ⟨s, -, rfl⟩ := List.mem_map.1 hw
    exact (IsLiteral.quoted s).whole
  have hends : ∀ w ∈ ws, w ≠ [] ∧ w.getLast? ≠ some ',' := by
    intro w hw
    obtain ⟨s, -, rfl⟩ := List.mem_map.1 hw
    obtain ⟨body, hbody, -⟩ := exists_unescaped s
    rw [hbody]
    exact ⟨List.cons_ne_nil _ _, by rw [List.getLast?_concat]; decide⟩
  have hread := readItems_listed hends []
  rw [List.append_nil] at hread
  unfold listWords
  rw [IsLiteral.toList_listed, List.map_map, bracketed?_inBrackets]
  change (readItems (outerWords ((", ".toList).intercalate ws))).1 = ws
  rw [← spaced_listed, outerWords_spaced (listed_ne_nil _) (whole_listed hwhole)]
  exact congrArg Prod.fst hread

namespace Store

/-- Whether a text meets a comparison. -/
def accepts (op : Operator) (operand : Operand) (s : String) : Bool :=
  match op, operand with
  | .eq, .literal text => text == quotedLiteral s
  | .isIn, .literal text => (listWords text.toList).contains (quotedLiteral s).toList
  | _, _ => false

def meets (c : Comparison) (row : Row) : Bool :=
  match Fields.find? row c.field with
  | some (.text s) => accepts c.op c.operand s
  | _ => false

theorem meets_of_accepts {c : Comparison} {texts : List String}
    (h : ∀ s, accepts c.op c.operand s = texts.contains s) : meets c = Row.has c.field texts := by
  funext row
  unfold meets Row.has
  generalize Fields.find? row c.field = found
  cases found with
  | none => rfl
  | some j =>
    cases j with
    | text s => exact h s
    | _ => rfl

theorem meets_eq (field s : String) :
    meets ⟨field, .eq, .literal (quotedLiteral s)⟩ = Row.has field [s] := by
  refine meets_of_accepts fun other => Bool.eq_iff_iff.2 ?_
  simp only [accepts, beq_iff_eq, quotedLiteral_inj, List.contains_iff_mem, List.mem_singleton]
  exact eq_comm

theorem meets_isIn (field : String) (texts : List String) :
    meets ⟨field, .isIn, .literal ("(" ++ ", ".intercalate (texts.map quotedLiteral) ++ ")")⟩ =
      Row.has field texts := by
  refine meets_of_accepts fun other => Bool.eq_iff_iff.2 ?_
  simp only [accepts, listWords_literals, List.contains_iff_mem, List.mem_map, String.toList_inj,
    quotedLiteral_inj, exists_eq_right]

def answered (rows : List Row) (text : String) : List Row :=
  match Outline.read (outerWords text.toList) with
  | none => []
  | some outline =>
    let found := match outline.condition with
      | some (.one (.comparison c)) => rows.filter (meets c)
      | _ => []
    if outline.limit = some "1".toList then found.take 1 else found

/-- A store that holds rows of one object and reads the queries it is sent. -/
def ofRows (schema : Schema) (catalog : Catalog) (rows : List Row) : Store Unit Unit where
  transport := {
    instanceUrl := ""
    query := fun _ text u => (.ok (.last (answered rows text)), u)
    request := fun _ _ u => (.error (.transport "refused"), u) }
  schemas := ⟨fun _ u => pure (.ok schema, u)⟩
  settings := .default
  catalog := catalog

theorem yields_ofRows {schema : Schema} {catalog : Catalog} {rows expected : List Row}
    {endpoint : Endpoint} {text : String} (h : answered rows text = expected)
    (names : List String) : (ofRows schema catalog rows).Yields endpoint text names expected :=
  yields_last (fun _ => by rw [← h]; rfl) names

/-- The table reads what a query for its rows asks for. -/
theorem answered_queryText {schema : Schema} {object field : String} {op : Operator}
    {literal condition : String} (hfields : ∀ n ∈ schema.fieldNames, IsName n)
    (hobject : IsName object)
    (hwrites : (Condition.atom field op (.literal literal)).Writes condition) (limit : Option Nat)
    (rows : List Row) :
    answered rows (schema.queryText object
      (condition ++ segment " LIMIT " "" (limit.map toString).toList)) =
      let found := rows.filter (meets ⟨field, op, .literal literal⟩)
      if limit.map (fun n => (toString n).toList) = some "1".toList then found.take 1
      else found := by
  let form : Form := ⟨schema.fieldNames.map .name, object,
    some (.atom field op (.literal literal)), [], limit, none⟩
  have hsound : form.Sound := by
    refine .mk (fun i hi => ?_) hobject (fun c hc => ?_) (fun o ho => nomatch ho)
    · obtain ⟨n, hn, rfl⟩ := List.mem_map.1 hi
      exact .name (hfields n hn)
    · obtain rfl := Option.some.inj hc
      exact hwrites.sound
  have hitems : Item.words (schema.fieldNames.map .name) = schema.fieldNames.map String.toList := by
    rw [Item.words_eq_map, List.map_map]
    rfl
  have htext : (schema.queryText object
      (condition ++ segment " LIMIT " "" (limit.map toString).toList)).toList =
        spaced form.words := by
    have hwhere : trail (Form.whereWords (some (.atom field op (.literal literal)))) =
        " WHERE ".toList ++ condition.toList := by
      rw [Form.whereWords, trail_eq (List.cons_ne_nil _ _),
        spaced_cons _ (Condition.words_ne_nil _), hwrites.words]
      rfl
    have hnothing : trail (Form.orderWords []) = [] ∧ trail (Form.countWords "OFFSET" none) = [] :=
      ⟨rfl, rfl⟩
    rw [Form.spaced_words, hitems, hwhere, hnothing.1, hnothing.2, ← toList_countSegment]
    simp only [Schema.queryText, String.toList_append, String.toList_intercalate, List.append_nil,
      List.append_assoc]
    rfl
  unfold answered
  rw [htext, outerWords_spaced form.words_ne_nil hsound.whole, Outline.read_words hsound]
  rfl

/-- The table is a store that holds its rows. -/
theorem holds_ofRows {schema : Schema} {object field : String} (catalog : Catalog)
    (rows : List Row) (hfields : ∀ n ∈ schema.fieldNames, IsName n) (hobject : IsName object)
    (hdeclared : field ∈ schema.fieldNames)
    (htextual : ∀ kind, (field, kind) ∈ schema.fields → kind = .text) :
    (ofRows schema catalog rows).Holds schema object field rows := by
  have hfield := hfields field hdeclared
  have hequal (s : String) : (Condition.atom field .eq (.literal (quotedLiteral s))).Writes
      (field ++ " = " ++ quotedLiteral s) :=
    .atom hfield (.quoted s) (by simp [Operand.word, Operator.text])
  refine ⟨fun _ => rfl, hdeclared, htextual, fun s => ?_, fun s => ?_, fun texts _ => ?_⟩
  · have hanswered := answered_queryText hfields hobject (hequal s) none rows
    rw [Store.Holds.segment_limit_none, String.append_empty, meets_eq] at hanswered
    exact yields_ofRows hanswered _
  · have hanswered := answered_queryText hfields hobject (hequal s) (some 1) rows
    rw [meets_eq] at hanswered
    exact yields_ofRows hanswered _
  · have hamong : (Condition.atom field .isIn (.literal
        ("(" ++ ", ".intercalate (texts.map quotedLiteral) ++ ")"))).Writes
        (field ++ " IN (" ++ ", ".intercalate (texts.map quotedLiteral) ++ ")") := by
      refine .atom hfield (IsLiteral.listed fun w hw => ?_) (by simp [Operand.word, Operator.text])
      obtain ⟨s, -, rfl⟩ := List.mem_map.1 hw
      exact .quoted s
    have hanswered := answered_queryText hfields hobject hamong none rows
    rw [Store.Holds.segment_limit_none, String.append_empty, meets_isIn] at hanswered
    exact yields_ofRows hanswered _

end Store

namespace Crm

def accountContacts : Relation := ⟨"Contacts", "Contact", .hasMany "AccountId" "Id"⟩

def contactSchema : Schema :=
  ⟨"Contact", [("Id", .text), ("AccountId", .text), ("LastName", .text)]⟩

/-- Two contacts of one account and one of none. -/
def contactRows : List Row := [
  [("Id", .text "C1"), ("AccountId", .text "001")],
  [("Id", .text "C2"), ("AccountId", .null)],
  [("Id", .text "C3"), ("AccountId", .text "001")]]

/-- The account with contacts twice, one without contacts, and one without a key. -/
def accountBatch : List Record := [
  .ofAttributes "Account" [("Id", .text "001")], .ofAttributes "Account" [("Id", .text "002")],
  .new "Account", .ofAttributes "Account" [("Id", .text "001")]]

theorem holds_contacts :
    (Store.ofRows contactSchema catalog contactRows).Holds contactSchema "Contact" "AccountId"
      contactRows := by
  refine Store.holds_ofRows catalog contactRows (by decide) (by decide) (by decide)
    fun kind hkind => ?_
  simpa [contactSchema] using hkind

theorem textOrNull_accountBatch : ∀ p ∈ accountBatch, p.TextOrNull "Id" := by
  intro p hp
  simp only [accountBatch, List.mem_cons, List.not_mem_nil, or_false] at hp
  rcases hp with rfl | rfl | rfl | rfl
  · exact .inr ⟨"001", rfl⟩
  · exact .inr ⟨"002", rfl⟩
  · exact .inl rfl
  · exact .inr ⟨"001", rfl⟩

/-- Every account has the contacts that are loaded for it alone. -/
theorem accounts_asAlone :
    account.relation "Contacts" = .ok accountContacts ∧ accountContacts.linkage.isDirect ∧
    LoadPlan.isTop "Contacts" ∧
    (Store.ofRows contactSchema catalog contactRows).Holds contactSchema "Contact" "AccountId"
      contactRows ∧
    (∀ p ∈ accountBatch, p.TextOrNull "Id") ∧
    ∃ records' s', ((LoadPlan.ofPaths ["Contacts"]).load
        (Store.ofRows contactSchema catalog contactRows) account accountBatch).run ⟨(), (), []⟩ =
      (⟨records', none⟩, s') ∧
      List.Forall₂ (AsAlone (Store.ofRows contactSchema catalog contactRows) account "Contacts")
        accountBatch records' := by
  have hrelation : account.relation "Contacts" = .ok accountContacts := rfl
  obtain ⟨hload, -⟩ := LoadPlan.eager_asAlone hrelation rfl (by decide) holds_contacts
    textOrNull_accountBatch ⟨(), (), []⟩
  exact ⟨hrelation, rfl, by decide, holds_contacts, textOrNull_accountBatch, hload⟩

end Crm

end RecordQuery
