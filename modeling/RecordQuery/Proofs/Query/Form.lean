import RecordQuery.Proofs.Query.Condition
import RecordQuery.Query.Select

namespace RecordQuery

open Text

mutual

/-- What is selected: a name, or the rows of a sub-select. -/
inductive Item where
  | name (name : String)
  | select (form : Form)

/-- What a query asks for. -/
structure Form where
  items : List Item
  object : String
  condition : Option Condition
  orders : List Order
  limit : Option Nat
  offset : Option Nat

end

/-- Words with a comma after each but the last. No words leave one word that is empty. -/
def listed : List (List Char) → List (List Char)
  | [] => [[]]
  | [w] => [w]
  | w :: v :: ws => (w ++ [',']) :: listed (v :: ws)

theorem listed_ne_nil (ws : List (List Char)) : listed ws ≠ [] := by
  unfold listed
  split <;> exact List.cons_ne_nil _ _

theorem spaced_listed (ws : List (List Char)) :
    spaced (listed ws) = (", ".toList).intercalate ws := by
  induction ws with
  | nil => rfl
  | cons w ws ih =>
    cases ws with
    | nil => rw [listed, spaced_singleton, List.intercalate_singleton]
    | cons v ws =>
      rw [listed, spaced_cons _ (listed_ne_nil _), ih, List.intercalate_cons_cons]
      simp

/-- What commas leave true of the words, and what is true of the empty word, is true of all of
them. -/
theorem forall_listed {P : List Char → Prop} (hnil : P []) (hcomma : ∀ w, P w → P (w ++ [',']))
    {ws : List (List Char)} (h : ∀ w ∈ ws, P w) : ∀ w ∈ listed ws, P w := by
  induction ws with
  | nil =>
    intro w hw
    obtain rfl := List.mem_singleton.1 hw
    exact hnil
  | cons w ws ih =>
    cases ws with
    | nil => exact h
    | cons v ws =>
      intro u hu
      obtain rfl | hu := List.mem_cons.1 hu
      · exact hcomma w (h w List.mem_cons_self)
      · exact ih (fun x hx => h x (List.mem_cons_of_mem _ hx)) u hu

theorem whole_listed {ws : List (List Char)} (h : ∀ w ∈ ws, Whole w) :
    ∀ w ∈ listed ws, Whole w :=
  forall_listed .nil (fun _ hw => hw.append (.char rfl (.inr rfl) .nil)) h

/-- The words of a key of an order, with a mark after the last. -/
def Order.words (mark : List Char) (o : Order) : List (List Char) :=
  match o.nullsFirst with
  | none => [o.field.toList, o.direction.text.toList ++ mark]
  | some first =>
    [o.field.toList, o.direction.text.toList, "NULLS".toList,
      (if first then "FIRST" else "LAST").toList ++ mark]

/-- The words of an order, with a comma after each key but the last. -/
def Order.listed : List Order → List (List Char)
  | [] => []
  | [o] => o.words []
  | o :: p :: os => o.words [','] ++ listed (p :: os)

theorem Order.words_ne_nil (mark : List Char) (o : Order) : o.words mark ≠ [] := by
  unfold words
  split <;> exact List.cons_ne_nil _ _

theorem Order.spaced_words (mark : List Char) (o : Order) :
    spaced (o.words mark) = o.text.toList ++ mark := by
  obtain ⟨field, direction, nullsFirst⟩ := o
  rcases nullsFirst with _ | _ | _ <;>
    simp [words, text, spaced_cons_cons]

theorem Order.listed_ne_nil {os : List Order} (h : os ≠ []) : listed os ≠ [] := by
  unfold listed
  split
  · exact absurd rfl h
  · exact words_ne_nil _ _
  · exact List.append_ne_nil_of_left_ne_nil (words_ne_nil _ _) _

theorem Order.spaced_listed (os : List Order) :
    spaced (listed os) = (", ".intercalate (os.map Order.text)).toList := by
  rw [String.toList_intercalate]
  induction os with
  | nil => rfl
  | cons o os ih =>
    cases os with
    | nil => simp [listed, spaced_words]
    | cons p os =>
      rw [listed, spaced_append (words_ne_nil _ _) (listed_ne_nil (List.cons_ne_nil _ _)), ih,
        spaced_words]
      simp [List.intercalate_cons_cons]

theorem Order.whole_words {mark : List Char} (hmark : Whole mark) {o : Order}
    (h : IsName o.field) : ∀ w ∈ o.words mark, Whole w := by
  obtain ⟨field, direction, nullsFirst⟩ := o
  have hdirection : Whole direction.text.toList := by
    have hall : ∀ c ∈ direction.text.toList, isPlain c ∧ isBlank c = false := by
      cases direction <;> decide
    exact .ofPlain hall
  cases nullsFirst with
  | none =>
    intro w hw
    simp only [words, List.mem_cons, List.not_mem_nil, or_false] at hw
    rcases hw with rfl | rfl
    · exact h.whole
    · exact hdirection.append hmark
  | some first =>
    have hplace : Whole (if first then "FIRST" else "LAST").toList := by
      have hall : ∀ c ∈ (if first then "FIRST" else "LAST").toList,
          isPlain c ∧ isBlank c = false := by
        cases first <;> decide
      exact .ofPlain hall
    intro w hw
    simp only [words, List.mem_cons, List.not_mem_nil, or_false] at hw
    rcases hw with rfl | rfl | rfl | rfl
    · exact h.whole
    · exact hdirection
    · exact .ofPlain (by decide)
    · exact hplace.append hmark

theorem Order.whole_listed {os : List Order} (h : ∀ o ∈ os, IsName o.field) :
    ∀ w ∈ listed os, Whole w := by
  induction os with
  | nil => exact fun w hw => nomatch hw
  | cons o os ih =>
    have ho := h o List.mem_cons_self
    cases os with
    | nil => exact whole_words .nil ho
    | cons p os =>
      intro w hw
      obtain hw | hw := List.mem_append.1 hw
      · exact whole_words (.char rfl (.inr rfl) .nil) ho w hw
      · exact ih (fun x hx => h x (List.mem_cons_of_mem _ hx)) w hw

namespace Form

def whereWords : Option Condition → List (List Char)
  | none => []
  | some c => "WHERE".toList :: c.words

def orderWords (os : List Order) : List (List Char) :=
  if os = [] then [] else "ORDER".toList :: "BY".toList :: Order.listed os

def countWords (lead : String) : Option Nat → List (List Char)
  | none => []
  | some n => [lead.toList, (toString n).toList]

/-- The words after the object. -/
def tailWords (condition : Option Condition) (orders : List Order) (limit offset : Option Nat) :
    List (List Char) :=
  whereWords condition ++
    (orderWords orders ++ (countWords "LIMIT" limit ++ countWords "OFFSET" offset))

end Form

mutual

def Form.words : Form → List (List Char)
  | ⟨items, object, condition, orders, limit, offset⟩ =>
    "SELECT".toList :: (listed (Item.words items) ++
      "FROM".toList :: object.toList :: Form.tailWords condition orders limit offset)

def Item.words : List Item → List (List Char)
  | [] => []
  | i :: is => Item.word i :: Item.words is

def Item.word : Item → List Char
  | .name n => n.toList
  | .select f => '(' :: spaced f.words ++ [')']

end

theorem Item.words_eq_map (is : List Item) : Item.words is = is.map Item.word := by
  induction is with
  | nil => rfl
  | cons i is ih => rw [Item.words, ih, List.map_cons]

theorem Form.words_ne_nil (f : Form) : f.words ≠ [] := by
  obtain ⟨⟩ := f
  exact List.cons_ne_nil _ _

mutual

inductive Item.Sound : Item → Prop
  | name {n : String} : IsName n → Item.Sound (.name n)
  | select {f : Form} : f.Sound → Item.Sound (.select f)

/-- Fields and objects are names, and so are those of the sub-selects. -/
inductive Form.Sound : Form → Prop
  | mk {items : List Item} {object : String} {condition : Option Condition} {orders : List Order}
    {limit offset : Option Nat} :
    (∀ i ∈ items, Item.Sound i) → IsName object → (∀ c ∈ condition, c.Sound) →
    (∀ o ∈ orders, IsName o.field) → Form.Sound ⟨items, object, condition, orders, limit, offset⟩

end

theorem Form.whole_countWords {lead : String} (hlead : Whole lead.toList) (n : Option Nat) :
    ∀ w ∈ countWords lead n, Whole w := by
  cases n with
  | none => exact fun w hw => nomatch hw
  | some n =>
    intro w hw
    simp only [countWords, List.mem_cons, List.not_mem_nil, or_false] at hw
    rcases hw with rfl | rfl
    · exact hlead
    · exact (IsLiteral.bare (.nat n)).whole

theorem Form.whole_tailWords {condition : Option Condition} {orders : List Order}
    {limit offset : Option Nat} (hcondition : ∀ c ∈ condition, c.Sound)
    (horders : ∀ o ∈ orders, IsName o.field) :
    ∀ w ∈ tailWords condition orders limit offset, Whole w := by
  intro w hw
  have hword (s : String) (h : ∀ c ∈ s.toList, isPlain c ∧ isBlank c = false) : Whole s.toList :=
    .ofPlain h
  simp only [tailWords, List.mem_append] at hw
  rcases hw with hw | hw | hw | hw
  · cases condition with
    | none => exact absurd hw List.not_mem_nil
    | some c =>
      obtain rfl | hw := List.mem_cons.1 hw
      · exact hword _ (by decide)
      · exact (hcondition c rfl).whole w hw
  · unfold orderWords at hw
    split at hw
    · exact absurd hw List.not_mem_nil
    · simp only [List.mem_cons] at hw
      rcases hw with rfl | rfl | hw
      · exact hword _ (by decide)
      · exact hword _ (by decide)
      · exact Order.whole_listed horders w hw
  · exact whole_countWords (hword _ (by decide)) _ w hw
  · exact whole_countWords (hword _ (by decide)) _ w hw

mutual

theorem Form.Sound.whole : ∀ {f : Form}, f.Sound → ∀ w ∈ f.words, Whole w
  | ⟨items, _, _, _, _, _⟩, .mk hitems hobject hcondition horders => by
    intro w hw
    have hwords : ∀ v ∈ Item.words items, Whole v := by
      intro v hv
      rw [Item.words_eq_map] at hv
      obtain ⟨i, hi, rfl⟩ := List.mem_map.1 hv
      exact Item.Sound.whole (hitems i hi)
    simp only [Form.words, List.mem_cons, List.mem_append] at hw
    rcases hw with rfl | hw | rfl | rfl | hw
    · exact .ofPlain (by decide)
    · exact whole_listed hwords w hw
    · exact .ofPlain (by decide)
    · exact hobject.whole
    · exact Form.whole_tailWords hcondition horders w hw

theorem Item.Sound.whole : ∀ {i : Item}, i.Sound → Whole i.word
  | _, .name h => h.whole
  | _, .select h => (closed_spaced (Form.Sound.whole h)).inBrackets

end

/-- The text of a normal form can stand in brackets as a sub-select. -/
theorem Form.Sound.isSubselect {f : Form} (h : f.Sound) : IsSubselect (spaced f.words) := by
  refine ⟨closed_spaced h.whole, ?_⟩
  obtain ⟨items, object, condition, orders, limit, offset⟩ := f
  rw [Form.words, spaced_cons _ (List.append_ne_nil_of_left_ne_nil (listed_ne_nil _) _)]
  rfl

end RecordQuery
