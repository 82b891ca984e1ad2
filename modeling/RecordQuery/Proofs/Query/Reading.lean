import RecordQuery.Proofs.Query.Normal

namespace RecordQuery

open Text

/-- A word without the comma at its end, and whether it had one. -/
def unmarked (w : List Char) : List Char × Bool :=
  if w.getLast? = some ',' then (w.dropLast, true) else (w, false)

@[simp] theorem unmarked_append_comma (w : List Char) : unmarked (w ++ [',']) = (w, true) := by
  simp [unmarked]

theorem unmarked_of_getLast? {w : List Char} (h : w.getLast? ≠ some ',') :
    unmarked w = (w, false) :=
  if_neg h

/-- Words up to the first without a comma, and the words after it. -/
def readListed : List (List Char) → List (List Char) × List (List Char)
  | [] => ([], [])
  | w :: ws =>
    match unmarked w with
    | (w, true) => let (vs, rest) := readListed ws; (w :: vs, rest)
    | (w, false) => ([w], ws)

theorem readListed_listed {ws : List (List Char)} (hne : ws ≠ [])
    (h : ∀ w ∈ ws, w.getLast? ≠ some ',') (rest : List (List Char)) :
    readListed (listed ws ++ rest) = (ws, rest) := by
  induction ws with
  | nil => exact absurd rfl hne
  | cons w ws ih =>
    cases ws with
    | nil =>
      have hw := unmarked_of_getLast? (h w List.mem_cons_self)
      simp [listed, readListed, hw]
    | cons v ws =>
      have hrest := ih (List.cons_ne_nil _ _) fun u hu => h u (List.mem_cons_of_mem _ hu)
      simp [listed, readListed, hrest]

/-- What is selected: a single empty word stands for nothing. -/
def readItems (ws : List (List Char)) : List (List Char) × List (List Char) :=
  let (vs, rest) := readListed ws
  (if vs = [[]] then [] else vs, rest)

theorem readItems_listed {ws : List (List Char)} (h : ∀ w ∈ ws, w ≠ [] ∧ w.getLast? ≠ some ',')
    (rest : List (List Char)) : readItems (listed ws ++ rest) = (ws, rest) := by
  cases ws with
  | nil => rfl
  | cons w ws =>
    have hw : w :: ws ≠ [[]] := by
      rintro ⟨⟩
      exact (h [] List.mem_cons_self).1 rfl
    rw [readItems, readListed_listed (List.cons_ne_nil _ _) fun v hv => (h v hv).2]
    exact congrArg (·, rest) (if_neg hw)

def Direction.ofWord? (w : List Char) : Option Direction :=
  if w = "ASC".toList then some ascending else if w = "DESC".toList then some descending else none

@[simp] theorem Direction.ofWord?_text (d : Direction) : ofWord? d.text.toList = some d := by
  cases d <;> rfl

theorem Direction.unmarked_text (d : Direction) :
    unmarked d.text.toList = (d.text.toList, false) := by
  cases d <;> rfl

/-- Where nulls stand, whether another key follows, and the words after that. -/
def readPlacement : List (List Char) → Option Bool × Bool × List (List Char)
  | n :: p :: rest =>
    if n = "NULLS".toList then
      (some ((unmarked p).1 = "FIRST".toList), (unmarked p).2, rest)
    else (none, false, n :: p :: rest)
  | ws => (none, false, ws)

theorem readPlacement_of_head? {ws : List (List Char)} (h : ws.head? ≠ some "NULLS".toList) :
    readPlacement ws = (none, false, ws) := by
  unfold readPlacement
  split
  · exact if_neg fun hn => h (by rw [← hn]; rfl)
  · rfl

theorem length_readPlacement (ws : List (List Char)) :
    (readPlacement ws).2.2.length ≤ ws.length := by
  unfold readPlacement
  split
  · split
    · exact Nat.le_add_right _ 2
    · exact Nat.le_refl _
  · exact Nat.le_refl _

/-- The key of an order at the head of words, whether another follows, and the words after it. -/
def Order.read : List (List Char) → Option (Order × Bool × List (List Char))
  | field :: w :: ws =>
    (Direction.ofWord? (unmarked w).1).map fun direction =>
      if (unmarked w).2 then (⟨String.ofList field, direction, none⟩, true, ws)
      else (⟨String.ofList field, direction, (readPlacement ws).1⟩, (readPlacement ws).2)
  | _ => none

theorem Order.length_of_read {ws rest : List (List Char)} {o : Order} {more : Bool}
    (h : read ws = some (o, more, rest)) : rest.length < ws.length := by
  unfold read at h
  split at h
  · rename_i field w ws
    obtain ⟨direction, -, h⟩ := Option.map_eq_some_iff.1 h
    have hle := length_readPlacement ws
    split at h
    · obtain ⟨-, htail⟩ := Prod.mk.inj h
      obtain ⟨-, rfl⟩ := Prod.mk.inj htail
      simp only [List.length_cons]
      omega
    · obtain ⟨-, htail⟩ := Prod.mk.inj h
      rw [htail] at hle
      simp only [List.length_cons] at hle ⊢
      omega
  · exact nomatch h

/-- The last key of an order is read up to words that do not place nulls. -/
theorem Order.read_last (o : Order) {rest : List (List Char)}
    (hrest : rest.head? ≠ some "NULLS".toList) :
    read (o.words [] ++ rest) = some (o, false, rest) := by
  obtain ⟨field, direction, nullsFirst⟩ := o
  cases nullsFirst with
  | none => simp [words, read, direction.unmarked_text, readPlacement_of_head? hrest]
  | some first =>
    cases first <;> cases direction <;>
      simp [words, read, readPlacement, unmarked, Direction.text, Direction.ofWord?]

/-- Any other key ends with its comma. -/
theorem Order.read_more (o : Order) (rest : List (List Char)) :
    read (o.words [','] ++ rest) = some (o, true, rest) := by
  obtain ⟨field, direction, nullsFirst⟩ := o
  cases nullsFirst with
  | none => simp [words, read]
  | some first =>
    cases first <;> cases direction <;>
      simp [words, read, readPlacement, unmarked, Direction.text, Direction.ofWord?]

/-- The order at the head of words, and the words after it. -/
def Order.readListed (ws : List (List Char)) : Option (List Order × List (List Char)) :=
  match _hread : Order.read ws with
  | none => none
  | some (o, false, rest) => some ([o], rest)
  | some (o, true, rest) => (Order.readListed rest).map fun (os, rest) => (o :: os, rest)
termination_by ws.length
decreasing_by exact Order.length_of_read _hread

theorem Order.readListed_of_last {ws rest : List (List Char)} {o : Order}
    (h : read ws = some (o, false, rest)) : readListed ws = some ([o], rest) := by
  rw [readListed]
  split
  · rename_i hread
    exact nomatch h.symm.trans hread
  · rename_i hread
    cases h.symm.trans hread
    rfl
  · rename_i hread
    exact nomatch h.symm.trans hread

theorem Order.readListed_of_more {ws rest : List (List Char)} {o : Order}
    (h : read ws = some (o, true, rest)) :
    readListed ws = (readListed rest).map fun (os, rest) => (o :: os, rest) := by
  rw [readListed]
  split
  · rename_i hread
    exact nomatch h.symm.trans hread
  · rename_i hread
    exact nomatch h.symm.trans hread
  · rename_i hread
    cases h.symm.trans hread
    rfl

theorem Order.readListed_listed {os : List Order} (hne : os ≠ []) {rest : List (List Char)}
    (hrest : rest.head? ≠ some "NULLS".toList) :
    readListed (listed os ++ rest) = some (os, rest) := by
  induction os with
  | nil => exact absurd rfl hne
  | cons o os ih =>
    cases os with
    | nil => exact readListed_of_last (read_last o hrest)
    | cons p os =>
      rw [listed, List.append_assoc, readListed_of_more (read_more o _),
        ih (List.cons_ne_nil _ _)]
      rfl

/-- The parts of a query as its words show them. -/
structure Outline where
  items : List (List Char)
  object : List Char
  condition : Option Condition
  orders : List Order
  limit : Option (List Char)
  offset : Option (List Char)

namespace Outline

/-- The condition after `WHERE`, if that is the first word. -/
def readWhere : List (List Char) → Option (Option Condition × List (List Char))
  | [] => some (none, [])
  | w :: ws =>
    if w = "WHERE".toList then (Condition.read ws).map fun (c, rest) => (some c, rest)
    else some (none, w :: ws)

/-- The order after `ORDER BY`, if these are the first words. -/
def readOrders (ws : List (List Char)) : Option (List Order × List (List Char)) :=
  if ws.take 2 = ["ORDER".toList, "BY".toList] then Order.readListed (ws.drop 2)
  else some ([], ws)

/-- The word after a lead, if that is the first word. -/
def readCount (lead : String) : List (List Char) → Option (List Char) × List (List Char)
  | w :: n :: rest => if w = lead.toList then (some n, rest) else (none, w :: n :: rest)
  | ws => (none, ws)

/-- The parts of a query. -/
def read : List (List Char) → Option Outline
  | [] => none
  | select :: ws =>
    match readItems ws with
    | (items, _from :: object :: rest) =>
      if select = "SELECT".toList ∧ _from = "FROM".toList then do
        let (condition, rest) ← readWhere rest
        let (orders, rest) ← readOrders rest
        let (limit, rest) := readCount "LIMIT" rest
        let (offset, rest) := readCount "OFFSET" rest
        if rest = [] then
          return ⟨items, object, condition, orders, limit, offset⟩
        else none
      else none
    | _ => none

/-- The words are none, or begin with one of these. -/
def Opens (leads : List String) (ws : List (List Char)) : Prop :=
  ∀ w ∈ ws.head?, ∃ s ∈ leads, w = s.toList

namespace Opens

theorem append {leads leads' : List String} {ws ws' : List (List Char)} (h : Opens leads ws)
    (h' : Opens leads' ws') : Opens (leads ++ leads') (ws ++ ws') := by
  intro w hw
  cases ws with
  | nil =>
    obtain ⟨s, hs, hws⟩ := h' w hw
    exact ⟨s, List.mem_append_right _ hs, hws⟩
  | cons v ws =>
    obtain ⟨s, hs, hws⟩ := h w hw
    exact ⟨s, List.mem_append_left _ hs, hws⟩

theorem head?_ne {leads : List String} {ws : List (List Char)} (h : Opens leads ws) {s : String}
    (hs : s ∉ leads) : ws.head? ≠ some s.toList := by
  intro hhead
  obtain ⟨t, ht, hst⟩ := h _ hhead
  exact hs (String.toList_inj.1 hst ▸ ht)

theorem ends {leads : List String} {ws : List (List Char)} (h : Opens leads ws)
    (hleads : ∀ s ∈ leads, Connective.ofWord? s.toList = none) : Ends ws := by
  intro w hw
  obtain ⟨s, hs, rfl⟩ := h w hw
  exact hleads s hs

theorem countWords (lead : String) (n : Option Nat) : Opens [lead] (Form.countWords lead n) := by
  cases n with
  | none => exact fun w hw => nomatch hw
  | some n =>
    rintro _ ⟨⟩
    exact ⟨lead, List.mem_cons_self, rfl⟩

theorem orderWords (os : List Order) : Opens ["ORDER"] (Form.orderWords os) := by
  unfold Form.orderWords
  split
  · exact fun w hw => nomatch hw
  · rintro _ ⟨⟩
    exact ⟨"ORDER", List.mem_cons_self, rfl⟩

end Opens

theorem readCount_countWords {lead : String} (n : Option Nat) {rest : List (List Char)}
    (hrest : rest.head? ≠ some lead.toList) :
    readCount lead (Form.countWords lead n ++ rest) =
      (n.map fun n => (toString n).toList, rest) := by
  cases n with
  | none =>
    rw [Form.countWords, List.nil_append]
    unfold readCount
    split
    · exact if_neg fun hw => hrest (by rw [← hw]; rfl)
    · rfl
  | some n => exact if_pos rfl

theorem readOrders_orderWords (os : List Order) {rest : List (List Char)}
    (horder : rest.head? ≠ some "ORDER".toList) (hnulls : rest.head? ≠ some "NULLS".toList) :
    readOrders (Form.orderWords os ++ rest) = some (os, rest) := by
  by_cases h : os = []
  · have hskip : rest.take 2 ≠ ["ORDER".toList, "BY".toList] := by
      intro htake
      refine horder ?_
      have hhead := congrArg List.head? htake
      rwa [List.head?_take, if_neg (by decide)] at hhead
    rw [Form.orderWords, if_pos h, List.nil_append, readOrders, if_neg hskip, h]
  · rw [Form.orderWords, if_neg h]
    exact (if_pos rfl).trans (Order.readListed_listed h hnulls)

theorem readWhere_whereWords {c? : Option Condition} (hc : ∀ c ∈ c?, c.Sound)
    {rest : List (List Char)} (hrest : rest.head? ≠ some "WHERE".toList) (hends : Ends rest) :
    readWhere (Form.whereWords c? ++ rest) = some (c?, rest) := by
  cases c? with
  | none =>
    rw [Form.whereWords, List.nil_append]
    unfold readWhere
    split
    · rfl
    · exact if_neg fun hw => hrest (by rw [← hw]; rfl)
  | some c =>
    rw [Form.whereWords, List.cons_append, readWhere, if_pos rfl,
      Condition.read_words (hc c rfl) hends]
    rfl

end Outline

def Form.outline (f : Form) : Outline where
  items := Item.words f.items
  object := f.object.toList
  condition := f.condition
  orders := f.orders
  limit := f.limit.map fun n => (toString n).toList
  offset := f.offset.map fun n => (toString n).toList

theorem Item.Sound.word_ne_nil {i : Item} (h : i.Sound) : i.word ≠ [] := by
  cases h with
  | name hn =>
    rw [Item.word]
    exact fun hnil => hn.nonempty (String.toList_eq_nil_iff.1 hnil)
  | select hf => exact List.cons_ne_nil _ _

theorem Item.Sound.getLast?_word {i : Item} (h : i.Sound) : i.word.getLast? ≠ some ',' := by
  cases h with
  | name hn =>
    rw [Item.word]
    exact fun hcomma => (hn.plain ',' (List.mem_of_getLast? hcomma)).2.2 rfl
  | select hf =>
    rw [Item.word, List.getLast?_concat]
    exact fun hcomma => nomatch hcomma

/-- The words of a sound normal form show its parts. -/
theorem Outline.read_words {f : Form} (h : f.Sound) : Outline.read f.words = some f.outline := by
  obtain ⟨items, object, condition, orders, limit, offset⟩ := f
  cases h with
  | mk hitems hobject hcondition horders =>
    have hwords : ∀ w ∈ Item.words items, w ≠ [] ∧ w.getLast? ≠ some ',' := by
      intro w hw
      rw [Item.words_eq_map] at hw
      obtain ⟨i, hi, rfl⟩ := List.mem_map.1 hw
      exact ⟨(hitems i hi).word_ne_nil, (hitems i hi).getLast?_word⟩
    have hoffset := Opens.countWords "OFFSET" offset
    have hextent := (Opens.countWords "LIMIT" limit).append hoffset
    have hafter := (Opens.orderWords orders).append hextent
    have hnothing : ([] : List (List Char)).head? ≠ some "OFFSET".toList := fun h => nomatch h
    have hcount := readCount_countWords offset hnothing
    rw [Form.words, read, readItems_listed hwords]
    simp only [and_self, if_true]
    rw [Form.tailWords, readWhere_whereWords hcondition (hafter.head?_ne (by decide))
      (hafter.ends (by decide))]
    simp only [Option.bind_eq_bind, Option.bind_some]
    rw [readOrders_orderWords _ (hextent.head?_ne (by decide)) (hextent.head?_ne (by decide))]
    simp only [Option.bind_some]
    rw [readCount_countWords _ (hoffset.head?_ne (by decide))]
    rw [List.append_nil] at hcount
    simp only [hcount, if_true]
    rfl

theorem eq_of_counts {n m : Option Nat}
    (h : n.map (fun n => (toString n).toList) = m.map fun n => (toString n).toList) : n = m := by
  refine Option.map_injective (fun a b hab => ?_) h
  have hread := congrArg (Nat.ofDigitChars 10 · 0) hab
  simpa only [Nat.toString_eq_ofList_toDigits, String.toList_ofList,
    Nat.ofDigitChars_ten_toDigits] using hread

theorem Item.eq_of_words {is js : List Item}
    (hword : ∀ i ∈ is, ∀ j ∈ js, i.word = j.word → i = j) (h : Item.words is = Item.words js) :
    is = js := by
  induction is generalizing js with
  | nil =>
    cases js with
    | nil => rfl
    | cons j js => exact nomatch h
  | cons i is ih =>
    cases js with
    | nil => exact nomatch h
    | cons j js =>
      obtain ⟨hhead, htail⟩ := List.cons.inj h
      rw [hword i List.mem_cons_self j List.mem_cons_self hhead,
        ih (fun i' hi j' hj => hword i' (List.mem_cons_of_mem _ hi) j' (List.mem_cons_of_mem _ hj))
          htail]

theorem IsName.ne_inBrackets {n : String} (h : IsName n) (body : List Char) :
    n.toList ≠ '(' :: body ++ [')'] := by
  intro heq
  have hnone := h.bracketed?_eq_none
  rw [heq, bracketed?_inBrackets] at hnone
  exact nomatch hnone

mutual

/-- Sound normal forms with the same words are the same. -/
theorem Form.Sound.eq_of_words : ∀ {f : Form}, f.Sound → ∀ {g : Form}, g.Sound →
    f.words = g.words → f = g
  | ⟨items, object, condition, orders, limit, offset⟩, .mk hitems hobject hcondition horders,
    ⟨items', object', condition', orders', limit', offset'⟩, hg, h => by
    have houtline := (Outline.read_words (.mk hitems hobject hcondition horders)).symm.trans
      ((congrArg Outline.read h).trans (Outline.read_words hg))
    simp only [Form.outline, Option.some.injEq, Outline.mk.injEq] at houtline
    obtain ⟨hwords, hobject', rfl, rfl, hlimit, hoffset⟩ := houtline
    obtain rfl := String.toList_inj.1 hobject'
    obtain rfl := eq_of_counts hlimit
    obtain rfl := eq_of_counts hoffset
    cases hg with
    | mk hitems' =>
      -- An outline has a sub-select only as its word, which is read in turn.
      obtain rfl := Item.eq_of_words
        (fun i hi j hj => Item.Sound.eq_of_word (hitems i hi) (hitems' j hj)) hwords
      rfl

theorem Item.Sound.eq_of_word : ∀ {i : Item}, i.Sound → ∀ {j : Item}, j.Sound →
    i.word = j.word → i = j
  | .name n, .name hn, _, .name hm, h => congrArg Item.name (String.toList_inj.1 h)
  | .name n, .name hn, _, .select hg, h => absurd h (hn.ne_inBrackets _)
  | .select f, .select hf, _, .name hm, h => absurd h.symm (hm.ne_inBrackets _)
  | .select f, .select hf, .select g, .select hg, h => by
    have hbody : spaced f.words = spaced g.words :=
      List.append_cancel_right (List.cons.inj h).2
    have hwords := congrArg outerWords hbody
    rw [outerWords_spaced f.words_ne_nil hf.whole, outerWords_spaced g.words_ne_nil hg.whole]
      at hwords
    rw [Form.Sound.eq_of_words hf hg hwords]

end

/-- Two queries over names that are written as the same text have the same normal form. -/
theorem Select.form_eq_of_text_eq {d : Dialect} (hd : d.Named) {s s' : Select} (hs : s.Named)
    (hs' : s'.Named) {text : String} (h : s.text d = .ok text) (h' : s'.text d = .ok text) :
    s.form d = s'.form d := by
  have hwrites := Select.writes_form hs hd h
  have hwrites' := Select.writes_form hs' hd h'
  have hwords := congrArg outerWords (hwrites.words.symm.trans hwrites'.words)
  rw [outerWords_spaced (Form.words_ne_nil _) hwrites.sound.whole,
    outerWords_spaced (Form.words_ne_nil _) hwrites'.sound.whole] at hwords
  exact hwrites.sound.eq_of_words hwrites'.sound hwords

/-- Nobody is called null, with the default field and an empty set. -/
def Select.unnamed : Select := ⟨[], "Account", [.isIn "Name" []], [], none, none⟩

/-- The same, with a field and two comparisons, and a group that says nothing. -/
def Select.spelledOut : Select :=
  ⟨[.field "Id"], "Account", [.null "Name", .group [], .notNull "Name"], [], none, none⟩

theorem Select.unnamed_form :
    (∀ s ∈ [unnamed, spelledOut], s.Named ∧ s.text ⟨none, ["Id"]⟩ =
      .ok "SELECT Id FROM Account WHERE Name = null AND Name != null") ∧
    unnamed.form ⟨none, ["Id"]⟩ = spelledOut.form ⟨none, ["Id"]⟩ := by
  have hid : IsName "Id" := ⟨by decide, by decide⟩
  have hname : IsName "Name" := ⟨by decide, by decide⟩
  have haccount : IsName "Account" := ⟨by decide, by decide⟩
  have hd : Dialect.Named ⟨none, ["Id"]⟩ := by
    intro n hn
    obtain rfl := List.mem_singleton.1 hn
    exact hid
  have hunnamed : unnamed.Named := by
    refine .mk (fun s hs => absurd hs List.not_mem_nil) haccount (fun c hc => ?_)
      (fun o ho => absurd ho List.not_mem_nil)
    obtain rfl := List.mem_singleton.1 hc
    exact .isIn hname
  have hspelled : spelledOut.Named := by
    refine .mk (fun s hs => ?_) haccount (fun c hc => ?_) (fun o ho => absurd ho List.not_mem_nil)
    · obtain rfl := List.mem_singleton.1 hs
      exact .field hid
    · simp only [List.mem_cons, List.not_mem_nil, or_false] at hc
      rcases hc with rfl | rfl | rfl
      · exact .null hname
      · exact .group fun c hc => absurd hc List.not_mem_nil
      · exact .notNull hname
  have htext : unnamed.text ⟨none, ["Id"]⟩ =
      .ok "SELECT Id FROM Account WHERE Name = null AND Name != null" := rfl
  have htext' : spelledOut.text ⟨none, ["Id"]⟩ =
      .ok "SELECT Id FROM Account WHERE Name = null AND Name != null" := rfl
  refine ⟨fun s hs => ?_, form_eq_of_text_eq hd hunnamed hspelled htext htext'⟩
  simp only [List.mem_cons, List.not_mem_nil, or_false] at hs
  rcases hs with rfl | rfl
  · exact ⟨hunnamed, htext⟩
  · exact ⟨hspelled, htext'⟩

end RecordQuery
