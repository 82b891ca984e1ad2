import RecordQuery.Text.Basic

namespace RecordQuery.Text

/-- Where a reader stands: outside quotes, inside them, or after a backslash inside them, and how
many brackets are open. -/
inductive Place where
  | outside (depth : Nat)
  | quoted (depth : Nat)
  | escaped (depth : Nat)
  deriving DecidableEq

/-- The place after one more character. -/
def Place.after : Place → Char → Place
  | outside n, c =>
    if c = '\'' then quoted n
    else if c = '(' then outside (n + 1)
    else if c = ')' then outside (n - 1)
    else outside n
  | quoted n, c => if c = '\\' then escaped n else if c = '\'' then outside n else quoted n
  | escaped n, _ => quoted n

/-- Puts characters in front of the first word. -/
def onto (cs : List Char) : List (List Char) → List (List Char)
  | [] => [cs]
  | w :: ws => (cs ++ w) :: ws

@[simp] theorem onto_nil_cons (w : List Char) (ws : List (List Char)) :
    onto [] (w :: ws) = w :: ws := rfl

theorem onto_append (cs ds : List Char) (ws : List (List Char)) :
    onto (cs ++ ds) ws = onto cs (onto ds ws) := by
  cases ws with
  | nil => rfl
  | cons w ws => simp only [onto, List.append_assoc]

/-- The words from a place on. -/
def wordsFrom : Place → List Char → List (List Char)
  | _, [] => [[]]
  | p, c :: cs =>
    if p = .outside 0 ∧ isBlank c then [] :: wordsFrom p cs
    else onto [c] (wordsFrom (p.after c) cs)

/-- The words of a text. -/
def outerWords (cs : List Char) : List (List Char) := wordsFrom (.outside 0) cs

/-- The characters of words, with one more for each word. -/
def room (ws : List (List Char)) : Nat := ws.flatten.length + ws.length

theorem room_cons (w : List Char) (ws : List (List Char)) :
    room (w :: ws) = w.length + room ws + 1 := by
  simp only [room, List.flatten_cons, List.length_append, List.length_cons]
  omega

theorem room_onto (c : Char) (ws : List (List Char)) (h : ws ≠ []) :
    room (onto [c] ws) = room ws + 1 := by
  cases ws with
  | nil => exact absurd rfl h
  | cons w ws =>
    rw [onto, room_cons, room_cons, List.length_append, List.length_singleton]
    omega

theorem onto_ne_nil (cs : List Char) (ws : List (List Char)) : onto cs ws ≠ [] := by
  cases ws <;> exact List.cons_ne_nil _ _

theorem wordsFrom_ne_nil (p : Place) (cs : List Char) : wordsFrom p cs ≠ [] := by
  cases cs with
  | nil => exact List.cons_ne_nil _ _
  | cons c cs =>
    unfold wordsFrom
    split
    · exact List.cons_ne_nil _ _
    · exact onto_ne_nil _ _

/-- Words take no more room than their text. -/
theorem room_wordsFrom (p : Place) (cs : List Char) : room (wordsFrom p cs) = cs.length + 1 := by
  induction cs generalizing p with
  | nil => rfl
  | cons c cs ih =>
    unfold wordsFrom
    split
    · rw [room_cons, ih, List.length_cons, List.length_nil, Nat.zero_add]
    · rw [room_onto c _ (wordsFrom_ne_nil _ _), ih, List.length_cons]

/-- What may stand between quotes: a backslash takes the character after it along, and no quote
stands free. -/
inductive Quotable : List Char → Prop
  | nil : Quotable []
  | char {c : Char} {cs : List Char} : c ≠ '\'' → c ≠ '\\' → Quotable cs → Quotable (c :: cs)
  | escape {c : Char} {cs : List Char} : Quotable cs → Quotable ('\\' :: c :: cs)

/-- Whether a character is neither a quote nor a bracket. -/
def isPlain (c : Char) : Bool := c != '\'' && c != '(' && c != ')'

/-- What holds of every character of a text is decided along the text, not over all characters. -/
instance decidableForallMem {p : Char → Prop} [DecidablePred p] (cs : List Char) :
    Decidable (∀ c ∈ cs, p c) :=
  List.decidableBAll p cs

/-- A text whose quotes and brackets are all closed. Blanks may stand outside them only if
`blanks`. -/
inductive Closed : (blanks : Bool) → List Char → Prop
  | nil {blanks : Bool} : Closed blanks []
  | char {blanks : Bool} {c : Char} {cs : List Char} :
    isPlain c → (blanks ∨ isBlank c = false) → Closed blanks cs → Closed blanks (c :: cs)
  | quoted {blanks : Bool} {body cs : List Char} :
    Quotable body → Closed blanks cs → Closed blanks ('\'' :: body ++ '\'' :: cs)
  | bracketed {blanks : Bool} {body cs : List Char} :
    Closed true body → Closed blanks cs → Closed blanks ('(' :: body ++ ')' :: cs)

namespace Closed

theorem append {blanks : Bool} {cs ds : List Char} (h : Closed blanks cs) (h' : Closed blanks ds) :
    Closed blanks (cs ++ ds) := by
  induction h with
  | nil => exact h'
  | char hp hb _ ih => exact .char hp hb (ih h')
  | quoted hq _ ih =>
    have h := Closed.quoted hq (ih h')
    simpa only [List.cons_append, List.append_assoc] using h
  | bracketed hb _ _ ih =>
    have h := Closed.bracketed hb (ih h')
    simpa only [List.cons_append, List.append_assoc] using h

theorem blanks {b : Bool} {cs : List Char} (h : Closed b cs) : Closed true cs := by
  induction h with
  | nil => exact .nil
  | char hp _ _ ih => exact .char hp (.inl rfl) ih
  | quoted hq _ ih => exact .quoted hq ih
  | bracketed hb _ _ ih => exact .bracketed hb ih

theorem inBrackets {b blanks : Bool} {body : List Char} (h : Closed b body) :
    Closed blanks ('(' :: body ++ [')']) :=
  .bracketed h.blanks .nil

/-- Characters that are neither quotes nor brackets nor blanks close nothing and open nothing. -/
theorem ofPlain {blanks : Bool} {cs : List Char}
    (h : ∀ c ∈ cs, isPlain c ∧ isBlank c = false) : Closed blanks cs := by
  induction cs with
  | nil => exact .nil
  | cons c cs ih =>
    have hc := h c List.mem_cons_self
    exact .char hc.1 (.inr hc.2) (ih fun d hd => h d (List.mem_cons_of_mem _ hd))

/-- Closed texts stay closed when they are put together with others between them. -/
theorem intercalate {sep : List Char} (hsep : Closed true sep) {ws : List (List Char)}
    (h : ∀ w ∈ ws, Closed true w) : Closed true (sep.intercalate ws) := by
  induction ws with
  | nil => exact .nil
  | cons w ws ih =>
    have hw := h w List.mem_cons_self
    have hws := ih fun v hv => h v (List.mem_cons_of_mem _ hv)
    cases ws with
    | nil => simpa only [List.intercalate_singleton] using hw
    | cons v ws =>
      rw [List.intercalate_cons_cons]
      exact (hw.append hsep).append hws

end Closed

theorem wordsFrom_quoted {body : List Char} (h : Quotable body) (n : Nat) (rest : List Char) :
    wordsFrom (.quoted n) (body ++ '\'' :: rest) =
      onto (body ++ ['\'']) (wordsFrom (.outside n) rest) := by
  induction h with
  | nil => simp [wordsFrom, Place.after]
  | @char c cs hq hb _ ih =>
    simp only [List.cons_append, wordsFrom, reduceCtorEq, false_and, if_false, Place.after, hq, hb]
    rw [ih, ← onto_append]
    rfl
  | @escape c cs _ ih =>
    simp only [List.cons_append, wordsFrom, reduceCtorEq, false_and, if_false, if_true, Place.after]
    rw [ih, ← onto_append, ← onto_append]
    rfl

/-- A closed text is part of one word as long as no blank in it ends the word. -/
theorem wordsFrom_closed {blanks : Bool} {cs : List Char} (h : Closed blanks cs) {n : Nat}
    (hn : blanks → n ≠ 0) (rest : List Char) :
    wordsFrom (.outside n) (cs ++ rest) = onto cs (wordsFrom (.outside n) rest) := by
  induction h generalizing n rest with
  | nil =>
    obtain ⟨w, ws, hw⟩ := List.exists_cons_of_ne_nil (wordsFrom_ne_nil (.outside n) rest)
    rw [List.nil_append, hw, onto_nil_cons]
  | @char b c cs hp hb _ ih =>
    have hstay : ¬(Place.outside n = .outside 0 ∧ isBlank c = true) := by
      rintro ⟨hzero, hblank⟩
      obtain hb | hb := hb
      · exact hn hb (by simpa using hzero)
      · simp [hblank] at hb
    have hafter : (Place.outside n).after c = .outside n := by
      simp only [isPlain, Bool.and_eq_true, bne_iff_ne] at hp
      simp [Place.after, hp]
    rw [List.cons_append, wordsFrom, if_neg hstay, hafter, ih hn, ← onto_append]
    rfl
  | @quoted b body cs hq _ ih =>
    have hquote : ¬(Place.outside n = .outside 0 ∧ isBlank '\'' = true) := by
      simp [show isBlank '\'' = false from rfl]
    rw [List.append_assoc, List.cons_append, List.cons_append, wordsFrom, if_neg hquote]
    have hafter : (Place.outside n).after '\'' = .quoted n := by simp [Place.after]
    rw [hafter, wordsFrom_quoted hq, ih hn, ← onto_append, ← onto_append]
    simp
  | @bracketed b body cs _ _ ihbody ih =>
    have hopen : ¬(Place.outside n = .outside 0 ∧ isBlank '(' = true) := by
      simp [show isBlank '(' = false from rfl]
    have hafter : (Place.outside n).after '(' = .outside (n + 1) := by simp [Place.after]
    have hclose : wordsFrom (.outside (n + 1)) (')' :: (cs ++ rest)) =
        onto [')'] (wordsFrom (.outside n) (cs ++ rest)) := by
      rw [wordsFrom, if_neg (by simp)]
      simp [Place.after]
    rw [List.append_assoc, List.cons_append, List.cons_append, wordsFrom, if_neg hopen, hafter,
      ihbody (fun _ => Nat.succ_ne_zero n), hclose, ih hn, ← onto_append, ← onto_append,
      ← onto_append]
    simp

/-- One word: quotes and brackets are closed, and no blank stands outside them. -/
def Whole (w : List Char) : Prop := Closed false w

/-- Words with one space between them. -/
def spaced (ws : List (List Char)) : List Char := [' '].intercalate ws

@[simp] theorem spaced_singleton (w : List Char) : spaced [w] = w := List.intercalate_singleton

theorem spaced_cons_cons (w v : List Char) (ws : List (List Char)) :
    spaced (w :: v :: ws) = w ++ ' ' :: spaced (v :: ws) := by
  simp [spaced, List.intercalate_cons_cons]

theorem spaced_cons {ws : List (List Char)} (w : List Char) (h : ws ≠ []) :
    spaced (w :: ws) = w ++ ' ' :: spaced ws := by
  cases ws with
  | nil => exact absurd rfl h
  | cons v ws => exact spaced_cons_cons w v ws

theorem spaced_append {vs ws : List (List Char)} (hv : vs ≠ []) (hw : ws ≠ []) :
    spaced (vs ++ ws) = spaced vs ++ ' ' :: spaced ws := by
  induction vs with
  | nil => exact absurd rfl hv
  | cons v vs ih =>
    cases vs with
    | nil => simpa using spaced_cons v hw
    | cons u vs =>
      rw [List.cons_append, spaced_cons _ (by simp), ih (by simp), spaced_cons_cons]
      simp

/-- Words with a space before each. -/
def trail (ws : List (List Char)) : List Char := ws.flatMap (' ' :: ·)

theorem trail_append (vs ws : List (List Char)) : trail (vs ++ ws) = trail vs ++ trail ws :=
  List.flatMap_append

theorem trail_eq {ws : List (List Char)} (h : ws ≠ []) : trail ws = ' ' :: spaced ws := by
  induction ws with
  | nil => exact absurd rfl h
  | cons w ws ih =>
    cases ws with
    | nil => simp [trail]
    | cons v ws =>
      rw [spaced_cons_cons, ← ih (List.cons_ne_nil _ _)]
      rfl

theorem spaced_append_trail {vs : List (List Char)} (hv : vs ≠ []) (ws : List (List Char)) :
    spaced (vs ++ ws) = spaced vs ++ trail ws := by
  by_cases hw : ws = []
  · subst hw
    simp [trail]
  · rw [spaced_append hv hw, trail_eq hw]

theorem closed_spaced {ws : List (List Char)} (h : ∀ w ∈ ws, Whole w) : Closed true (spaced ws) :=
  .intercalate (.char rfl (.inl rfl) .nil) fun w hw => (h w hw).blanks

/-- Words that are joined by spaces are the words of the text. -/
theorem outerWords_spaced {ws : List (List Char)} (hne : ws ≠ []) (h : ∀ w ∈ ws, Whole w) :
    outerWords (spaced ws) = ws := by
  induction ws with
  | nil => exact absurd rfl hne
  | cons w ws ih =>
    have hw := h w List.mem_cons_self
    cases ws with
    | nil =>
      have hone := wordsFrom_closed (n := 0) hw (fun hb => nomatch hb) []
      simpa [outerWords, wordsFrom, onto] using hone
    | cons v ws =>
      have hrest := ih (List.cons_ne_nil _ _) fun u hu => h u (List.mem_cons_of_mem _ hu)
      -- The first word leaves the reader outside quotes and brackets, where the space ends it.
      have hblank : (Place.outside 0 = .outside 0 ∧ isBlank ' ' = true) := ⟨rfl, rfl⟩
      rw [spaced_cons_cons, outerWords, wordsFrom_closed hw (fun hb => nomatch hb), wordsFrom,
        if_pos hblank]
      simpa [outerWords, onto] using hrest

/-- What stands between the brackets of a word that begins and ends with them. -/
def bracketed? : List Char → Option (List Char)
  | '(' :: cs => if cs.getLast? = some ')' then some cs.dropLast else none
  | _ => none

@[simp] theorem bracketed?_inBrackets (body : List Char) :
    bracketed? ('(' :: body ++ [')']) = some body := by
  simp [bracketed?]

theorem length_of_bracketed? {w body : List Char} (h : bracketed? w = some body) :
    body.length + 2 = w.length := by
  unfold bracketed? at h
  split at h
  · rename_i cs
    split at h
    · rename_i hlast
      obtain rfl := Option.some.inj h
      have hne : cs ≠ [] := by
        rintro rfl
        exact nomatch hlast
      have hpos := List.length_pos_iff.2 hne
      simp only [List.length_dropLast, List.length_cons]
      omega
    · exact nomatch h
  · exact nomatch h

theorem bracketed?_of_head {w : List Char} (h : w.head? ≠ some '(') : bracketed? w = none := by
  unfold bracketed?
  split
  · exact absurd rfl h
  · rfl

theorem pieces_ne_nil (sep : Char) (cs : List Char) : pieces sep cs ≠ [] := by
  cases cs with
  | nil => exact List.cons_ne_nil _ _
  | cons c cs =>
    rw [pieces]
    split
    · exact List.cons_ne_nil _ _
    · split <;> exact List.cons_ne_nil _ _

theorem pieces_of_not_mem {sep : Char} {cs : List Char} (h : sep ∉ cs) :
    pieces sep cs = [cs] := by
  induction cs with
  | nil => rfl
  | cons c cs ih =>
    have hc : c ≠ sep := fun heq => h (heq ▸ List.mem_cons_self)
    rw [pieces, if_neg hc, ih fun hcs => h (List.mem_cons_of_mem _ hcs)]

theorem pieces_append {sep : Char} {cs : List Char} (h : sep ∉ cs) (rest : List Char) :
    pieces sep (cs ++ sep :: rest) = cs :: pieces sep rest := by
  induction cs with
  | nil => rw [List.nil_append, pieces, if_pos rfl]
  | cons c cs ih =>
    have hc : c ≠ sep := fun heq => h (heq ▸ List.mem_cons_self)
    rw [List.cons_append, pieces, if_neg hc, ih fun hcs => h (List.mem_cons_of_mem _ hcs)]

theorem pieces_append_sep (sep : Char) (front rest : List Char) :
    pieces sep (front ++ sep :: rest) = pieces sep front ++ pieces sep rest := by
  induction front with
  | nil => simp [pieces]
  | cons c front ih =>
    rw [List.cons_append, pieces, ih, pieces]
    split
    · rfl
    · cases hfront : pieces sep front with
      | nil => exact absurd hfront (pieces_ne_nil sep front)
      | cons first others => rfl

/-- Words without spaces come apart at the spaces between them. -/
theorem pieces_spaced_append {ws : List (List Char)} (h : ∀ w ∈ ws, ' ' ∉ w) (hne : ws ≠ [])
    (rest : List Char) :
    pieces ' ' (spaced ws ++ ' ' :: rest) = ws ++ pieces ' ' rest := by
  induction ws with
  | nil => exact absurd rfl hne
  | cons w ws ih =>
    have hw := h w List.mem_cons_self
    cases ws with
    | nil => rw [spaced_singleton, pieces_append hw, List.singleton_append]
    | cons v ws =>
      rw [spaced_cons_cons, List.append_assoc, List.cons_append, pieces_append hw,
        ih (fun u hu => h u (List.mem_cons_of_mem _ hu)) (List.cons_ne_nil _ _)]
      rfl

theorem spaced_pieces (cs : List Char) : spaced (pieces ' ' cs) = cs := by
  induction cs with
  | nil => rfl
  | cons c cs ih =>
    rw [pieces]
    cases hpieces : pieces ' ' cs with
    | nil => exact absurd hpieces (pieces_ne_nil ' ' cs)
    | cons w ws =>
      rw [hpieces] at ih
      split
      · rename_i hc
        rw [spaced_cons _ (List.cons_ne_nil _ _), ih, hc, List.nil_append]
      · cases ws with
        | nil => rw [spaced_singleton] at ih ⊢; rw [ih]
        | cons v ws => rw [spaced_cons_cons] at ih ⊢; rw [List.cons_append, ih]

end RecordQuery.Text
