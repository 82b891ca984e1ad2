import Mathlib.Data.String.Basic
import RecordQuery.Record.Basic

namespace RecordQuery

variable {α : Type u}

namespace Fields

/-- A test of names keeps or hides every value under a name. -/
theorem find?_filter (p : String → Bool) (fields : List (String × α)) (name : String) :
    find? (fields.filter fun e => p e.1) name = if p name then find? fields name else none := by
  unfold find?
  induction fields with
  | nil => simp
  | cons e fields ih =>
    obtain ⟨key, value⟩ := e
    by_cases hk : name = key
    · subst hk
      cases hp : p name with
      | true => simp [List.filter_cons_of_pos, hp]
      | false =>
        rw [List.filter_cons_of_neg (by simp [hp]), ih, hp]
        rfl
    · have hb : (name == key) = false := by simpa using hk
      rw [List.lookup_cons, hb, ← ih]
      cases hp : p key with
      | true => rw [List.filter_cons_of_pos (by simp [hp]), List.lookup_cons, hb]
      | false => rw [List.filter_cons_of_neg (by simp [hp])]

theorem find?_insert (fields : List (String × α)) (name : String) (value : α) (other : String) :
    find? (insert fields name value) other = if other = name then some value
      else find? fields other := by
  have hlow := find?_filter (fun key => decide (key < name)) fields other
  have hhigh := find?_filter (fun key => decide (name < key)) fields other
  unfold find? insert at *
  rw [List.lookup_append, List.lookup_cons, hlow, hhigh]
  rcases lt_trichotomy other name with h | h | h
  · have hne : (other == name) = false := by simpa using ne_of_lt h
    simp [h, ne_of_lt h, hne, lt_asymm h]
  · subst h
    simp
  · have hne : (other == name) = false := by simpa using ne_of_gt h
    simp [h, ne_of_gt h, hne, lt_asymm h]

/-- Two tests that never hold together take a list apart again. -/
theorem filter_apart {β : Type u} {p q : β → Bool} (hpq : ∀ e, p e = true → q e = false) {x : β}
    (hp : p x = false) (hq : q x = false) (es : List β) :
    (es.filter p ++ x :: es.filter q).filter p = es.filter p ∧
      (es.filter p ++ x :: es.filter q).filter q = es.filter q := by
  have hqp (e : β) (h : q e = true) : p e = false := by
    cases hpe : p e with
    | false => rfl
    | true => exact absurd h (by simp [hpq e hpe])
  have hnone : (es.filter q).filter p = [] :=
    List.filter_eq_nil_iff.2 fun e he => by simp [hqp e (List.mem_filter.1 he).2]
  have hnone' : (es.filter p).filter q = [] :=
    List.filter_eq_nil_iff.2 fun e he => by simp [hpq e (List.mem_filter.1 he).2]
  constructor
  · rw [List.filter_append, List.filter_cons_of_neg (by simp [hp]), hnone, List.append_nil,
      List.filter_filter]
    simp only [Bool.and_self]
  · rw [List.filter_append, List.filter_cons_of_neg (by simp [hq]), hnone', List.nil_append,
      List.filter_filter]
    simp only [Bool.and_self]

/-- Of two values put under one name the second stays. -/
theorem insert_insert (fields : List (String × α)) (name : String) (first second : α) :
    insert (insert fields name first) name second = insert fields name second := by
  have hapart : ∀ e : String × α, decide (e.1 < name) = true → decide (name < e.1) = false :=
    fun e h => decide_eq_false (lt_asymm (of_decide_eq_true h))
  have hself : decide (name < name) = false := decide_eq_false (lt_irrefl name)
  obtain ⟨hlow, hhigh⟩ := filter_apart (x := (name, first)) hapart hself hself fields
  unfold insert
  rw [hlow, hhigh]

/-- Of two tests the stricter one decides, in either order. -/
theorem filter_within {β : Type u} {p q : β → Bool} (hpq : ∀ e, p e = true → q e = true)
    (es : List β) :
    (es.filter q).filter p = es.filter p ∧ (es.filter p).filter q = es.filter p := by
  have hboth (e : β) : (p e && q e) = p e := by
    cases hp : p e with
    | false => rfl
    | true => rw [hpq e hp]; rfl
  constructor
  · rw [List.filter_filter]
    exact List.filter_congr fun e _ => hboth e
  · rw [List.filter_filter]
    exact List.filter_congr fun e _ => (Bool.and_comm _ _).trans (hboth e)

theorem insert_comm_of_lt {name other : String} (h : name < other) (fields : List (String × α))
    (value value' : α) :
    insert (insert fields name value) other value' =
      insert (insert fields other value') name value := by
  obtain ⟨hlow, hlow'⟩ := filter_within (p := fun e : String × α => decide (e.1 < name))
    (q := fun e => decide (e.1 < other))
    (fun e he => decide_eq_true (lt_trans (of_decide_eq_true he) h)) fields
  obtain ⟨hhigh, hhigh'⟩ := filter_within (p := fun e : String × α => decide (other < e.1))
    (q := fun e => decide (name < e.1))
    (fun e he => decide_eq_true (lt_trans h (of_decide_eq_true he))) fields
  have hnone : (fields.filter (·.1 < name)).filter (other < ·.1) = [] := by
    refine List.filter_eq_nil_iff.2 fun e he hgt => ?_
    have hlt : e.1 < name := by simpa using (List.mem_filter.1 he).2
    exact lt_asymm h (lt_trans (of_decide_eq_true hgt) hlt)
  have hnone' : (fields.filter (other < ·.1)).filter (·.1 < name) = [] := by
    rw [List.filter_comm, hnone]
  have hmiddle : (fields.filter (name < ·.1)).filter (·.1 < other) =
      (fields.filter (·.1 < other)).filter (name < ·.1) := List.filter_comm ..
  have hlt : decide (name < other) = true := decide_eq_true h
  have hnot : decide (other < name) = false := decide_eq_false (lt_asymm h)
  unfold insert
  simp only [List.filter_append, List.filter_cons, hlt, hnot, hlow, hlow', hhigh, hhigh', hnone,
    hnone', hmiddle]
  simp

/-- Values under different names may be put in in either order. -/
theorem insert_comm {name other : String} (h : name ≠ other) (fields : List (String × α))
    (value value' : α) :
    insert (insert fields name value) other value' =
      insert (insert fields other value') name value := by
  rcases lt_or_gt_of_ne h with hlt | hgt
  · exact insert_comm_of_lt hlt fields value value'
  · exact (insert_comm_of_lt hgt fields value' value).symm

theorem find?_erase (fields : List (String × α)) (name other : String) :
    find? (erase fields name) other = if other = name then none else find? fields other := by
  have hfilter := find?_filter (fun key => key != name) fields other
  unfold erase
  rw [hfilter]
  by_cases h : other = name <;> simp [h]

theorem find?_cons (name : String) (value : α) (fields : List (String × α)) (other : String) :
    find? ((name, value) :: fields) other =
      if other = name then some value else find? fields other := by
  unfold find?
  rw [List.lookup_cons]
  by_cases h : other = name
  · simp [h]
  · have hne : (other == name) = false := by simpa using h
    rw [hne, if_neg h]

theorem find?_eq_none_of_lt {fields : List (String × α)} {name : String}
    (h : ∀ e ∈ fields, name < e.1) : find? fields name = none := by
  unfold find?
  rw [List.lookup_eq_none_iff]
  intro e he
  have hne : name ≠ e.1 := ne_of_lt (h e he)
  simpa using hne

theorem find?_of_mem {fields : List (String × α)} (h : InOrder fields) {e : String × α}
    (he : e ∈ fields) : find? fields e.1 = some e.2 := by
  induction fields with
  | nil => exact nomatch he
  | cons first fields ih =>
    obtain ⟨hfirst, hrest⟩ := List.pairwise_cons.1 h
    rw [find?_cons]
    rcases List.mem_cons.1 he with rfl | he
    · rw [if_pos rfl]
    · have hne : e.1 ≠ first.1 := ne_of_gt (hfirst e he)
      rw [if_neg hne]
      exact ih hrest he

theorem mem_of_find? {fields : List (String × α)} {name : String} {v : α}
    (h : find? fields name = some v) : (name, v) ∈ fields := by
  obtain ⟨before, after, hfields, -⟩ := List.lookup_eq_some_iff.1 h
  rw [hfields]
  exact List.mem_append_right before List.mem_cons_self

/-- In order, the first name is the least that has a value. -/
theorem le_of_find?_cons {name other : String} {value value' : α} {fields : List (String × α)}
    (h : InOrder ((name, value) :: fields))
    (hfind : find? ((name, value) :: fields) other = some value') : name ≤ other := by
  by_contra hless
  have hlt : other < name := lt_of_not_ge hless
  have hfirst : ∀ e ∈ fields, name < e.1 := (List.pairwise_cons.1 h).1
  have hnone : find? ((name, value) :: fields) other = none :=
    find?_eq_none_of_lt (List.forall_mem_cons.2 ⟨hlt, fun e he => lt_trans hlt (hfirst e he)⟩)
  rw [hnone] at hfind
  exact nomatch hfind

/-- Fields in order with the same look-ups are the same. -/
theorem eq_of_find?_eq {fields fields' : List (String × α)} (h : InOrder fields)
    (h' : InOrder fields') (hsame : ∀ name, find? fields name = find? fields' name) :
    fields = fields' := by
  induction fields generalizing fields' with
  | nil =>
    cases fields' with
    | nil => rfl
    | cons e rest =>
      have hself := hsame e.1
      rw [find?_cons, if_pos rfl] at hself
      exact nomatch hself
  | cons e rest ih =>
    obtain ⟨name, value⟩ := e
    obtain ⟨hfirst, hrest⟩ := List.pairwise_cons.1 h
    have hself : find? ((name, value) :: rest) name = some value := by
      rw [find?_cons, if_pos rfl]
    cases fields' with
    | nil =>
      rw [hsame] at hself
      exact nomatch hself
    | cons e' rest' =>
      obtain ⟨name', value'⟩ := e'
      obtain ⟨hfirst', hrest'⟩ := List.pairwise_cons.1 h'
      have hself' : find? ((name', value') :: rest') name' = some value' := by
        rw [find?_cons, if_pos rfl]
      -- Each of the first names has a value on the other side.
      obtain rfl : name = name' :=
        le_antisymm (le_of_find?_cons h ((hsame name').trans hself'))
          (le_of_find?_cons h' ((hsame name).symm.trans hself))
      obtain rfl : value = value' :=
        Option.some.inj (hself.symm.trans ((hsame name).trans hself'))
      have htail : rest = rest' := by
        apply ih hrest hrest'
        intro other
        by_cases hother : other = name
        · rw [hother, find?_eq_none_of_lt hfirst, find?_eq_none_of_lt hfirst']
        · have hsame' := hsame other
          rwa [find?_cons, find?_cons, if_neg hother, if_neg hother] at hsame'
      rw [htail]

/-- In order, a test of entries keeps or hides the one entry under a name. -/
theorem find?_filter_of_inOrder {fields : List (String × α)} (h : InOrder fields)
    (p : String × α → Bool) (name : String) :
    find? (fields.filter p) name = (find? fields name).filter fun v => p (name, v) := by
  induction fields with
  | nil => rfl
  | cons e fields ih =>
    obtain ⟨key, v⟩ := e
    obtain ⟨hfirst, hrest⟩ := List.pairwise_cons.1 h
    have ih := ih hrest
    rw [find?_cons]
    by_cases hname : name = key
    · have hnone : find? fields name = none := by
        rw [hname]
        exact find?_eq_none_of_lt hfirst
      rw [hnone] at ih
      subst hname
      cases hp : p (name, v) with
      | true => simp [List.filter_cons_of_pos, hp, find?_cons, Option.filter]
      | false => simp [hp, ih, Option.filter]
    · rw [if_neg hname, ← ih]
      cases hp : p (key, v) with
      | true => rw [List.filter_cons_of_pos hp, find?_cons, if_neg hname]
      | false => rw [List.filter_cons_of_neg (by simp [hp])]

theorem find?_map {β : Type u} (f : String × α → β) (fields : List (String × α)) (name : String) :
    find? (fields.map fun e => (e.1, f e)) name = (find? fields name).map fun v => f (name, v) := by
  induction fields with
  | nil => rfl
  | cons e fields ih =>
    obtain ⟨key, v⟩ := e
    rw [List.map_cons, find?_cons, find?_cons, ih]
    by_cases hname : name = key
    · rw [if_pos hname, if_pos hname, hname]
      rfl
    · rw [if_neg hname, if_neg hname]

theorem eq_nil_iff {fields : List (String × α)} :
    fields = [] ↔ ∀ name, find? fields name = none := by
  constructor
  · rintro rfl name
    rfl
  · intro h
    cases fields with
    | nil => rfl
    | cons e fields =>
      have hfirst := h e.1
      rw [find?_cons, if_pos rfl] at hfirst
      exact nomatch hfirst

end Fields

namespace FieldMap

@[simp] theorem find?_empty (name : String) : (empty : FieldMap α).find? name = none := rfl

theorem find?_insert (m : FieldMap α) (name : String) (value : α) (other : String) :
    (m.insert name value).find? other = if other = name then some value else m.find? other :=
  Fields.find?_insert m.entries name value other

theorem find?_erase (m : FieldMap α) (name other : String) :
    (m.erase name).find? other = if other = name then none else m.find? other :=
  Fields.find?_erase m.entries name other

/-- A map has under a name what the last entry under it says. -/
theorem find?_ofList_eq_getLast? (es : List (String × α)) (name : String) :
    (ofList es).find? name = ((es.filter fun e => e.1 == name).getLast?).map (·.2) := by
  have hfold (m : FieldMap α) : (es.foldl (fun m e => m.insert e.1 e.2) m).find? name =
      (((es.filter fun e => e.1 == name).getLast?).map (·.2)).or (m.find? name) := by
    induction es generalizing m with
    | nil => rfl
    | cons e es ih =>
      rw [List.foldl_cons, ih, find?_insert, List.filter_cons]
      by_cases hname : e.1 = name
      · rw [if_pos hname.symm, if_pos (beq_iff_eq.2 hname), List.getLast?_cons]
        cases (es.filter fun e => e.1 == name).getLast? <;> rfl
      · rw [if_neg fun h => hname h.symm, if_neg (mt beq_iff_eq.1 hname)]
  rw [ofList, hfold, find?_empty, Option.or_none]

/-- A name has its value in a map if every entry under it has that value. -/
theorem find?_ofList {name : String} {v : α} {es : List (String × α)}
    (hall : ∀ e ∈ es, e.1 = name → e.2 = v) (hmem : name ∈ es.map (·.1)) :
    (ofList es).find? name = some v := by
  rw [find?_ofList_eq_getLast?]
  cases hlast : (es.filter fun e => e.1 == name).getLast? with
  | none =>
    obtain ⟨e, he, hname⟩ := List.mem_map.1 hmem
    have hnone := List.filter_eq_nil_iff.1 (List.getLast?_eq_none_iff.1 hlast) e he
    exact absurd (beq_iff_eq.2 hname) hnone
  | some e =>
    obtain ⟨he, hname⟩ := List.mem_filter.1 (List.mem_of_getLast? hlast)
    exact congrArg some (hall e he (beq_iff_eq.1 hname))

theorem ext_find? {m m' : FieldMap α} (h : ∀ name, m.find? name = m'.find? name) : m = m' := by
  obtain ⟨entries, horder⟩ := m
  obtain ⟨entries', horder'⟩ := m'
  obtain rfl : entries = entries' := Fields.eq_of_find?_eq horder horder' h
  rfl

end FieldMap

namespace Record

theorem relation?_setRelation (r : Record) (name : String) (related : Related Record)
    (other : String) :
    (r.setRelation name related).relation? other =
      if other = name then some related else r.relation? other :=
  Fields.find?_insert r.relations name related other

theorem setRelation_setRelation (r : Record) (name : String) (first second : Related Record) :
    (r.setRelation name first).setRelation name second = r.setRelation name second := by
  unfold setRelation
  rw [Fields.insert_insert]

theorem setRelation_comm (r : Record) {name other : String} (h : name ≠ other)
    (related related' : Related Record) :
    (r.setRelation name related).setRelation other related' =
      (r.setRelation other related').setRelation name related := by
  unfold setRelation
  rw [Fields.insert_comm h]

end Record

end RecordQuery
