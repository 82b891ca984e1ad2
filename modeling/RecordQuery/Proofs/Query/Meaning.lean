import RecordQuery.Proofs.Query.Normal

namespace RecordQuery

open Text

mutual

def Term.Holds (v : Comparison → Prop) : Term → Prop
  | .comparison c => v c
  | .group c => Condition.HoldsAfter v True c

/-- The truth of a condition after the terms that `AND` ties to its first one. -/
def Condition.HoldsAfter (v : Comparison → Prop) : Prop → Condition → Prop
  | p, .one t => p ∧ Term.Holds v t
  | p, .more t .and c => Condition.HoldsAfter v (p ∧ Term.Holds v t) c
  | p, .more t .or c => (p ∧ Term.Holds v t) ∨ Condition.HoldsAfter v True c

end

/-- The truth of a condition. -/
def Condition.Holds (v : Comparison → Prop) (c : Condition) : Prop := c.HoldsAfter v True

mutual

/-- The truth of a clause. Nothing is in an empty set, and everything is outside it. -/
def Clause.Holds (d : Dialect) (v : Comparison → Prop) : Clause → Prop
  | .compare field op value => v ⟨field, op, .literal (d.literal field value)⟩
  | .isIn field values => values ≠ [] ∧ v ⟨field, .isIn, .literal (d.literalList field values)⟩
  | .notIn field values => values = [] ∨ v ⟨field, .notIn, .literal (d.literalList field values)⟩
  | .inText field query => v ⟨field, .isIn, .subselect query⟩
  | .notInText field query => v ⟨field, .notIn, .subselect query⟩
  | .null field => v ⟨field, .eq, .literal "null"⟩
  | .notNull field => v ⟨field, .ne, .literal "null"⟩
  | .moment field op m => v ⟨field, op, .literal m.text⟩
  | .boolean field op value => v ⟨field, op, .literal (Value.boolText value)⟩
  | .inSelect field op query =>
    ∀ text, query.text d.plain = .ok text → v ⟨field, op, .subselect text⟩
  | .group clauses => Clause.AllHold d v clauses

def Clause.AllHold (d : Dialect) (v : Comparison → Prop) : List Clause → Prop
  | [] => True
  | c :: cs => Clause.Holds d v c ∧ Clause.AllHold d v cs

end

theorem Clause.allHold_iff {d : Dialect} {v : Comparison → Prop} {cs : List Clause} :
    Clause.AllHold d v cs ↔ ∀ c ∈ cs, c.Holds d v := by
  induction cs with
  | nil => simp [Clause.AllHold]
  | cons c cs ih => simp [Clause.AllHold, ih]

/-- A field is null or it is not. -/
def TellsNull (v : Comparison → Prop) : Prop :=
  ∀ field, v ⟨field, .ne, .literal "null"⟩ ↔ ¬v ⟨field, .eq, .literal "null"⟩

theorem tellsNull_eq : TellsNull fun c => c.op = .eq := by
  intro field
  simp

mutual

def Term.Unmixed : Term → Prop
  | .comparison _ => True
  | .group c => Condition.Joined .and c ∨ Condition.Joined .or c

/-- Every connective on the level is this one, and in each group there is only one. -/
def Condition.Joined (k : Connective) : Condition → Prop
  | .one t => t.Unmixed
  | .more t k' c => t.Unmixed ∧ k' = k ∧ Condition.Joined k c

end

/-- `AND` and `OR` never stand on one level. -/
def Condition.Unmixed (c : Condition) : Prop := c.Joined .and ∨ c.Joined .or

namespace Condition

theorem Joined.join {k : Connective} {c c' : Condition} (h : c.Joined k) (h' : c'.Joined k) :
    (c.join k c').Joined k :=
  match c, h with
  | .one _, h => ⟨h, rfl, h'⟩
  | .more _ _ _, ⟨ht, hk, hc⟩ => ⟨ht, hk, hc.join h'⟩

theorem holdsAfter_iff {v : Comparison → Prop} (p : Prop) : ∀ {c : Condition}, c.Joined .and →
    (c.HoldsAfter v p ↔ p ∧ c.Holds v)
  | .one t, _ => by simp [HoldsAfter, Holds]
  | .more t .and c, ⟨_, _, hc⟩ => by
    have hp := holdsAfter_iff (v := v) (p ∧ t.Holds v) hc
    have htrue := holdsAfter_iff (v := v) (True ∧ t.Holds v) hc
    rw [Holds, HoldsAfter, HoldsAfter, hp, htrue, true_and, and_assoc]

/-- Conditions that are tied by `AND` hold together. -/
theorem holdsAfter_join {v : Comparison → Prop} {c' : Condition} (h' : c'.Joined .and) :
    ∀ {c : Condition}, c.Joined .and → ∀ p : Prop,
      ((c.join .and c').HoldsAfter v p ↔ c.HoldsAfter v p ∧ c'.Holds v)
  | .one _, _, _ => holdsAfter_iff _ h'
  | .more _ .and _, ⟨_, _, hc⟩, _ => holdsAfter_join h' hc _

end Condition

/-- A condition, if there is one, means a proposition; where there is none the proposition is
true. -/
structure Condition.Means (v : Comparison → Prop) (c? : Option Condition) (p : Prop) : Prop where
  joined : ∀ c ∈ c?, c.Joined .and
  truth : (∀ c ∈ c?, c.Holds v) ↔ p

namespace Condition.Means

variable {v : Comparison → Prop} {p q : Prop} {c? d? : Option Condition}

theorem one {t : Term} (hunmixed : t.Unmixed) (h : t.Holds v ↔ p) : Means v (some (.one t)) p where
  joined := by
    rintro _ ⟨⟩
    exact hunmixed
  truth := by simp [Holds, HoldsAfter, h]

theorem atom (field : String) (op : Operator) (x : Operand) :
    Means v (some (.atom field op x)) (v ⟨field, op, x⟩) :=
  one trivial Iff.rfl

theorem join (h : Means v c? p) (h' : Means v d? q) :
    Means v (Option.merge (.join .and) c? d?) (p ∧ q) := by
  have hboth : (∀ c ∈ Option.merge (.join .and) c? d?, c.Holds v) ↔
      (∀ c ∈ c?, c.Holds v) ∧ ∀ c ∈ d?, c.Holds v := by
    cases c? with
    | none => simp
    | some c =>
      cases d? with
      | none => simp
      | some c' =>
        have hjoin : (c.join .and c').Holds v ↔ c.Holds v ∧ c'.Holds v :=
          holdsAfter_join (h'.joined c' rfl) (h.joined c rfl) True
        simpa using hjoin
  refine ⟨?_, hboth.trans (and_congr h.truth h'.truth)⟩
  cases c? with
  | none => simpa using h'.joined
  | some c =>
    cases d? with
    | none => simpa using h.joined
    | some c' =>
      rintro _ ⟨⟩
      exact (h.joined c rfl).join (h'.joined c' rfl)

theorem group (h : Means v c? p) : Means v (c?.map fun c => .one (.group c)) p := by
  cases c? with
  | none => exact ⟨(fun _ hc => nomatch hc), by simpa using h.truth⟩
  | some c =>
    have htruth : c.Holds v ↔ p := by simpa using h.truth
    exact one (.inl (h.joined c rfl)) htruth

end Condition.Means

mutual

/-- The condition of a clause means the clause. -/
theorem Clause.condition?_means {d : Dialect} {v : Comparison → Prop} (hv : TellsNull v) :
    ∀ c : Clause, Condition.Means v (Clause.condition? d c) (c.Holds d v)
  | .compare field op value => .atom field op _
  | .isIn field values => by
    rw [Clause.condition?, Clause.Holds]
    by_cases h : values = []
    · -- No brackets stand around the contradiction, so it has to join a level of `AND`.
      have hnever : v ⟨field, .eq, .literal "null"⟩ ∧ v ⟨field, .ne, .literal "null"⟩ ↔
          values ≠ [] ∧ v ⟨field, .isIn, .literal (d.literalList field values)⟩ := by
        simp [h, hv field]
      rw [if_pos (by simpa using h), ← hnever]
      exact Condition.Means.join (.atom ..) (.atom ..)
    · simp only [List.isEmpty_iff, h, if_false, ne_eq, not_false_eq_true, true_and]
      exact .atom ..
  | .notIn field values => by
    rw [Clause.condition?, Clause.Holds]
    by_cases h : values = []
    · rw [if_pos (by simpa using h)]
      refine .one (.inr ⟨trivial, rfl, trivial⟩) (iff_of_true ?_ (.inl h))
      have heither : v ⟨field, .eq, .literal "null"⟩ ∨ v ⟨field, .ne, .literal "null"⟩ := by
        rw [hv field]
        exact Classical.em _
      exact heither.imp (fun heq => ⟨trivial, heq⟩) (fun hne => ⟨trivial, hne⟩)
    · simp only [List.isEmpty_iff, h, if_false, false_or]
      exact .atom ..
  | .inText field query => .atom ..
  | .notInText field query => .atom ..
  | .null field => .atom ..
  | .notNull field => .atom ..
  | .moment field op m => .atom ..
  | .boolean field op value => .atom ..
  | .inSelect field op query => by
    rw [Clause.condition?, Clause.Holds]
    cases query.text d.plain with
    | ok text => simpa using Condition.Means.atom ..
    | error fault => exact ⟨(fun _ hc => nomatch hc), by simp⟩
  | .group clauses => by
    rw [Clause.condition?, Clause.Holds]
    exact (Clause.conjunction?_means hv clauses).group

theorem Clause.conjunction?_means {d : Dialect} {v : Comparison → Prop} (hv : TellsNull v) :
    ∀ cs : List Clause, Condition.Means v (Clause.conjunction? d cs) (Clause.AllHold d v cs)
  | [] => by
    rw [Clause.conjunction?, Clause.AllHold]
    exact ⟨(fun _ hc => nomatch hc), by simp⟩
  | c :: cs => by
    rw [Clause.conjunction?, Clause.AllHold]
    exact (Clause.condition?_means hv c).join (Clause.conjunction?_means hv cs)

end

/-- Clauses over names that can be written: either no condition is written and they hold whatever
is true, or the written condition can be read, never has `AND` and `OR` on one level, and is true
exactly when every clause holds. -/
theorem Clause.written_means {d : Dialect} (hd : d.Named) {cs : List Clause}
    (hcs : ∀ c ∈ cs, c.Named) {parts : List String} (h : Clause.texts d cs = .ok parts) :
    (segment " WHERE " " AND " parts = "" ∧
      ∀ v, TellsNull v → ∀ c ∈ cs, c.Holds d v) ∨
    ∃ text condition, segment " WHERE " " AND " parts = " WHERE " ++ text ∧
      Condition.ofText? text = some condition ∧ condition.Unmixed ∧
      ∀ v, TellsNull v → (condition.Holds v ↔ ∀ c ∈ cs, c.Holds d v) := by
  have hsays := Clause.says_conjunction (fun c hc => Clause.says_condition (hcs c hc) hd) h
  have hmeans {v : Comparison → Prop} (hv : TellsNull v) :=
    Clause.conjunction?_means (d := d) hv cs
  unfold conjoined at hsays
  unfold segment
  split at hsays
  · rename_i hempty
    left
    rw [if_pos hempty]
    refine ⟨rfl, fun v hv => ?_⟩
    generalize Clause.conjunction? d cs = c? at hsays hmeans
    cases hsays
    exact Clause.allHold_iff.1 ((hmeans hv).truth.1 fun _ hc => nomatch hc)
  · rename_i hsome
    right
    rw [if_neg hsome]
    generalize Clause.conjunction? d cs = c? at hsays hmeans
    cases hsays with
    | @text condition _ hwrites =>
      refine ⟨_, condition, rfl, Condition.ofText?_spaced hwrites.sound hwrites.words, ?_, ?_⟩
      · exact .inl ((hmeans tellsNull_eq).joined condition rfl)
      · intro v hv
        rw [← Clause.allHold_iff, ← (hmeans hv).truth]
        simp

/-- Empty sets outside and inside a group, and a group that says nothing. -/
def emptySets : List Clause :=
  [.notIn "Name" [], .group [.isIn "Id" [], .group []], .compare "Name" .like (.text "A%")]

/-- The empty set of identifiers makes the written condition false. -/
theorem emptySets_written :
    (∀ c ∈ emptySets, c.Named) ∧
    Clause.texts ⟨none, []⟩ emptySets = .ok ["(Name = null OR Name != null)",
      "(Id = null AND Id != null)", "Name LIKE 'A%'"] ∧
    ∃ condition, Condition.ofText? ("(Name = null OR Name != null) AND " ++
        "(Id = null AND Id != null) AND Name LIKE 'A%'") = some condition ∧
      condition.Unmixed ∧ ∀ v, TellsNull v → ¬condition.Holds v := by
  have hname : IsName "Name" := ⟨by decide, by decide⟩
  have hid : IsName "Id" := ⟨by decide, by decide⟩
  have hnamed : ∀ c ∈ emptySets, c.Named := by
    intro c hc
    simp only [emptySets, List.mem_cons, List.not_mem_nil, or_false] at hc
    rcases hc with rfl | rfl | rfl
    · exact .notIn hname
    · refine .group fun c hc => ?_
      simp only [List.mem_cons, List.not_mem_nil, or_false] at hc
      rcases hc with rfl | rfl
      · exact .isIn hid
      · exact .group fun c hc => absurd hc List.not_mem_nil
    · exact .compare hname
  have htexts : Clause.texts ⟨none, []⟩ emptySets = .ok ["(Name = null OR Name != null)",
      "(Id = null AND Id != null)", "Name LIKE 'A%'"] := by
    rfl
  refine ⟨hnamed, htexts, ?_⟩
  obtain ⟨hnothing, -⟩ | ⟨text, condition, htext, hread, hunmixed, hmeans⟩ :=
    Clause.written_means (d := ⟨none, []⟩) (fun n hn => absurd hn List.not_mem_nil) hnamed htexts
  · exact absurd hnothing (by decide)
  · obtain rfl : text = "(Name = null OR Name != null) AND " ++
        "(Id = null AND Id != null) AND Name LIKE 'A%'" := by
      have hwhere : " WHERE " ++ ("(Name = null OR Name != null) AND " ++
        "(Id = null AND Id != null) AND Name LIKE 'A%'") = " WHERE " ++ text := htext
      exact (String.append_right_inj _).1 hwhere.symm
    refine ⟨condition, hread, hunmixed, fun v hv hholds => ?_⟩
    have hid := (hmeans v hv).1 hholds (.group [.isIn "Id" [], .group []]) (by simp [emptySets])
    exact hid.1.1 rfl

end RecordQuery
