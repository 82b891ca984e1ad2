import RecordQuery.Proofs.Fields
import RecordQuery.Proofs.Loading.Closed

namespace RecordQuery.LoadPlan

def steps? (p : LoadPlan) (path : String) : Option (List FinderStep) := Fields.find? p.entries path

/-- The path leads to one of some paths, as adding these paths makes sure that it does. -/
def IsAncestor (path : String) (paths : List String) : Prop :=
  ∃ longer ∈ paths, path ∈ ancestors longer

instance (path : String) (paths : List String) : Decidable (IsAncestor path paths) :=
  inferInstanceAs (Decidable (∃ longer ∈ paths, path ∈ ancestors longer))

theorem find?_setEntry (e : String × List FinderStep) (es : List (String × List FinderStep))
    (q : String) :
    Fields.find? (setEntry e es) q = if q = e.1 then some e.2 else Fields.find? es q := by
  induction es with
  | nil => exact Fields.find?_cons e.1 e.2 [] q
  | cons f es ih =>
    unfold setEntry
    rw [Fields.find?_cons f.1 f.2 es]
    by_cases hf : f.1 = e.1
    · rw [if_pos hf, Fields.find?_cons e.1 e.2 es, hf]
      by_cases hq : q = e.1
      · rw [if_pos hq, if_pos hq]
      · rw [if_neg hq, if_neg hq, if_neg hq]
    · rw [if_neg hf, Fields.find?_cons f.1 f.2, ih]
      by_cases hq : q = f.1
      · have hne : q ≠ e.1 := fun h => hf (hq.symm.trans h)
        rw [if_pos hq, if_pos hq, if_neg hne]
      · rw [if_neg hq, if_neg hq]

theorem steps?_set (p : LoadPlan) (path : String) (steps : List FinderStep) (q : String) :
    (p.set path steps).steps? q = if q = path then some steps else p.steps? q :=
  find?_setEntry (path, steps) p.entries q

theorem steps?_eq_none {p : LoadPlan} {path : String} : p.steps? path = none ↔ path ∉ p.paths := by
  unfold steps? Fields.find? paths
  rw [List.lookup_eq_none_iff, List.mem_map]
  constructor
  · rintro h ⟨e, he, rfl⟩
    exact absurd (h e he) (by simp)
  · intro h e he
    have hne : path ≠ e.1 := fun heq => h ⟨e, he, heq.symm⟩
    simpa using hne

theorem steps?_ensure (p : LoadPlan) (path q : String) :
    (p.ensure path).steps? q = (p.steps? q).or (if q = path then some [] else none) := by
  unfold ensure
  by_cases hpath : path ∈ p.paths
  · rw [if_pos (contains_iff.2 hpath)]
    by_cases hq : q = path
    · cases hsteps : p.steps? q with
      | none => exact absurd (hq ▸ hpath) (steps?_eq_none.1 hsteps)
      | some steps => rfl
    · rw [if_neg hq, Option.or_none]
  · rw [if_neg (mt contains_iff.1 hpath)]
    have hlast : Fields.find? [(path, ([] : List FinderStep))] q =
        if q = path then some [] else none := Fields.find?_cons path [] [] q
    rw [← hlast]
    exact List.lookup_append

theorem steps?_foldl_ensure (p : LoadPlan) (more : List String) (q : String) :
    (more.foldl ensure p).steps? q = (p.steps? q).or (if q ∈ more then some [] else none) := by
  induction more generalizing p with
  | nil => simp
  | cons path more ih =>
    rw [List.foldl_cons, ih, steps?_ensure, Option.or_assoc]
    by_cases hq : q = path
    · simp [hq]
    · simp [hq]

/-- Adding a path gives it its steps. Every other path keeps its own, and an ancestor that was
missing gets none. -/
theorem steps?_add (p : LoadPlan) (path : String) (steps : List FinderStep) (q : String) :
    (p.add path steps).steps? q = if q = path then some steps
      else (p.steps? q).or (if q ∈ ancestors path then some [] else none) := by
  rw [add, steps?_set, steps?_foldl_ensure]

theorem isAncestor_cons {q path : String} {ps : List String} :
    IsAncestor q (path :: ps) ↔ q ∈ ancestors path ∨ IsAncestor q ps := by
  simp only [IsAncestor, List.mem_cons, or_and_right, exists_or, exists_eq_left]

theorem steps?_load (p : LoadPlan) (ps : List String) (q : String) :
    (p.extend (.load ps)).steps? q = if q ∈ ps then some []
      else (p.steps? q).or (if IsAncestor q ps then some [] else none) := by
  unfold extend
  induction ps generalizing p with
  | nil => simp [IsAncestor]
  | cons path ps ih =>
    rw [List.foldl_cons, ih, steps?_add]
    by_cases hlater : q ∈ ps
    · rw [if_pos hlater, if_pos (List.mem_cons_of_mem path hlater)]
    · rw [if_neg hlater]
      by_cases hq : q = path
      · have hmem : q ∈ path :: ps := hq ▸ List.mem_cons_self
        rw [if_pos hq, if_pos hmem]
        rfl
      · have hnot : q ∉ path :: ps := by simp [hq, hlater]
        rw [if_neg hq, if_neg hnot, Option.or_assoc]
        by_cases hfirst : q ∈ ancestors path
        · rw [if_pos hfirst, if_pos (isAncestor_cons.2 (.inl hfirst))]
          rfl
        · rw [if_neg hfirst, Option.none_or]
          by_cases hmore : IsAncestor q ps
          · rw [if_pos hmore, if_pos (isAncestor_cons.2 (.inr hmore))]
          · rw [if_neg hmore, if_neg fun h => (isAncestor_cons.1 h).elim hfirst hmore]

theorem steps?_ofPaths (ps : List String) (q : String) :
    (ofPaths ps).steps? q = if q ∈ ps ∨ IsAncestor q ps then some [] else none := by
  have hload := steps?_load empty ps q
  have hempty : empty.steps? q = none := rfl
  rw [hempty, Option.none_or] at hload
  by_cases hq : q ∈ ps
  · rw [if_pos (.inl hq)]
    rwa [if_pos hq] at hload
  · rw [if_neg hq] at hload
    by_cases habove : IsAncestor q ps
    · rw [if_pos (.inr habove)]
      rwa [if_pos habove] at hload
    · rw [if_neg fun h => h.elim hq habove]
      rwa [if_neg habove] at hload

/-- Of two plans the one that is taken over decides. -/
theorem steps?_merge (p : LoadPlan) {other : LoadPlan} (h : other.paths.Nodup) (q : String) :
    (p.merge other).steps? q = (other.steps? q).or (p.steps? q) := by
  obtain ⟨es⟩ := other
  unfold merge
  induction es generalizing p with
  | nil => rfl
  | cons e es ih =>
    obtain ⟨hfirst, hrest⟩ := List.nodup_cons.1 h
    have hcons : steps? ⟨e :: es⟩ q = if q = e.1 then some e.2 else steps? ⟨es⟩ q :=
      Fields.find?_cons e.1 e.2 es q
    rw [List.foldl_cons, ih _ hrest, steps?_set, hcons]
    by_cases hq : q = e.1
    · have hnone : steps? ⟨es⟩ q = none := steps?_eq_none.2 (hq ▸ hfirst)
      rw [if_pos hq, if_pos hq, hnone]
      rfl
    · rw [if_neg hq, if_neg hq]

theorem steps?_under (p : LoadPlan) (relation q : String) :
    (p.under relation).steps? q = p.steps? (relation ++ "." ++ q) := by
  obtain ⟨es⟩ := p
  unfold under steps?
  induction es with
  | nil => rfl
  | cons e es ih =>
    rw [Fields.find?_cons e.1 e.2, List.filterMap_cons]
    cases hbelow : below? relation e.1 with
    | none =>
      have hne : relation ++ "." ++ q ≠ e.1 := by
        intro heq
        rw [below?_eq_some.2 heq.symm] at hbelow
        exact nomatch hbelow
      rw [if_neg hne]
      exact ih
    | some path =>
      obtain heq := below?_eq_some.1 hbelow
      rw [Option.map_some, Fields.find?_cons, ih, heq]
      by_cases hq : q = path
      · rw [if_pos hq, if_pos (by rw [hq])]
      · have hne : relation ++ "." ++ q ≠ relation ++ "." ++ path := by
          intro h
          exact hq (by simpa using h)
        rw [if_neg hq, if_neg hne]

/-- Below a relation the plan of the level above decides over the steps of the relation. -/
theorem steps?_child {p : LoadPlan} (h : p.paths.Nodup) (relation : String)
    (steps : List FinderStep) (q : String) :
    (p.child relation steps).steps? q =
      (p.steps? (relation ++ "." ++ q)).or ((empty.extendAll steps).steps? q) := by
  rw [child, steps?_merge _ (nodup_under h relation), steps?_under]

theorem steps?_of_mem {p : LoadPlan} (h : p.paths.Nodup) {e : String × List FinderStep}
    (he : e ∈ p.entries) : p.steps? e.1 = some e.2 := by
  obtain ⟨es⟩ := p
  unfold steps?
  induction es with
  | nil => exact nomatch he
  | cons f es ih =>
    obtain ⟨hfirst, hrest⟩ := List.nodup_cons.1 h
    rw [Fields.find?_cons f.1 f.2]
    rcases List.mem_cons.1 he with rfl | he
    · rw [if_pos rfl]
    · have hne : e.1 ≠ f.1 := by
        intro heq
        have hmem : e.1 ∈ es.map (·.1) := List.mem_map_of_mem he
        rw [heq] at hmem
        exact hfirst hmem
      rw [if_neg hne]
      exact ih hrest he

/-- A plan is its paths with their steps. -/
theorem entries_eq {p : LoadPlan} (h : p.paths.Nodup) :
    p.entries = p.paths.map fun path => (path, (p.steps? path).getD []) := by
  have hsame : ∀ e ∈ p.entries, e = (e.1, (p.steps? e.1).getD []) := by
    intro e he
    rw [steps?_of_mem h he]
    rfl
  rw [paths, List.map_map]
  exact (List.map_id _).symm.trans (List.map_congr_left hsame)

theorem ext_steps? {p p' : LoadPlan} (h : p.paths.Nodup) (hpaths : p.paths = p'.paths)
    (hsteps : ∀ path, p.steps? path = p'.steps? path) : p = p' := by
  have hentries : p.entries = p'.entries := by
    have h' : p'.paths.Nodup := hpaths ▸ h
    rw [entries_eq h, entries_eq h', hpaths]
    simp only [hsteps]
  obtain ⟨es⟩ := p
  obtain rfl : es = p'.entries := hentries
  rfl

/-- The plan of some paths, made first and taken over then. -/
theorem extend_loadPlan (p : LoadPlan) (ps : List String) :
    p.extend (.loadPlan (ps.map fun path => (path, []))) = p.merge (ofPaths ps) := by
  unfold extend ofEntries ofPaths
  rw [List.foldl_map]

/-- Adding paths keeps the steps of every path that is not added itself. Taking over the plan of the
same paths leads to the same paths in the same order, but each of their ancestors loses its steps;
the two plans are the same if no ancestor had any. Below a relation the plan of the level above is
taken over into what the steps of the relation ask for, so that these lose theirs wherever the plan
has an entry. -/
theorem merged_eq_added_iff {p : LoadPlan} (h : p.paths.Nodup) (ps : List String) :
    let added := p.extend (.load ps)
    let merged := p.extend (.loadPlan (ps.map fun path => (path, [])))
    merged.paths = added.paths ∧
    (∀ path, added.steps? path = if path ∈ ps then some []
      else (p.steps? path).or (if IsAncestor path ps then some [] else none)) ∧
    (∀ path, merged.steps? path = if path ∈ ps ∨ IsAncestor path ps then some []
      else p.steps? path) ∧
    (merged = added ↔ ∀ path steps, p.steps? path = some steps → steps ≠ [] →
      IsAncestor path ps → path ∈ ps) ∧
    (∀ path steps q, (p.extend (.loadWith path steps)).steps? q = if q = path then some steps
      else (p.steps? q).or (if q ∈ ancestors path then some [] else none)) ∧
    (∀ relation steps path, (p.child relation steps).steps? path =
      (p.steps? (relation ++ "." ++ path)).or ((empty.extendAll steps).steps? path)) := by
  intro added merged
  have hmerged : merged = p.merge (ofPaths ps) := extend_loadPlan p ps
  have hpaths : merged.paths = added.paths := by
    rw [hmerged, paths_merge, paths_ofPaths, foldl_appendNew_foldl]
    exact (paths_load p ps).symm
  have hadd : ∀ path, added.steps? path = if path ∈ ps then some []
      else (p.steps? path).or (if IsAncestor path ps then some [] else none) := steps?_load p ps
  have hmerge : ∀ path, merged.steps? path = if path ∈ ps ∨ IsAncestor path ps then some []
      else p.steps? path := by
    intro path
    rw [hmerged, steps?_merge p (nodup_ofPaths ps), steps?_ofPaths]
    split
    · rfl
    · rfl
  refine ⟨hpaths, hadd, hmerge, ⟨?_, ?_⟩, steps?_add p, steps?_child h⟩
  · intro hsame path steps hsteps hne habove
    by_contra hpath
    have hlost := (hmerge path).trans (if_pos (.inr habove))
    have hthere := (hadd path).trans (if_neg hpath)
    rw [hsteps, Option.some_or] at hthere
    rw [hsame, hthere] at hlost
    exact hne (Option.some.inj hlost)
  · intro hkept
    refine ext_steps? (nodup_extend h _) hpaths fun path => ?_
    rw [hadd, hmerge]
    by_cases hpath : path ∈ ps
    · rw [if_pos hpath, if_pos (.inl hpath)]
    · rw [if_neg hpath]
      by_cases habove : IsAncestor path ps
      · rw [if_pos habove, if_pos (.inr habove)]
        cases hsteps : p.steps? path with
        | none => rfl
        | some steps =>
          by_cases hnone : steps = []
          · rw [hnone]
            rfl
          · exact absurd (hkept path steps hsteps hnone habove) hpath
      · rw [if_neg habove, if_neg fun h => h.elim hpath habove, Option.or_none]

def onlyAda : List FinderStep := [.query (.compare "LastName" .eq (.text "Ada"))]

/-- The contacts of one name are to be loaded, and then their accounts. The plan of the second path
takes the name away. -/
theorem steps_lost :
    let p := empty.extendAll [.loadWith "Contacts" onlyAda]
    p.paths.Nodup ∧
    (p.extend (.load ["Contacts.Account"])).steps? "Contacts" = some onlyAda ∧
    (p.extend (.loadPlan [("Contacts.Account", [])])).steps? "Contacts" = some [] ∧
    p.extend (.loadPlan [("Contacts.Account", [])]) ≠ p.extend (.load ["Contacts.Account"]) := by
  intro p
  have hempty : empty.paths.Nodup := List.nodup_nil
  have hnodup : p.paths.Nodup := nodup_extendAll hempty _
  obtain ⟨-, hadd, hmerge, hsame, -⟩ := merged_eq_added_iff hnodup ["Contacts.Account"]
  have habove : IsAncestor "Contacts" ["Contacts.Account"] := by decide
  have hnot : "Contacts" ∉ ["Contacts.Account"] := by decide
  have hsteps : p.steps? "Contacts" = some onlyAda := rfl
  refine ⟨hnodup, ?_, ?_, ?_⟩
  · rw [hadd, if_neg hnot, hsteps]
    rfl
  · exact (hmerge "Contacts").trans (if_pos (.inr habove))
  · intro heq
    exact hnot (hsame.1 heq "Contacts" onlyAda hsteps (List.cons_ne_nil _ _) habove)

theorem not_merged_eq_added :
    ¬∀ (before : List FinderStep) (ps : List String),
      (empty.extendAll before).extend (.loadPlan (ps.map fun path => (path, []))) =
        (empty.extendAll before).extend (.load ps) := by
  intro h
  have hsame := congrArg (fun p => p.steps? "Contacts")
    (h [.loadWith "Contacts" onlyAda] ["Contacts.Account"])
  have hlost : (some [] : Option (List FinderStep)) = some onlyAda := hsame
  exact nomatch Option.some.inj hlost

end RecordQuery.LoadPlan
