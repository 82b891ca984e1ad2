import RecordQuery.Finder.Plan

namespace RecordQuery.LoadPlan

def entryWeight (e : String × List FinderStep) : Nat := e.1.length + 1 + FinderStep.weights e.2

def weight (p : LoadPlan) : Nat := total (p.entries.map entryWeight)

theorem sum_setEntry (e : String × List FinderStep) (es : List (String × List FinderStep)) :
    total ((setEntry e es).map entryWeight) ≤ total (es.map entryWeight) + entryWeight e := by
  induction es with
  | nil => simp [setEntry]
  | cons f rest ih =>
    unfold setEntry
    split <;> simp only [List.map_cons, total_cons] <;> omega

theorem weight_set (p : LoadPlan) (path : String) (steps : List FinderStep) :
    (p.set path steps).weight ≤ p.weight + (path.length + 1 + FinderStep.weights steps) :=
  sum_setEntry (path, steps) p.entries

theorem weight_ensure (p : LoadPlan) (path : String) :
    (p.ensure path).weight ≤ p.weight + (path.length + 1) := by
  unfold ensure
  split
  · omega
  · simp [weight, entryWeight, FinderStep.weights]

theorem weight_foldl_ensure (paths : List String) (p : LoadPlan) (n : Nat)
    (h : ∀ path ∈ paths, path.length + 1 ≤ n) :
    (paths.foldl ensure p).weight ≤ p.weight + paths.length * n := by
  induction paths generalizing p with
  | nil => simp
  | cons path rest ih =>
    have h₁ := weight_ensure p path
    have h₂ := ih (p.ensure path) fun q hq => h q (List.mem_cons_of_mem _ hq)
    have h₃ := h path List.mem_cons_self
    simp only [List.foldl_cons, List.length_cons, Nat.add_mul, Nat.one_mul]
    omega

/-- The characters of the segments, with one more for each. -/
def extent (segments : List (List Char)) : Nat := total (segments.map fun s => s.length + 1)

theorem extent_pieces (cs : List Char) : extent (Text.pieces '.' cs) = cs.length + 1 := by
  induction cs with
  | nil => rfl
  | cons c cs ih =>
    unfold Text.pieces
    split
    · simp only [extent, List.map_cons, total_cons, List.length_nil, List.length_cons] at ih ⊢
      omega
    · split
      · rename_i h
        rw [h] at ih
        simp [extent] at ih
      · rename_i h
        rw [h] at ih
        simp only [extent, List.map_cons, total_cons, List.length_cons] at ih ⊢
        omega

theorem length_le_extent (segments : List (List Char)) : segments.length ≤ extent segments := by
  induction segments with
  | nil => exact Nat.zero_le _
  | cons s rest ih =>
    simp only [extent, List.map_cons, total_cons, List.length_cons] at ih ⊢
    omega

theorem extent_dropLast (segments : List (List Char)) (h : segments ≠ []) :
    extent segments.dropLast + 1 ≤ extent segments := by
  induction segments with
  | nil => exact absurd rfl h
  | cons s rest ih =>
    cases rest with
    | nil => simp [extent]
    | cons t rest =>
      have h := ih (by simp)
      simp only [List.dropLast_cons_cons, extent, List.map_cons, total_cons] at h ⊢
      omega

theorem length_pathsThrough (above : List Char) (segments : List (List Char)) :
    (pathsThrough above segments).length = segments.length := by
  induction segments generalizing above with
  | nil => rfl
  | cons s rest ih => simp [pathsThrough, ih]

theorem length_of_mem_pathsThrough {above path : List Char} {segments : List (List Char)}
    (h : path ∈ pathsThrough above segments) : path.length ≤ above.length + extent segments := by
  induction segments generalizing above with
  | nil => simp [pathsThrough] at h
  | cons s rest ih =>
    have hnext : (if above.isEmpty then s else above ++ '.' :: s).length ≤
        above.length + (s.length + 1) := by
      split
      · omega
      · simp only [List.length_append, List.length_cons]
        omega
    simp only [pathsThrough, List.mem_cons] at h
    simp only [extent, List.map_cons, total_cons] at ih ⊢
    rcases h with rfl | h
    · omega
    · have := ih h
      omega

theorem length_ancestors (path : String) : (ancestors path).length ≤ path.length := by
  have h₁ := length_le_extent (Text.pieces '.' path.toList).dropLast
  have h₂ := extent_pieces path.toList
  have h₃ := extent_dropLast (Text.pieces '.' path.toList) (by
    intro h
    rw [h] at h₂
    simp [extent] at h₂)
  simp only [ancestors, List.length_map, length_pathsThrough]
  simp only [String.length_toList] at h₂
  omega

theorem length_of_mem_ancestors {path ancestor : String} (h : ancestor ∈ ancestors path) :
    ancestor.length ≤ path.length := by
  have h₂ := extent_pieces path.toList
  have h₃ := extent_dropLast (Text.pieces '.' path.toList) (by
    intro h
    rw [h] at h₂
    simp [extent] at h₂)
  obtain ⟨cs, hcs, rfl⟩ := List.mem_map.1 h
  have h₁ := length_of_mem_pathsThrough hcs
  simp only [String.length_toList] at h₂
  simp only [String.length_ofList, List.length_nil] at h₁ ⊢
  omega

theorem weight_add (p : LoadPlan) (path : String) (steps : List FinderStep) :
    (p.add path steps).weight ≤
      p.weight + (FinderStep.pathWeight path.length + FinderStep.weights steps) := by
  have h₁ := weight_set ((ancestors path).foldl ensure p) path steps
  have h₂ := weight_foldl_ensure (ancestors path) p (path.length + 1) fun a ha =>
    Nat.succ_le_succ (length_of_mem_ancestors ha)
  have h₃ := Nat.mul_le_mul_right (path.length + 1) (length_ancestors path)
  have h₄ : path.length * (path.length + 1) = path.length * path.length + path.length :=
    Nat.mul_succ _ _
  unfold add FinderStep.pathWeight
  omega

theorem weight_ofEntries (entries : List (String × List FinderStep)) (p : LoadPlan) :
    (entries.foldl (fun p e => p.add e.1 e.2) p).weight ≤
      p.weight + FinderStep.entryWeights entries := by
  induction entries generalizing p with
  | nil => simp [FinderStep.entryWeights]
  | cons e rest ih =>
    have h₁ := weight_add p e.1 e.2
    have h₂ := ih (p.add e.1 e.2)
    simp only [List.foldl_cons, FinderStep.entryWeights]
    omega

theorem weight_merge (p other : LoadPlan) : (p.merge other).weight ≤ p.weight + other.weight := by
  obtain ⟨entries⟩ := other
  unfold merge
  induction entries generalizing p with
  | nil => simp [weight]
  | cons e rest ih =>
    have h₁ := weight_set p e.1 e.2
    have h₂ := ih (p.set e.1 e.2)
    simp only [weight, List.foldl_cons, List.map_cons, total_cons, entryWeight] at h₁ h₂ ⊢
    omega

theorem weight_load (paths : List String) (p : LoadPlan) :
    (paths.foldl (fun p path => p.add path []) p).weight ≤
      p.weight + total (paths.map fun q => FinderStep.pathWeight q.length) := by
  induction paths generalizing p with
  | nil => simp
  | cons path rest ih =>
    have h₁ := weight_add p path []
    have h₂ := ih (p.add path [])
    simp only [FinderStep.weights] at h₁
    simp only [List.foldl_cons, List.map_cons, total_cons]
    omega

mutual

theorem weight_extend (p : LoadPlan) (s : FinderStep) :
    (p.extend s).weight ≤ p.weight + s.weight := by
  cases s with
  | query s => simp [extend]
  | when condition steps =>
    have h := weight_extendAll p steps
    simp only [extend, FinderStep.weight]
    split <;> omega
  | load paths => exact weight_load paths p
  | loadWith path steps => exact weight_add p path steps
  | loadPlan entries =>
    have h₁ := weight_merge p (ofEntries entries)
    have h₂ := weight_ofEntries entries empty
    have h₃ : empty.weight = 0 := rfl
    simp only [extend, FinderStep.weight, ofEntries] at h₁ ⊢
    omega
  | whereHas relation steps => simp [extend]

theorem weight_extendAll (p : LoadPlan) (steps : List FinderStep) :
    (p.extendAll steps).weight ≤ p.weight + FinderStep.weights steps := by
  cases steps with
  | nil => simp [extendAll]
  | cons s rest =>
    have h₁ := weight_extend p s
    have h₂ := weight_extendAll (p.extend s) rest
    simp only [extendAll, FinderStep.weights]
    omega

end

/-- The plan of the query of a relation: what its own steps ask for, and what the plan of the level
above has below the relation. -/
def child (p : LoadPlan) (relation : String) (steps : List FinderStep) : LoadPlan :=
  (empty.extendAll steps).merge (p.under relation)

theorem length_of_below? {relation path rest : String} (h : below? relation path = some rest) :
    rest.length + relation.length + 1 = path.length := by
  unfold below? Text.after? at h
  split at h
  · rename_i hp
    obtain ⟨cs, hcs⟩ := List.isPrefixOf_iff_prefix.1 hp
    simp only [Option.map_some, Option.some.injEq] at h
    rw [← h, ← String.length_toList (s := path), ← hcs]
    simp only [String.length_ofList, List.length_drop, List.length_append, String.length_toList,
      List.length_cons, List.length_nil]
    omega
  · simp at h

theorem below?_self (relation : String) : below? relation relation = none := by
  cases h : below? relation relation with
  | none => rfl
  | some rest =>
    have := length_of_below? h
    omega

theorem entryWeight_below {relation rest : String} {e : String × List FinderStep}
    (h : below? relation e.1 = some rest) : entryWeight (rest, e.2) ≤ entryWeight e := by
  have := length_of_below? h
  simp only [entryWeight]
  omega

theorem weight_under_le (p : LoadPlan) (relation : String) :
    (p.under relation).weight ≤ p.weight := by
  obtain ⟨entries⟩ := p
  unfold under weight
  induction entries with
  | nil => simp
  | cons e rest ih =>
    simp only [List.filterMap_cons, List.map_cons, total_cons] at ih ⊢
    cases h : below? relation e.1 with
    | none =>
      simp only [Option.map_none]
      omega
    | some path =>
      have := entryWeight_below h
      simp only [Option.map_some, List.map_cons, total_cons]
      omega

theorem weight_under {p : LoadPlan} {relation : String} {steps : List FinderStep}
    (h : (relation, steps) ∈ p.entries) :
    (p.under relation).weight + entryWeight (relation, steps) ≤ p.weight := by
  obtain ⟨entries⟩ := p
  induction entries with
  | nil => simp at h
  | cons e rest ih =>
    rcases List.mem_cons.1 h with rfl | h
    · have := weight_under_le ⟨rest⟩ relation
      simp only [under, weight, List.filterMap_cons, below?_self, Option.map_none, List.map_cons,
        total_cons] at this ⊢
      omega
    · have := ih h
      simp only [under, weight, List.filterMap_cons, List.map_cons, total_cons] at this ⊢
      cases hb : below? relation e.1 with
      | none =>
        simp only [Option.map_none]
        omega
      | some path =>
        have := entryWeight_below hb
        simp only [Option.map_some, List.map_cons, total_cons]
        omega

theorem weight_child {p : LoadPlan} {relation : String} {steps : List FinderStep}
    (h : (relation, steps) ∈ p.entries) : (p.child relation steps).weight < p.weight := by
  have h₁ := weight_merge (empty.extendAll steps) (p.under relation)
  have h₂ := weight_extendAll empty steps
  have h₃ := weight_under h
  have h₄ : empty.weight = 0 := rfl
  simp only [entryWeight] at h₃
  unfold child
  omega

/-- A relation to load, the steps for its query, and the relations to load below it. -/
inductive Tree where
  | node (relation : String) (steps : List FinderStep) (below : List Tree)

/-- The plan level by level. The weight falls from level to level, because the paths below a
relation are shorter and its steps have been used up. -/
def forest (p : LoadPlan) : List Tree :=
  p.topLevel.attach.map fun ⟨(relation, steps), _h⟩ =>
    .node relation steps (p.child relation steps).forest
termination_by p.weight
decreasing_by exact weight_child (List.mem_filter.1 _h).1

end RecordQuery.LoadPlan
