import RecordQuery.Proofs.Loading.Cost
import RecordQuery.Proofs.Loading.Prefixes

namespace RecordQuery.LoadPlan

mutual

/-- The names from the root down to each node of a tree, in the order in which the nodes are met. -/
def Tree.walk : Tree → List (List String)
  | .node relation _ below => [relation] :: (walkAll below).map (relation :: ·)

def walkAll : List Tree → List (List String)
  | [] => []
  | tree :: rest => tree.walk ++ walkAll rest

end

variable {p : LoadPlan}

theorem walkAll_eq_flatMap (forest : List Tree) : walkAll forest = forest.flatMap Tree.walk := by
  induction forest with
  | nil => rfl
  | cons tree rest ih => rw [walkAll, ih, List.flatMap_cons]

theorem walkAll_forest_eq (p : LoadPlan) :
    walkAll p.forest = p.topLevel.flatMap fun e =>
      [e.1] :: (walkAll (p.child e.1 e.2).forest).map (e.1 :: ·) := by
  rw [walkAll_eq_flatMap, forest_eq, List.flatMap_map]
  exact List.flatMap_congr fun e _ => by rw [Tree.walk]

def branch (p : LoadPlan) (relation : String) : List String :=
  relation :: (p.under relation).paths.map fun path => relation ++ "." ++ path

theorem mem_branch {relation q : String} :
    q ∈ p.branch relation ↔ q = relation ∨ (LeadsTo relation q ∧ q ∈ p.paths) := by
  unfold branch
  simp only [List.mem_cons, List.mem_map, mem_paths_under]
  constructor
  · rintro (rfl | ⟨path, hpath, rfl⟩)
    · exact .inl rfl
    · exact .inr ⟨⟨path, rfl⟩, hpath⟩
  · rintro (rfl | ⟨⟨path, rfl⟩, hpath⟩)
    · exact .inl rfl
    · exact .inr ⟨path, hpath, rfl⟩

theorem root_of_mem_branch {relation q : String} (htop : isTop relation)
    (h : q ∈ p.branch relation) : root q = relation := by
  rcases mem_branch.1 h with rfl | ⟨⟨path, rfl⟩, -⟩
  · exact root_of_isTop htop
  · exact root_below htop path

theorem nodup_branch (h : p.paths.Nodup) (relation : String) : (p.branch relation).Nodup := by
  refine List.nodup_cons.2 ⟨?_, ?_⟩
  · intro hmem
    obtain ⟨path, -, heq⟩ := List.mem_map.1 hmem
    have hself := below?_self relation
    rw [below?_eq_some.2 heq.symm] at hself
    exact nomatch hself
  · refine (nodup_under h relation).map fun a b hab => ?_
    simpa using hab

/-- Every path of a closed plan is in the branch of exactly one relation of the first level. -/
theorem branches_perm (hclosed : p.Closed) (hnodup : p.paths.Nodup) :
    (p.topLevel.flatMap fun e => p.branch e.1).Perm p.paths := by
  have htop : ∀ e ∈ p.topLevel, isTop e.1 := fun e he => (List.mem_filter.1 he).2
  have hbranches : (p.topLevel.flatMap fun e => p.branch e.1).Nodup := by
    refine List.nodup_flatMap.2 ⟨fun e _ => nodup_branch hnodup e.1, ?_⟩
    have hnames := List.pairwise_map.1 (nodup_topLevel hnodup)
    refine List.Pairwise.imp_of_mem ?_ hnames
    intro e f he hf hne q hqe hqf
    exact hne ((root_of_mem_branch (htop e he) hqe).symm.trans (root_of_mem_branch (htop f hf) hqf))
  refine (List.perm_ext_iff_of_nodup hbranches hnodup).2 fun q => ?_
  rw [List.mem_flatMap]
  constructor
  · rintro ⟨e, he, hq⟩
    rcases mem_branch.1 hq with rfl | ⟨-, hmem⟩
    · exact List.mem_map_of_mem (List.mem_filter.1 he).1
    · exact hmem
  · intro hq
    -- The first name of the path, which a closed plan has too.
    obtain ⟨relation, hrelation, hmem, hstart⟩ :
        ∃ relation, isTop relation ∧ relation ∈ p.paths ∧ (q = relation ∨ LeadsTo relation q) := by
      by_cases hone : isTop q
      · exact ⟨q, hone, hq, .inl rfl⟩
      · obtain ⟨relation, rest, hrelation, rfl⟩ := exists_below hone
        exact ⟨relation, hrelation, hclosed _ hq _ ⟨rest, rfl⟩, .inr ⟨rest, rfl⟩⟩
    obtain ⟨e, he, rfl⟩ := List.mem_map.1 hmem
    exact ⟨e, List.mem_filter.2 ⟨he, hrelation⟩, mem_branch.2 (hstart.imp_right fun h => ⟨h, hq⟩)⟩

theorem segments_branch {relation : String} (htop : isTop relation) :
    (p.branch relation).map segments =
      [relation] :: ((p.under relation).paths.map segments).map (relation :: ·) := by
  rw [branch, List.map_cons, segments_of_isTop htop, List.map_map, List.map_map]
  exact congrArg _ (List.map_congr_left fun path _ => segments_below htop path)

theorem closed_child (h : p.Closed) (hnodup : p.paths.Nodup) (relation : String) :
    (p.child relation []).Closed := by
  have hpaths := paths_perm (child_perm_under hnodup relation)
  intro path hpath above habove
  exact hpaths.mem_iff.2 (closed_under h relation path (hpaths.mem_iff.1 hpath) above habove)

/-- The walk over a closed plan without steps meets each of its paths once, by its names. -/
theorem walkAll_perm (hclosed : p.Closed) (hnodup : p.paths.Nodup)
    (hplain : ∀ e ∈ p.entries, e.2 = []) : (walkAll p.forest).Perm (p.paths.map segments) := by
  -- On the weight, as the plan below a relation is lighter than the plan it comes from.
  induction hn : p.weight using Nat.strongRecOn generalizing p with
  | ind n ih =>
    have htree : ∀ e ∈ p.topLevel,
        ([e.1] :: (walkAll (p.child e.1 e.2).forest).map (e.1 :: ·)).Perm
          ((p.branch e.1).map segments) := by
      rintro ⟨relation, steps⟩ he
      obtain ⟨hmem, htop⟩ := List.mem_filter.1 he
      obtain rfl : steps = [] := hplain _ hmem
      have hperm := child_perm_under hnodup relation
      have hplain' : ∀ e ∈ (p.child relation []).entries, e.2 = [] :=
        fun e he => no_steps_under hplain relation e (hperm.mem_iff.1 he)
      have hbelow := ih _ (hn ▸ weight_child hmem) (closed_child hclosed hnodup relation)
        (nodup_child p relation []) hplain' rfl
      rw [segments_branch htop]
      exact ((hbelow.trans ((paths_perm hperm).map segments)).map _).cons _
    rw [walkAll_forest_eq]
    refine (List.Perm.flatMap_left _ htree).trans ?_
    rw [← List.map_flatMap]
    exact (branches_perm hclosed hnodup).map segments

/-- The plan of paths without empty names has what the paths begin with and nothing else, each once:
what stands first when every path is written out with what it begins with before it. Asking for a
path with what it begins with, just before it or anywhere after it, makes the same plan. The walk
over the plan meets each of its paths exactly once, as deep as it has names. -/
theorem ofPaths_walk (ps : List String) (h : ∀ path ∈ ps, Segmented path) :
    (ofPaths ps).entries = (ps.flatMap prefixes).eraseDups.map (fun path => (path, [])) ∧
    (ofPaths ps).paths.Nodup ∧
    (∀ q, q ∈ (ofPaths ps).paths ↔ ∃ path ∈ ps, q = path ∨ LeadsTo q path) ∧
    (∀ front path rest shorts, ps = front ++ path :: rest →
      (∀ short ∈ shorts, short = path ∨ LeadsTo short path) →
      ofPaths (front ++ shorts ++ path :: rest) = ofPaths ps ∧
      ∀ rest',
        rest'.filter (fun q => q ∉ prefixes path) = rest.filter (fun q => q ∉ prefixes path) →
        ofPaths (front ++ path :: rest') = ofPaths ps) ∧
    (walkAll (ofPaths ps).forest).Perm ((ofPaths ps).paths.map segments) := by
  have hpaths := paths_ofPaths_eq h
  have hentries : (ofPaths ps).entries =
      (ps.flatMap prefixes).eraseDups.map fun path => (path, []) := by
    rw [entries_ofPaths, hpaths]
  have hplain : ∀ e ∈ (ofPaths ps).entries, e.2 = [] := by
    intro e he
    rw [entries_ofPaths] at he
    obtain ⟨path, -, rfl⟩ := List.mem_map.1 he
    rfl
  have hclosed := closed_ofPaths fun path hpath => regular_of_segmented (h path hpath)
  refine ⟨hentries, nodup_ofPaths ps, fun q => ?_, ?_,
    walkAll_perm hclosed (nodup_ofPaths ps) hplain⟩
  · rw [hpaths, List.mem_eraseDups, List.mem_flatMap]
    refine exists_congr fun path => and_congr_right fun hpath => mem_prefixes (h path hpath)
  · rintro front path rest shorts rfl hshorts
    have hpath := h path (by simp)
    have hwith (more : List String) (hmore : ∀ short ∈ more, short ∈ prefixes path) :=
      ofPaths_with_prefixes hpath hmore front
    have halone := hwith [] (List.forall_mem_nil _)
    simp only [List.append_nil] at halone
    constructor
    · rw [hwith shorts fun short hshort => (mem_prefixes hpath).2 (hshorts short hshort), ← halone]
    · intro rest' hrest'
      rw [halone rest', halone rest, hrest']

/-- Two relations whose names begin alike. -/
theorem walk_alike :
    let ps := ["Case.Owner", "CaseLines", "Case"]
    (∀ path ∈ ps, Segmented path) ∧
    (ofPaths ps).paths = ["Case", "Case.Owner", "CaseLines"] ∧
    ofPaths ps = ofPaths ["Case.Owner", "CaseLines"] ∧
    (walkAll (ofPaths ps).forest).Perm [["Case"], ["Case", "Owner"], ["CaseLines"]] := by
  intro ps
  have hps : ∀ path ∈ ps, Segmented path := by decide
  have hshort : ∀ path ∈ ["Case.Owner", "CaseLines"], Segmented path := by decide
  have hpaths : (ofPaths ps).paths = ["Case", "Case.Owner", "CaseLines"] := by decide
  obtain ⟨-, -, -, -, hwalk⟩ := ofPaths_walk ps hps
  obtain ⟨-, -, -, hsame, -⟩ := ofPaths_walk _ hshort
  obtain ⟨-, hafter⟩ := hsame [] "Case.Owner" ["CaseLines"] [] rfl (List.forall_mem_nil _)
  rw [hpaths] at hwalk
  exact ⟨hps, hpaths, hafter ["CaseLines", "Case"] (by decide), hwalk⟩

end RecordQuery.LoadPlan
