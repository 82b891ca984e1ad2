import RecordQuery.Proofs.Selection.Widened

namespace RecordQuery

namespace FinderStep

def widenedEntry (e : String × List FinderStep) : String × List FinderStep :=
  (e.1, allWidened e.2)

theorem entriesWidened_eq (entries : List (String × List FinderStep)) :
    entriesWidened entries = entries.map widenedEntry := by
  induction entries with
  | nil => rfl
  | cons e rest ih => rw [entriesWidened, ih, List.map_cons, widenedEntry]

end FinderStep

namespace LoadPlan

open FinderStep

def widened (p : LoadPlan) : LoadPlan := ⟨p.entries.map widenedEntry⟩

@[simp] theorem widened_empty : empty.widened = empty := rfl

theorem paths_widened (p : LoadPlan) : p.widened.paths = p.paths := by
  simp [paths, widened, widenedEntry, Function.comp_def]

theorem setEntry_widened (e : String × List FinderStep) (es : List (String × List FinderStep)) :
    (setEntry e es).map widenedEntry = setEntry (widenedEntry e) (es.map widenedEntry) := by
  induction es with
  | nil => rfl
  | cons f rest ih =>
    simp only [setEntry, List.map_cons, widenedEntry]
    split
    · rfl
    · rw [List.map_cons, ih]
      rfl

theorem widened_set (p : LoadPlan) (path : String) (steps : List FinderStep) :
    (p.set path steps).widened = p.widened.set path (allWidened steps) :=
  congrArg LoadPlan.mk (setEntry_widened (path, steps) p.entries)

theorem widened_ensure (p : LoadPlan) (path : String) :
    (p.ensure path).widened = p.widened.ensure path := by
  unfold ensure contains
  rw [paths_widened]
  split
  · rfl
  · simp [widened, widenedEntry, allWidened]

/-- What commutes with widening at every step does so in the end. -/
theorem widened_foldl {α : Type} {change change' : LoadPlan → α → LoadPlan}
    (h : ∀ p a, (change p a).widened = change' p.widened a) (as : List α) (p : LoadPlan) :
    (as.foldl change p).widened = as.foldl change' p.widened := by
  induction as generalizing p with
  | nil => rfl
  | cons a as ih => rw [List.foldl_cons, ih, h, List.foldl_cons]

theorem widened_add (p : LoadPlan) (path : String) (steps : List FinderStep) :
    (p.add path steps).widened = p.widened.add path (allWidened steps) := by
  rw [add, widened_set, widened_foldl widened_ensure, add]

theorem widened_ofEntries (entries : List (String × List FinderStep)) :
    (ofEntries entries).widened = ofEntries (entriesWidened entries) := by
  rw [entriesWidened_eq, ofEntries, ofEntries, List.foldl_map]
  exact widened_foldl (fun p e => widened_add p e.1 e.2) entries empty

theorem widened_merge (p other : LoadPlan) :
    (p.merge other).widened = p.widened.merge other.widened := by
  rw [merge, merge, widened, widened, widened, List.foldl_map]
  exact widened_foldl (fun p e => widened_set p e.1 e.2) other.entries p

theorem widened_under (p : LoadPlan) (relation : String) :
    (p.under relation).widened = p.widened.under relation := by
  unfold under widened
  rw [List.map_filterMap, List.filterMap_map]
  congr 1
  refine List.filterMap_congr fun e _ => ?_
  simp [widenedEntry, Function.comp_def]

mutual

theorem widened_extend (p : LoadPlan) : ∀ s : FinderStep,
    (p.extend s).widened = p.widened.extend s.widened
  | .query _ => rfl
  | .when condition steps => by
    simp only [extend, FinderStep.widened]
    split
    · exact widened_extendAll p steps
    · rfl
  | .load paths => widened_foldl (fun p path => widened_add p path []) paths p
  | .loadWith path steps => widened_add p path steps
  | .loadPlan entries => by
    simp only [extend, FinderStep.widened, widened_merge, widened_ofEntries]
  | .whereHas _ _ => rfl

theorem widened_extendAll (p : LoadPlan) : ∀ steps : List FinderStep,
    (p.extendAll steps).widened = p.widened.extendAll (allWidened steps)
  | [] => rfl
  | s :: rest => by
    simp only [extendAll, allWidened, widened_extendAll (p.extend s) rest, widened_extend p s]

end

theorem widened_child (p : LoadPlan) (relation : String) (steps : List FinderStep) :
    (p.child relation steps).widened = p.widened.child relation (allWidened steps) := by
  rw [child, widened_merge, widened_extendAll, widened_under, widened_empty, child]

mutual

def Tree.widened : Tree → Tree
  | .node relation steps below =>
    .node relation (FinderStep.allWidened steps) (Tree.allWidened below)

def Tree.allWidened : List Tree → List Tree
  | [] => []
  | tree :: rest => tree.widened :: Tree.allWidened rest

end

theorem Tree.allWidened_eq (forest : List Tree) :
    Tree.allWidened forest = forest.map Tree.widened := by
  induction forest with
  | nil => rfl
  | cons tree rest ih => rw [allWidened, ih, List.map_cons]

theorem topLevel_widened (p : LoadPlan) : p.widened.topLevel = p.topLevel.map widenedEntry := by
  rw [topLevel, topLevel, widened, List.filter_map]
  rfl

/-- Widening a plan widens its trees. -/
theorem forest_widened (p : LoadPlan) : p.widened.forest = Tree.allWidened p.forest := by
  induction hn : p.weight using Nat.strongRecOn generalizing p with
  | ind n ih =>
    rw [Tree.allWidened_eq, forest_eq, forest_eq, topLevel_widened, List.map_map, List.map_map]
    refine List.map_congr_left fun e he => ?_
    have hweight := weight_child (List.mem_filter.1 he).1
    have hbelow := ih _ (hn ▸ hweight) (p.child e.1 e.2) rfl
    simp only [Function.comp_apply, widenedEntry, Tree.widened, ← widened_child, hbelow]

mutual

/-- On no level are there two trees of one relation. -/
def Tree.Distinct : Tree → Prop
  | .node _ _ below => Tree.AllDistinct below

def Tree.AllDistinct : List Tree → Prop
  | [] => True
  | tree :: rest => tree.name ∉ rest.map Tree.name ∧ tree.Distinct ∧ Tree.AllDistinct rest

end

theorem Tree.allDistinct_of {forest : List Tree} (hnames : (forest.map Tree.name).Nodup)
    (h : ∀ tree ∈ forest, tree.Distinct) : Tree.AllDistinct forest := by
  induction forest with
  | nil => trivial
  | cons tree rest ih =>
    rw [List.map_cons, List.nodup_cons] at hnames
    exact ⟨hnames.1, h tree List.mem_cons_self,
      ih hnames.2 fun tree htree => h tree (List.mem_cons_of_mem _ htree)⟩

/-- A plan with every path once has every relation of a level once. -/
theorem distinct_forest {p : LoadPlan} (h : p.paths.Nodup) : Tree.AllDistinct p.forest := by
  induction hn : p.weight using Nat.strongRecOn generalizing p with
  | ind n ih =>
    refine Tree.allDistinct_of (nodup_forest h) fun tree htree => ?_
    rw [forest_eq] at htree
    obtain ⟨e, he, rfl⟩ := List.mem_map.1 htree
    have hweight := weight_child (List.mem_filter.1 he).1
    exact ih _ (hn ▸ hweight) (nodup_child p e.1 e.2) rfl

end LoadPlan

end RecordQuery
