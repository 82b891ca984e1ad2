import Mathlib.Data.List.Nodup
import RecordQuery.Finder.Forest

namespace RecordQuery.LoadPlan

/-- The paths with one more at the end, if it is not there yet. -/
def appendNew (paths : List String) (path : String) : List String :=
  if path ∈ paths then paths else paths ++ [path]

theorem mem_appendNew {paths : List String} {path q : String} :
    q ∈ appendNew paths path ↔ q ∈ paths ∨ q = path := by
  unfold appendNew
  split
  · rename_i hpath
    constructor
    · exact .inl
    · rintro (hq | rfl)
      · exact hq
      · exact hpath
  · rw [List.mem_append, List.mem_singleton]

theorem mem_foldl_appendNew {paths more : List String} {q : String} :
    q ∈ more.foldl appendNew paths ↔ q ∈ paths ∨ q ∈ more := by
  induction more generalizing paths with
  | nil => simp
  | cons path more ih => rw [List.foldl_cons, ih, mem_appendNew, List.mem_cons, or_assoc]

theorem nodup_appendNew {paths : List String} (h : paths.Nodup) (path : String) :
    (appendNew paths path).Nodup := by
  unfold appendNew
  split
  · exact h
  · rename_i hpath
    rw [← List.concat_eq_append]
    exact List.Nodup.concat hpath h

theorem nodup_foldl_appendNew {paths : List String} (h : paths.Nodup) (more : List String) :
    (more.foldl appendNew paths).Nodup := by
  induction more generalizing paths with
  | nil => exact h
  | cons path more ih => exact ih (nodup_appendNew h path)

/-- Paths can be put together first and appended then. -/
theorem foldl_appendNew_foldl (paths first more : List String) :
    (more.foldl appendNew first).foldl appendNew paths =
      more.foldl appendNew (first.foldl appendNew paths) := by
  induction more generalizing first with
  | nil => rfl
  | cons path more ih =>
    have hstep : (appendNew first path).foldl appendNew paths =
        appendNew (first.foldl appendNew paths) path := by
      by_cases hpath : path ∈ first
      · have hthere : path ∈ first.foldl appendNew paths := mem_foldl_appendNew.2 (.inr hpath)
        rw [appendNew, if_pos hpath, appendNew, if_pos hthere]
      · rw [appendNew, if_neg hpath, List.foldl_append]
        rfl
    rw [List.foldl_cons, ih, hstep, List.foldl_cons]

theorem paths_setEntry (e : String × List FinderStep) (es : List (String × List FinderStep)) :
    (setEntry e es).map (·.1) = appendNew (es.map (·.1)) e.1 := by
  unfold appendNew
  induction es with
  | nil => simp [setEntry]
  | cons f rest ih =>
    unfold setEntry
    by_cases hf : f.1 = e.1
    · simp [hf]
    · have hne : e.1 ≠ f.1 := fun h => hf h.symm
      rw [if_neg hf, List.map_cons, ih, List.map_cons]
      by_cases he : e.1 ∈ rest.map (·.1)
      · rw [if_pos he, if_pos (List.mem_cons_of_mem _ he)]
      · rw [if_neg he, if_neg (by simpa [hne] using he), List.cons_append]

theorem paths_set (p : LoadPlan) (path : String) (steps : List FinderStep) :
    (p.set path steps).paths = appendNew p.paths path :=
  paths_setEntry (path, steps) p.entries

theorem contains_iff {p : LoadPlan} {path : String} : p.contains path ↔ path ∈ p.paths := by
  unfold contains
  rw [List.contains_iff_mem]

theorem paths_ensure (p : LoadPlan) (path : String) :
    (p.ensure path).paths = appendNew p.paths path := by
  unfold ensure appendNew
  by_cases hpath : path ∈ p.paths
  · rw [if_pos (contains_iff.2 hpath), if_pos hpath]
  · rw [if_neg (mt contains_iff.1 hpath), if_neg hpath]
    simp [paths]

/-- Operations that each append one path append all of theirs. -/
theorem paths_foldl {α : Type} {change : LoadPlan → α → LoadPlan} {pathOf : α → String}
    (hchange : ∀ p a, (change p a).paths = appendNew p.paths (pathOf a)) (as : List α)
    (p : LoadPlan) : (as.foldl change p).paths = (as.map pathOf).foldl appendNew p.paths := by
  induction as generalizing p with
  | nil => rfl
  | cons a as ih => rw [List.foldl_cons, ih, hchange, List.map_cons, List.foldl_cons]

theorem paths_add (p : LoadPlan) (path : String) (steps : List FinderStep) :
    (p.add path steps).paths = (ancestors path ++ [path]).foldl appendNew p.paths := by
  have hensured : ((ancestors path).foldl ensure p).paths =
      ((ancestors path).map id).foldl appendNew p.paths := paths_foldl paths_ensure _ p
  rw [List.map_id] at hensured
  rw [add, paths_set, hensured, List.foldl_append]
  rfl

/-- Every path that adding these paths puts in, in this order. -/
def allAncestors (paths : List String) : List String :=
  paths.flatMap fun path => ancestors path ++ [path]

theorem paths_load (p : LoadPlan) (ps : List String) :
    (p.extend (.load ps)).paths = (allAncestors ps).foldl appendNew p.paths := by
  unfold extend allAncestors
  induction ps generalizing p with
  | nil => rfl
  | cons path ps ih =>
    rw [List.foldl_cons, ih, paths_add, List.flatMap_cons, ← List.foldl_append]

theorem paths_ofPaths (ps : List String) :
    (ofPaths ps).paths = (allAncestors ps).foldl appendNew [] := paths_load empty ps

theorem paths_merge (p other : LoadPlan) :
    (p.merge other).paths = other.paths.foldl appendNew p.paths :=
  paths_foldl (fun p e => paths_set p e.1 e.2) other.entries p

theorem nodup_set {p : LoadPlan} (h : p.paths.Nodup) (path : String) (steps : List FinderStep) :
    (p.set path steps).paths.Nodup := by
  rw [paths_set]
  exact nodup_appendNew h path

theorem nodup_add {p : LoadPlan} (h : p.paths.Nodup) (path : String) (steps : List FinderStep) :
    (p.add path steps).paths.Nodup := by
  rw [paths_add]
  exact nodup_foldl_appendNew h _

theorem nodup_ofPaths (ps : List String) : (ofPaths ps).paths.Nodup := by
  rw [paths_ofPaths]
  exact nodup_foldl_appendNew List.nodup_nil _

theorem nodup_merge {p : LoadPlan} (h : p.paths.Nodup) (other : LoadPlan) :
    (p.merge other).paths.Nodup := by
  rw [paths_merge]
  exact nodup_foldl_appendNew h _

mutual

theorem nodup_extend {p : LoadPlan} (h : p.paths.Nodup) (s : FinderStep) :
    (p.extend s).paths.Nodup := by
  cases s with
  | query _ => exact h
  | when condition steps =>
    cases condition with
    | true => exact nodup_extendAll h steps
    | false => exact h
  | load paths =>
    rw [paths_load]
    exact nodup_foldl_appendNew h _
  | loadWith path steps => exact nodup_add h path steps
  | loadPlan entries => exact nodup_merge h _
  | whereHas _ _ => exact h

theorem nodup_extendAll {p : LoadPlan} (h : p.paths.Nodup) (steps : List FinderStep) :
    (p.extendAll steps).paths.Nodup := by
  cases steps with
  | nil => exact h
  | cons s rest => exact nodup_extendAll (nodup_extend h s) rest

end

theorem nodup_child (p : LoadPlan) (relation : String) (steps : List FinderStep) :
    (p.child relation steps).paths.Nodup := by
  have hempty : empty.paths.Nodup := List.nodup_nil
  exact nodup_merge (nodup_extendAll hempty steps) _

theorem nodup_topLevel {p : LoadPlan} (h : p.paths.Nodup) : (p.topLevel.map (·.1)).Nodup :=
  h.sublist (List.filter_sublist.map _)

/-- The relation at the root of a tree. -/
def Tree.name : Tree → String
  | .node relation _ _ => relation

theorem forest_eq (p : LoadPlan) :
    p.forest = p.topLevel.map fun e => .node e.1 e.2 (p.child e.1 e.2).forest := by
  let tree (e : String × List FinderStep) : Tree := .node e.1 e.2 (p.child e.1 e.2).forest
  calc
    p.forest = p.topLevel.attach.map fun e => tree e.1 := by rw [forest]
    _ = p.topLevel.map tree := List.attach_map_val

/-- A plan has one tree for each relation of its first level. -/
theorem nodup_forest {p : LoadPlan} (h : p.paths.Nodup) : (p.forest.map Tree.name).Nodup := by
  have hnames : p.forest.map Tree.name = p.topLevel.map (·.1) := by
    rw [forest_eq, List.map_map]
    rfl
  rw [hnames]
  exact nodup_topLevel h

end RecordQuery.LoadPlan
