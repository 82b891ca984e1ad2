import Mathlib.Algebra.Order.BigOperators.Group.List
import RecordQuery.Proofs.Loading.Calls
import RecordQuery.Proofs.Loading.Permuted
import RecordQuery.Sample.Crm

namespace RecordQuery

/-- The relation that segments lead to from a type, if each of them names one. -/
def Catalog.reached (c : Catalog) (t : ObjectType) : List (List Char) → Option Relation
  | [] => none
  | [segment] => (t.relation (String.ofList segment)).toOption
  | segment :: next :: rest => do
    let r ← (t.relation (String.ofList segment)).toOption
    c.reached (c.describe r.related) (next :: rest)

/-- How many queries the relation at the end of a path takes. A path that names no relation takes
none. -/
def Catalog.queries (c : Catalog) (t : ObjectType) (path : String) : Nat :=
  match c.reached t (Text.pieces '.' path.toList) with
  | none => 0
  | some r => r.linkage.queries

namespace LoadPlan

variable {τ σ : Type} {c : Catalog} {t : ObjectType} {p : LoadPlan} {relation : String}

theorem pieces_of_isTop (htop : isTop relation) :
    Text.pieces '.' relation.toList = [relation.toList] :=
  Text.pieces_of_not_mem (by simpa [isTop] using htop)

theorem pieces_below (htop : isTop relation) (path : String) :
    Text.pieces '.' (relation ++ "." ++ path).toList =
      relation.toList :: Text.pieces '.' path.toList := by
  have hdot : '.' ∉ relation.toList := by simpa [isTop] using htop
  rw [← Text.pieces_append hdot]
  simp

theorem queries_of_isTop (htop : isTop relation) {r : Relation}
    (hr : t.relation relation = .ok r) : c.queries t relation = r.linkage.queries := by
  simp only [Catalog.queries, pieces_of_isTop htop, Catalog.reached, String.ofList_toList, hr,
    Except.toOption]

/-- Below a relation a path goes on from the related type. -/
theorem queries_below (htop : isTop relation) {r : Relation} (hr : t.relation relation = .ok r)
    (path : String) :
    c.queries t (relation ++ "." ++ path) = c.queries (c.describe r.related) path := by
  unfold Catalog.queries
  rw [pieces_below htop]
  cases hpieces : Text.pieces '.' path.toList with
  | nil => exact absurd hpieces (Text.pieces_ne_nil '.' path.toList)
  | cons next rest =>
    simp only [Catalog.reached, String.ofList_toList, hr, Except.toOption]
    rfl

/-- The relation that a path begins with. -/
def root (path : String) : String := String.ofList ((Text.pieces '.' path.toList).headD [])

theorem root_of_isTop (htop : isTop relation) : root relation = relation := by
  rw [root, pieces_of_isTop htop]
  exact String.ofList_toList

theorem root_below (htop : isTop relation) (path : String) :
    root (relation ++ "." ++ path) = relation := by
  rw [root, pieces_below htop]
  exact String.ofList_toList

/-- The paths that begin with a relation are the relation itself and the paths below it. -/
theorem total_root_le (htop : isTop relation) (cost : String → Nat) (paths : List String) :
    (if relation ∈ paths then cost relation else 0) +
        total ((paths.filterMap (below? relation)).map fun q => cost (relation ++ "." ++ q)) ≤
      total ((paths.filter fun path => root path = relation).map cost) := by
  induction paths with
  | nil => simp
  | cons path paths ih =>
    cases hbelow : below? relation path with
    | some q =>
      obtain rfl := below?_eq_some.1 hbelow
      have hne : relation ≠ relation ++ "." ++ q := by
        intro heq
        rw [← heq, below?_self] at hbelow
        exact nomatch hbelow
      have hroot := root_below htop q
      simp only [List.mem_cons, hne, false_or, List.filterMap_cons, hbelow, List.map_cons,
        total_cons, List.filter_cons, hroot, decide_true, if_true] at ih ⊢
      omega
    | none =>
      by_cases hself : relation = path
      · subst hself
        simp only [List.mem_cons, true_or, List.filterMap_cons, hbelow, List.filter_cons,
          root_of_isTop htop, decide_true, if_true, List.map_cons, total_cons] at ih ⊢
        split at ih <;> omega
      · have hmore : total ((paths.filter fun path => root path = relation).map cost) ≤
            total (((path :: paths).filter fun path => root path = relation).map cost) := by
          rw [List.filter_cons]
          split
          · exact Nat.le_add_left _ _
          · exact Nat.le_refl _
        simp only [List.mem_cons, hself, false_or, List.filterMap_cons, hbelow]
        exact ih.trans hmore

/-- What is counted in groups is counted at most once. -/
theorem total_groups_le {α : Type} (group : α → String) (cost : α → Nat) {names : List String}
    (hnames : names.Nodup) (as : List α) :
    total (names.map fun name => total ((as.filter fun a => group a = name).map cost)) ≤
      total (as.map cost) := by
  induction names generalizing as with
  | nil => exact Nat.zero_le _
  | cons name names ih =>
    rw [List.nodup_cons] at hnames
    have hsplit : total ((as.filter fun a => group a = name).map cost) +
        total ((as.filter fun a => ¬group a = name).map cost) = total (as.map cost) :=
      List.sum_map_filter_add_sum_map_filter_not (fun a => group a = name) cost as
    -- The groups of the other names are not in the group that is split off.
    have hother : ∀ other ∈ names, (as.filter fun a => ¬group a = name).filter
        (fun a => group a = other) = as.filter fun a => group a = other := by
      intro other hmem
      have hne : other ≠ name := fun heq => hnames.1 (heq ▸ hmem)
      rw [List.filter_filter]
      refine List.filter_congr fun a _ => ?_
      by_cases ha : group a = other <;> simp [ha, hne]
    have hsame : names.map (fun other => total (((as.filter fun a => ¬group a = name).filter
        fun a => group a = other).map cost)) =
          names.map fun other => total ((as.filter fun a => group a = other).map cost) :=
      List.map_congr_left fun other hmem => by rw [hother other hmem]
    have hrest := ih hnames.2 (as.filter fun a => ¬group a = name)
    rw [hsame] at hrest
    rw [List.map_cons, total_cons]
    omega

theorem allQueries_eq (c : Catalog) (t : ObjectType) (forest : List Tree) :
    Tree.allQueries c t forest = total (forest.map (Tree.queries c t)) := by
  induction forest with
  | nil => rfl
  | cons tree rest ih => rw [Tree.allQueries, ih, List.map_cons, total_cons]

theorem no_steps_under (h : ∀ e ∈ p.entries, e.2 = []) (relation : String) :
    ∀ e ∈ (p.under relation).entries, e.2 = [] := by
  intro e he
  obtain ⟨e', he', hbelow⟩ := List.mem_filterMap.1 he
  obtain ⟨path, -, rfl⟩ := Option.map_eq_some_iff.1 hbelow
  exact h e' he'

/-- The relations of a plan without steps take what its paths take, and each path is taken up
once. -/
theorem allQueries_forest_le (c : Catalog) {p : LoadPlan} (hnodup : p.paths.Nodup)
    (hplain : ∀ e ∈ p.entries, e.2 = []) (t : ObjectType) :
    Tree.allQueries c t p.forest ≤ total (p.paths.map (c.queries t)) := by
  -- On the weight, as the plan below a relation is lighter than the plan it comes from.
  induction hn : p.weight using Nat.strongRecOn generalizing p t with
  | ind n ih =>
    let group (name : String) := total ((p.paths.filter fun path => root path = name).map
      (c.queries t))
    have htree : ∀ e ∈ p.topLevel,
        (Tree.node e.1 e.2 (p.child e.1 e.2).forest).queries c t ≤ group e.1 := by
      rintro ⟨relation, steps⟩ he
      obtain ⟨hmem, htop⟩ := List.mem_filter.1 he
      obtain rfl : steps = [] := hplain _ hmem
      rw [Tree.queries]
      cases hr : t.relation relation with
      | error fault => exact Nat.zero_le _
      | ok r =>
        have hperm := child_perm_under hnodup relation
        have hbelow := ih _ (hn ▸ weight_child hmem)
          (nodup_child p relation [])
          (fun e he => no_steps_under hplain relation e (hperm.mem_iff.1 he))
          (c.describe r.related) rfl
        have hsame : total ((p.child relation []).paths.map (c.queries (c.describe r.related))) =
            total ((p.under relation).paths.map (c.queries (c.describe r.related))) :=
          ((paths_perm hperm).map _).sum_eq
        rw [hsame] at hbelow
        have hroot := total_root_le htop (c.queries t) p.paths
        have hpath : relation ∈ p.paths := List.mem_map_of_mem hmem
        rw [if_pos hpath, queries_of_isTop htop hr, funext (queries_below htop hr),
          ← paths_under] at hroot
        exact (Nat.add_le_add_left hbelow _).trans hroot
    calc
      Tree.allQueries c t p.forest =
          total (p.topLevel.map fun e =>
            (Tree.node e.1 e.2 (p.child e.1 e.2).forest).queries c t) := by
        rw [allQueries_eq, forest_eq, List.map_map]
        rfl
      _ ≤ total (p.topLevel.map fun e => group e.1) := List.sum_le_sum htree
      _ = total ((p.topLevel.map (·.1)).map group) := by
        rw [List.map_map]
        rfl
      _ ≤ total (p.paths.map (c.queries t)) :=
        total_groups_le root (c.queries t) (nodup_topLevel hnodup) p.paths

/-- A plan without steps makes at most the queries that its paths take, and each of them with the
pages that it may have; for no records it makes no call at all. -/
theorem load_queries_le (hnodup : p.paths.Nodup) (hplain : ∀ e ∈ p.entries, e.2 = [])
    (store : Store τ σ) (t : ObjectType) (records : List Record)
    (s : Session (τ × List Call) σ) :
    let bound := total (p.paths.map (store.catalog.queries t))
    ∃ made, ((p.load store.recorded t records).run s).2.transport.2 = s.transport.2 ++ made ∧
      (made.filter Call.isQuery).length ≤ bound ∧ made.length ≤ bound * store.pages ∧
      (records = [] → made = []) := by
  intro bound
  unfold load
  split
  · rename_i hnone
    exact ⟨[], (List.append_nil _).symm, Nat.zero_le _, Nat.zero_le _, fun _ => rfl⟩
  · rename_i hsome
    obtain ⟨made, hcalls, hqueries, hlength⟩ := asksAtMost_loadForest store t records p.forest s
    have hbound := allQueries_forest_le store.catalog hnodup hplain t
    refine ⟨made, hcalls, hqueries.trans hbound,
      hlength.trans (Nat.mul_le_mul_right store.pages hbound), fun hnone => ?_⟩
    exact absurd (List.isEmpty_iff.2 hnone) hsome

end LoadPlan

namespace Crm

/-- From accounts to their contacts and back to accounts, and through the junction to campaigns. -/
def circle : LoadPlan :=
  .ofPaths ["Contacts.Account.Contacts", "Contacts.Campaigns", "Contacts.Nowhere"]

theorem entries_circle : circle.entries = [("Contacts", []), ("Contacts.Account", []),
    ("Contacts.Account.Contacts", []), ("Contacts.Campaigns", []), ("Contacts.Nowhere", [])] := by
  with_unfolding_all rfl

/-- A store of Crm objects that finds nothing. -/
def emptyStore : Store (List Page) Unit :=
  .scripted (fun object => .ok ⟨object, [("Id", .text)]⟩) catalog

def keyedAccount : Record := .ofAttributes "Account" [("Id", .text "001")]

/-- Five queries do for the circle. -/
theorem circle_queries :
    circle.paths.Nodup ∧ (∀ e ∈ circle.entries, e.2 = []) ∧
    total (circle.paths.map (catalog.queries account)) = 5 ∧
    ∃ made, ((circle.load emptyStore.recorded account [keyedAccount]).run
        ⟨([], []), (), []⟩).2.transport.2 = made ∧
      (made.filter Call.isQuery).length ≤ 5 ∧ made.length ≤ 5 * emptyStore.pages ∧
      ([keyedAccount] = [] → made = []) := by
  have hnodup : circle.paths.Nodup := by
    simp [LoadPlan.paths, entries_circle]
  have hplain : ∀ e ∈ circle.entries, e.2 = [] := by
    simp [entries_circle]
  have hcost : total (circle.paths.map (catalog.queries account)) = 5 := by
    rw [LoadPlan.paths, entries_circle]
    with_unfolding_all rfl
  have hload := LoadPlan.load_queries_le hnodup hplain emptyStore account [keyedAccount]
    ⟨([], []), (), []⟩
  have hcatalog : emptyStore.catalog = catalog := rfl
  rw [hcatalog, hcost] at hload
  exact ⟨hnodup, hplain, hcost, hload⟩

end Crm

end RecordQuery
