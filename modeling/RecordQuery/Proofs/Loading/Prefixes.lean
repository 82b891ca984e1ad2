import Mathlib.Data.List.Infix
import RecordQuery.Proofs.Loading.Merged

namespace RecordQuery.LoadPlan

/-- The names between the dots of a path. -/
def segments (path : String) : List String := (Text.pieces '.' path.toList).map String.ofList

/-- No name between the dots is empty. -/
def Segmented (path : String) : Prop := "" ∉ segments path

instance (path : String) : Decidable (Segmented path) :=
  inferInstanceAs (Decidable (¬"" ∈ segments path))

def dotted (names : List String) : String := ".".intercalate names

/-- What a path begins with, itself included, from the shortest to the longest. -/
def prefixes (path : String) : List String := (segments path).inits.tail.map dotted

theorem dotted_cons (name : String) {names : List String} (h : names ≠ []) :
    dotted (name :: names) = name ++ "." ++ dotted names := by
  cases names with
  | nil => exact absurd rfl h
  | cons next rest =>
    apply String.toList_inj.1
    simp only [dotted, String.toList_intercalate, List.map_cons, List.intercalate_cons_cons,
      String.toList_append]

theorem dotted_singleton (name : String) : dotted [name] = name := rfl

/-- A name and the next one with a dot between them are as good as two names. -/
theorem dotted_cons_cons (name next : String) (rest : List String) :
    dotted (name :: next :: rest) = dotted ((name ++ "." ++ next) :: rest) := by
  rw [dotted_cons name (List.cons_ne_nil next rest)]
  cases rest with
  | nil => rfl
  | cons more rest =>
    rw [dotted_cons next (List.cons_ne_nil more rest), dotted_cons _ (List.cons_ne_nil more rest)]
    simp only [String.append_assoc]

theorem segments_ne_nil (path : String) : segments path ≠ [] :=
  mt List.map_eq_nil_iff.1 (Text.pieces_ne_nil '.' path.toList)

theorem segments_of_isTop {relation : String} (htop : isTop relation) :
    segments relation = [relation] := by
  have hdot : '.' ∉ relation.toList := by simpa [isTop] using htop
  rw [segments, Text.pieces_of_not_mem hdot, List.map_singleton, String.ofList_toList]

theorem segments_below {relation : String} (htop : isTop relation) (path : String) :
    segments (relation ++ "." ++ path) = relation :: segments path := by
  have hdot : '.' ∉ relation.toList := by simpa [isTop] using htop
  have hlist : (relation ++ "." ++ path).toList = relation.toList ++ '.' :: path.toList := by simp
  rw [segments, hlist, Text.pieces_append hdot, List.map_cons, String.ofList_toList]
  rfl

/-- A path of more than one name goes on with a dot after the first. -/
theorem exists_below {path : String} (h : ¬isTop path) :
    ∃ relation rest, isTop relation ∧ path = relation ++ "." ++ rest := by
  have hdot : '.' ∈ path.toList := by simpa [isTop] using h
  obtain ⟨front, rest, hpath, hfront⟩ := List.eq_append_cons_of_mem hdot
  refine ⟨String.ofList front, String.ofList rest, by simpa [isTop] using hfront, ?_⟩
  exact String.toList_inj.1 (by simp [hpath])

theorem dotted_segments (path : String) : dotted (segments path) = path := by
  -- On the length: the rest after the first dot is shorter.
  induction hn : path.length using Nat.strongRecOn generalizing path with
  | ind n ih =>
    by_cases htop : isTop path
    · rw [segments_of_isTop htop, dotted_singleton]
    · obtain ⟨relation, rest, hrelation, rfl⟩ := exists_below htop
      have hshorter : rest.length < n := by
        rw [← hn]
        simp only [String.length_append]
        have hdot : ".".length = 1 := rfl
        omega
      rw [segments_below hrelation, dotted_cons _ (segments_ne_nil rest), ih _ hshorter rest rfl]

/-- Names without dots come apart again. -/
theorem segments_dotted {names : List String} (h : ∀ name ∈ names, isTop name) (hne : names ≠ []) :
    segments (dotted names) = names := by
  induction names with
  | nil => exact absurd rfl hne
  | cons name rest ih =>
    have hname := h name List.mem_cons_self
    cases rest with
    | nil => rw [dotted_singleton, segments_of_isTop hname]
    | cons next rest =>
      have hrest := ih (fun other hother => h other (List.mem_cons_of_mem _ hother))
        (List.cons_ne_nil next rest)
      rw [dotted_cons _ (List.cons_ne_nil next rest), segments_below hname, hrest]

theorem isTop_of_mem_segments {name path : String} (h : name ∈ segments path) : isTop name := by
  induction hn : path.length using Nat.strongRecOn generalizing path with
  | ind n ih =>
    by_cases htop : isTop path
    · rw [segments_of_isTop htop, List.mem_singleton] at h
      rwa [h]
    · obtain ⟨relation, rest, hrelation, rfl⟩ := exists_below htop
      rw [segments_below hrelation, List.mem_cons] at h
      rcases h with rfl | h
      · exact hrelation
      · refine ih rest.length ?_ h rfl
        rw [← hn]
        simp only [String.length_append]
        have hdot : ".".length = 1 := rfl
        omega

theorem inits_eq_cons (names : List String) : names.inits = [] :: names.inits.tail := by
  cases names with
  | nil => rfl
  | cons _ _ => rfl

theorem inits_tail_cons (name : String) (names : List String) :
    (name :: names).inits.tail = [name] :: names.inits.tail.map (name :: ·) := by
  rw [List.inits_cons, List.tail_cons]
  nth_rewrite 1 [inits_eq_cons]
  rfl

theorem inits_tail_append (names more : List String) :
    (names ++ more).inits.tail = names.inits.tail ++ more.inits.tail.map (names ++ ·) := by
  rw [List.inits_append]
  nth_rewrite 1 [inits_eq_cons]
  rfl

/-- Below a path that is there, each name leads one step further. -/
theorem pathsThrough_below {above : List Char} (h : above ≠ []) (names : List (List Char)) :
    (pathsThrough above names).map String.ofList =
      (names.map String.ofList).inits.tail.map fun front =>
        dotted (String.ofList above :: front) := by
  induction names generalizing above with
  | nil => rfl
  | cons name rest ih =>
    have hopen : above ++ '.' :: name ≠ [] := by simp
    have hpath : String.ofList (above ++ '.' :: name) =
        String.ofList above ++ "." ++ String.ofList name := String.toList_inj.1 (by simp)
    rw [pathsThrough, if_neg (by simpa using h), List.map_cons, ih hopen, List.map_cons,
      inits_tail_cons, List.map_cons, List.map_map, hpath]
    refine congrArg₂ List.cons rfl (List.map_congr_left fun front _ => ?_)
    exact (dotted_cons_cons _ _ front).symm

theorem pathsThrough_names {names : List (List Char)} (h : [] ∉ names) :
    (pathsThrough [] names).map String.ofList =
      (names.map String.ofList).inits.tail.map dotted := by
  cases names with
  | nil => rfl
  | cons name rest =>
    have hname : name ≠ [] := fun heq => h (heq ▸ List.mem_cons_self)
    rw [pathsThrough, if_pos List.isEmpty_nil, List.map_cons, pathsThrough_below hname,
      List.map_cons, inits_tail_cons, List.map_cons, List.map_map, dotted_singleton]
    rfl

theorem nil_not_mem_pieces {path : String} (h : Segmented path) :
    [] ∉ Text.pieces '.' path.toList :=
  fun hmem => h (List.mem_map_of_mem (f := String.ofList) hmem)

/-- A path is added with what it begins with, in this order. -/
theorem ancestors_append {path : String} (h : Segmented path) :
    ancestors path ++ [path] = prefixes path := by
  have hnonempty := nil_not_mem_pieces h
  have hlast : segments path =
      (segments path).dropLast ++ [(segments path).getLast (segments_ne_nil path)] :=
    (List.dropLast_append_getLast (segments_ne_nil path)).symm
  have hstart : ancestors path = (segments path).dropLast.inits.tail.map dotted := by
    rw [ancestors, pathsThrough_names fun hmem => hnonempty (List.dropLast_subset _ hmem), segments,
      List.map_dropLast]
  have hone (name : String) : [name].inits.tail = [[name]] := rfl
  rw [prefixes, hlast, inits_tail_append, hone, List.map_append, ← hstart, List.map_singleton,
    List.map_singleton, ← hlast, dotted_segments]

theorem regular_of_segmented {path : String} (h : Segmented path) : Regular path := by
  rintro rest rfl
  refine absurd ?_ (nil_not_mem_pieces h)
  have hlist : ("." ++ rest).toList = '.' :: rest.toList := by simp
  rw [hlist, Text.pieces, if_pos rfl]
  exact List.mem_cons_self

theorem mem_prefixes {path q : String} (h : Segmented path) :
    q ∈ prefixes path ↔ q = path ∨ LeadsTo q path := by
  rw [← ancestors_append h, List.mem_append, List.mem_singleton,
    mem_ancestors_of_regular (regular_of_segmented h), or_comm]

/-- A path begins with its first names, so many of them as one likes. -/
theorem exists_of_mem_prefixes {path q : String} (h : q ∈ prefixes path) :
    ∃ more, segments path = segments q ++ more := by
  obtain ⟨names, hnames, rfl⟩ := List.mem_map.1 h
  obtain ⟨more, hmore⟩ := (List.mem_inits _ _).1 (List.mem_of_mem_tail hnames)
  have hne : names ≠ [] := by
    rintro rfl
    cases hpath : segments path with
    | nil => exact segments_ne_nil path hpath
    | cons name rest => simp [hpath] at hnames
  have htop : ∀ name ∈ names, isTop name := by
    intro name hname
    have hmem : name ∈ segments path := hmore ▸ List.mem_append_left more hname
    exact isTop_of_mem_segments hmem
  exact ⟨more, by rw [segments_dotted htop hne, hmore]⟩

/-- What a path begins with begins with the same, as far as it goes. -/
theorem prefixes_eq_append {path q : String} (h : q ∈ prefixes path) :
    ∃ more, prefixes path = prefixes q ++ more := by
  obtain ⟨more, hmore⟩ := exists_of_mem_prefixes h
  exact ⟨_, by rw [prefixes, hmore, inits_tail_append, List.map_append]; rfl⟩

theorem segmented_of_mem_prefixes {path q : String} (h : Segmented path) (hq : q ∈ prefixes path) :
    Segmented q := by
  obtain ⟨more, hmore⟩ := exists_of_mem_prefixes hq
  exact fun hempty => h (hmore ▸ List.mem_append_left more hempty)

theorem foldl_appendNew_eq_eraseDups (paths : List String) :
    paths.foldl appendNew [] = paths.eraseDups := by
  induction paths using List.reverseRecOn with
  | nil => rfl
  | append_singleton paths path ih =>
    rw [List.foldl_append, ih, List.eraseDups_append, List.foldl_cons, List.foldl_nil, appendNew]
    by_cases hpath : path ∈ paths
    · have hnone : [path].removeAll paths = [] := by simp [List.removeAll, hpath]
      rw [if_pos (List.mem_eraseDups.2 hpath), hnone, List.eraseDups_nil, List.append_nil]
    · have hone : [path].removeAll paths = [path] := by simp [List.removeAll, hpath]
      rw [if_neg (mt List.mem_eraseDups.1 hpath), hone]
      rfl

theorem foldl_appendNew_of_subset {paths more : List String} (h : more ⊆ paths) :
    more.foldl appendNew paths = paths := by
  induction more with
  | nil => rfl
  | cons path more ih =>
    rw [List.foldl_cons, appendNew, if_pos (h List.mem_cons_self)]
    exact ih fun q hq => h (List.mem_cons_of_mem path hq)

/-- Paths that are there already are not added again. -/
theorem foldl_appendNew_append {paths first : List String} (more : List String) :
    (first ++ more).foldl appendNew (first.foldl appendNew paths) =
      (first ++ more).foldl appendNew paths := by
  have hsub : first ⊆ first.foldl appendNew paths := fun q hq => mem_foldl_appendNew.2 (.inr hq)
  rw [List.foldl_append, foldl_appendNew_of_subset hsub, List.foldl_append]

theorem allAncestors_append (ps qs : List String) :
    allAncestors (ps ++ qs) = allAncestors ps ++ allAncestors qs := List.flatMap_append

theorem allAncestors_cons {path : String} (h : Segmented path) (ps : List String) :
    allAncestors (path :: ps) = prefixes path ++ allAncestors ps := by
  rw [allAncestors, List.flatMap_cons, ancestors_append h]
  rfl

theorem paths_ofPaths_eq {ps : List String} (h : ∀ path ∈ ps, Segmented path) :
    (ofPaths ps).paths = (ps.flatMap prefixes).eraseDups := by
  have hall : allAncestors ps = ps.flatMap prefixes :=
    List.flatMap_congr fun path hpath => ancestors_append (h path hpath)
  rw [paths_ofPaths, hall, foldl_appendNew_eq_eraseDups]

/-- The plan of some paths has steps for none of them. -/
theorem entries_ofPaths (ps : List String) :
    (ofPaths ps).entries = (ofPaths ps).paths.map fun path => (path, []) := by
  refine (entries_eq (nodup_ofPaths ps)).trans (List.map_congr_left fun path _ => ?_)
  rw [steps?_ofPaths]
  split
  · rfl
  · rfl

theorem ofPaths_congr {ps qs : List String}
    (h : (allAncestors ps).foldl appendNew [] = (allAncestors qs).foldl appendNew []) :
    ofPaths ps = ofPaths qs := by
  rw [← paths_ofPaths, ← paths_ofPaths] at h
  have hentries : (ofPaths ps).entries = (ofPaths qs).entries := by
    rw [entries_ofPaths, entries_ofPaths, h]
  exact congrArg LoadPlan.mk hentries

/-- Before a path, what it begins with adds nothing of its own. -/
theorem foldl_before {path : String} (h : Segmented path) {shorts : List String}
    (hshorts : ∀ short ∈ shorts, short ∈ prefixes path) (paths : List String) :
    (allAncestors shorts ++ prefixes path).foldl appendNew paths =
      (prefixes path).foldl appendNew paths := by
  induction shorts generalizing paths with
  | nil => rfl
  | cons short shorts ih =>
    have hshort := hshorts short List.mem_cons_self
    obtain ⟨more, hmore⟩ := prefixes_eq_append hshort
    rw [allAncestors_cons (segmented_of_mem_prefixes h hshort), List.append_assoc,
      List.foldl_append, ih (fun s hs => hshorts s (List.mem_cons_of_mem _ hs)), hmore]
    exact foldl_appendNew_append more

/-- After a path, what it begins with can be left out. -/
theorem foldl_after {path : String} (h : Segmented path) (rest : List String)
    {paths : List String} (hpaths : prefixes path ⊆ paths) :
    (allAncestors rest).foldl appendNew paths =
      (allAncestors (rest.filter fun q => q ∉ prefixes path)).foldl appendNew paths := by
  induction rest generalizing paths with
  | nil => rfl
  | cons q rest ih =>
    by_cases hq : q ∈ prefixes path
    · obtain ⟨more, hmore⟩ := prefixes_eq_append hq
      have hsub : prefixes q ⊆ paths := fun s hs =>
        hpaths (hmore ▸ List.mem_append_left more hs)
      rw [List.filter_cons_of_neg (by simpa using hq),
        allAncestors_cons (segmented_of_mem_prefixes h hq), List.foldl_append,
        foldl_appendNew_of_subset hsub, ih hpaths]
    · have hcons (qs : List String) : (allAncestors (q :: qs)).foldl appendNew paths =
          (allAncestors qs).foldl appendNew ((allAncestors [q]).foldl appendNew paths) := by
        rw [← List.foldl_append, ← allAncestors_append, List.singleton_append]
      have hkept : prefixes path ⊆ (allAncestors [q]).foldl appendNew paths :=
        fun s hs => mem_foldl_appendNew.2 (.inl (hpaths hs))
      rw [List.filter_cons_of_pos (by simpa using hq), hcons rest, ih hkept, ← hcons]

/-- Asking for a path with what it begins with, be it just before the path or anywhere after it, is
asking for the path. -/
theorem ofPaths_with_prefixes {path : String} (h : Segmented path) {shorts : List String}
    (hshorts : ∀ short ∈ shorts, short ∈ prefixes path) (front rest : List String) :
    ofPaths (front ++ shorts ++ path :: rest) =
      ofPaths (front ++ path :: rest.filter fun q => q ∉ prefixes path) := by
  apply ofPaths_congr
  rw [List.append_assoc]
  simp only [allAncestors_append, allAncestors_cons h, List.foldl_append]
  generalize hstart : (allAncestors front).foldl appendNew [] = start
  have hbefore := foldl_before h hshorts start
  rw [List.foldl_append] at hbefore
  have hthere : prefixes path ⊆ (prefixes path).foldl appendNew start :=
    fun q hq => mem_foldl_appendNew.2 (.inr hq)
  rw [hbefore, foldl_after h rest hthere]

end RecordQuery.LoadPlan
