import RecordQuery.Proofs.Loading.Plan
import RecordQuery.Proofs.Text.Words

namespace RecordQuery.LoadPlan

/-- The second path goes on with a dot after the first. -/
def LeadsTo (above path : String) : Prop := ∃ rest, path = above ++ "." ++ rest

/-- With every path the plan has those that lead to it. -/
def Closed (p : LoadPlan) : Prop :=
  ∀ path ∈ p.paths, ∀ above, LeadsTo above path → above ∈ p.paths

/-- If the path begins with a dot it has no other. -/
def Regular (path : String) : Prop := ∀ rest, path = "." ++ rest → '.' ∉ rest.toList

/-- The plans that are built by these operations from paths of some kind. -/
inductive Built (kind : String → Prop) : LoadPlan → Prop
  | empty : Built kind empty
  | ofPaths {paths : List String} (hpaths : ∀ path ∈ paths, kind path) : Built kind (ofPaths paths)
  | add {p : LoadPlan} {path : String} (steps : List FinderStep) (hp : Built kind p)
      (hpath : kind path) : Built kind (p.add path steps)
  | merge {p other : LoadPlan} (hp : Built kind p) (hother : Built kind other) :
      Built kind (p.merge other)
  | under {p : LoadPlan} (relation : String) (hp : Built kind p) : Built kind (p.under relation)

theorem leadsTo_iff {above path : String} :
    LeadsTo above path ↔ ∃ rest, path.toList = above.toList ++ '.' :: rest := by
  constructor
  · rintro ⟨rest, rfl⟩
    exact ⟨rest.toList, by simp⟩
  · rintro ⟨rest, h⟩
    exact ⟨String.ofList rest, String.toList_inj.1 (by simp [h])⟩

theorem LeadsTo.trans {a b c : String} (h : LeadsTo a b) (h' : LeadsTo b c) : LeadsTo a c := by
  obtain ⟨rest, rfl⟩ := h
  obtain ⟨more, rfl⟩ := h'
  exact ⟨rest ++ "." ++ more, by simp only [String.append_assoc]⟩

/-- What stands before each dot. -/
def cuts : List Char → List (List Char)
  | [] => []
  | c :: cs =>
    if c = '.' then [] :: (cuts cs).map (c :: ·) else (cuts cs).map (c :: ·)

theorem mem_cuts {above cs : List Char} : above ∈ cuts cs ↔ ∃ rest, cs = above ++ '.' :: rest := by
  induction cs generalizing above with
  | nil => simp [cuts]
  | cons c cs ih =>
    have hmore : above ∈ (cuts cs).map (c :: ·) ↔
        ∃ front rest, above = c :: front ∧ cs = front ++ '.' :: rest := by
      simp only [List.mem_map, ih]
      constructor
      · rintro ⟨front, ⟨rest, h⟩, rfl⟩
        exact ⟨front, rest, rfl, h⟩
      · rintro ⟨front, rest, rfl, h⟩
        exact ⟨front, ⟨rest, h⟩, rfl⟩
    rw [cuts]
    cases above with
    | nil =>
      by_cases hc : c = '.'
      · simp [hc]
      · rw [if_neg hc, hmore]
        simp [hc]
    | cons a front =>
      have hcons : a :: front ∈ (cuts cs).map (c :: ·) ↔
          ∃ rest, c :: cs = a :: front ++ '.' :: rest := by
        rw [hmore]
        constructor
        · rintro ⟨front', rest, heq, rfl⟩
          obtain ⟨rfl, rfl⟩ := List.cons.inj heq
          exact ⟨rest, rfl⟩
        · rintro ⟨rest, heq⟩
          obtain ⟨rfl, rfl⟩ := List.cons.inj heq
          exact ⟨front, rest, rfl, rfl⟩
      by_cases hc : c = '.'
      · rw [if_pos hc, List.mem_cons, hcons]
        simp
      · rw [if_neg hc, hcons]

/-- The ancestors of a path, in characters. -/
def stops (cs : List Char) : List (List Char) := pathsThrough [] (Text.pieces '.' cs).dropLast

theorem mem_ancestors {above path : String} :
    above ∈ ancestors path ↔ above.toList ∈ stops path.toList := by
  unfold ancestors stops
  rw [List.mem_map]
  constructor
  · rintro ⟨cs, hcs, rfl⟩
    rwa [String.toList_ofList]
  · exact fun h => ⟨above.toList, h, String.ofList_toList⟩

/-- A segment below a path that is there is as good as the path through both. -/
theorem pathsThrough_dropLast_cons {above : List Char} (h : above ≠ []) (segment : List Char)
    (rest : List (List Char)) :
    pathsThrough above (segment :: rest).dropLast =
      pathsThrough [] ((above ++ ['.'] ++ segment) :: rest).dropLast := by
  cases rest with
  | nil => rfl
  | cons next rest => simp [pathsThrough, h]

/-- Once a first segment is not empty, the paths through the segments are the cuts. -/
theorem pathsThrough_pieces {start : List Char} (h : start ≠ []) {cs segment : List Char}
    {rest : List (List Char)} (hcs : Text.pieces '.' cs = segment :: rest) :
    pathsThrough [] ((start ++ segment) :: rest).dropLast = (cuts cs).map (start ++ ·) := by
  -- On the characters that are left: a dot ends the segment, another character goes into the start.
  induction cs generalizing start segment rest with
  | nil =>
    obtain ⟨rfl, rfl⟩ := List.cons.inj hcs
    rfl
  | cons c cs ih =>
    rw [Text.pieces] at hcs
    by_cases hc : c = '.'
    · rw [if_pos hc] at hcs
      obtain ⟨rfl, rfl⟩ := List.cons.inj hcs
      cases hpieces : Text.pieces '.' cs with
      | nil => exact absurd hpieces (Text.pieces_ne_nil '.' cs)
      | cons next rest =>
        have hopen : start ++ ['.'] ≠ [] := by simp
        have hrest := ih hopen hpieces
        simp only [List.append_nil, List.dropLast_cons_cons]
        rw [pathsThrough, if_pos List.isEmpty_nil, pathsThrough_dropLast_cons h, hrest, cuts,
          if_pos hc, hc]
        simp
    · rw [if_neg hc] at hcs
      cases hpieces : Text.pieces '.' cs with
      | nil => exact absurd hpieces (Text.pieces_ne_nil '.' cs)
      | cons next rest' =>
        rw [hpieces] at hcs
        obtain ⟨rfl, rfl⟩ := List.cons.inj hcs
        have hopen : start ++ [c] ≠ [] := by simp
        have hrest := ih hopen hpieces
        rw [List.append_assoc, List.singleton_append] at hrest
        rw [hrest, cuts, if_neg hc]
        simp

theorem stops_cons {c : Char} (hc : c ≠ '.') (cs : List Char) :
    stops (c :: cs) = cuts (c :: cs) := by
  unfold stops
  rw [Text.pieces, if_neg hc, cuts, if_neg hc]
  cases hpieces : Text.pieces '.' cs with
  | nil => exact absurd hpieces (Text.pieces_ne_nil '.' cs)
  | cons segment rest => exact pathsThrough_pieces (List.cons_ne_nil c []) hpieces

/-- A dot at the start is passed over. -/
theorem stops_dot (cs : List Char) : stops ('.' :: cs) = [] :: stops cs := by
  unfold stops
  rw [Text.pieces, if_pos rfl, List.dropLast_cons_of_ne_nil (Text.pieces_ne_nil '.' cs)]
  rfl

theorem cuts_eq_nil {cs : List Char} (h : '.' ∉ cs) : cuts cs = [] := by
  refine List.eq_nil_iff_forall_not_mem.2 fun above habove => h ?_
  obtain ⟨rest, rfl⟩ := mem_cuts.1 habove
  simp

theorem stops_eq_nil {cs : List Char} (h : '.' ∉ cs) : stops cs = [] := by
  cases cs with
  | nil => rfl
  | cons c cs =>
    have hc : c ≠ '.' := fun heq => h (heq ▸ List.mem_cons_self)
    rw [stops_cons hc, cuts_eq_nil h]

theorem stops_of_regular {path : String} (h : Regular path) :
    stops path.toList = cuts path.toList := by
  cases hpath : path.toList with
  | nil => rfl
  | cons c cs =>
    by_cases hc : c = '.'
    · have hcs : '.' ∉ cs := by
        have hdot := h (String.ofList cs) (String.toList_inj.1 (by simp [hpath, hc]))
        rwa [String.toList_ofList] at hdot
      rw [hc, stops_dot, stops_eq_nil hcs, cuts, if_pos rfl, cuts_eq_nil hcs]
      rfl
    · exact stops_cons hc cs

/-- No ancestor is longer than what stands before the last dot. -/
theorem length_le_of_mem_stops {cs front last above : List Char} (hcs : cs = front ++ '.' :: last)
    (hlast : '.' ∉ last) (h : above ∈ stops cs) : above.length ≤ front.length := by
  induction cs generalizing front with
  | nil => simp at hcs
  | cons c cs ih =>
    by_cases hc : c = '.'
    · rw [hc, stops_dot] at h
      rcases List.mem_cons.1 h with rfl | h
      · exact Nat.zero_le _
      · cases front with
        | nil =>
          obtain ⟨-, rfl⟩ := List.cons.inj hcs
          rw [stops_eq_nil hlast] at h
          exact nomatch h
        | cons d front =>
          have := ih (List.cons.inj hcs).2 h
          simp only [List.length_cons]
          omega
    · rw [stops_cons hc, mem_cuts] at h
      obtain ⟨rest, hrest⟩ := h
      by_contra hlong
      -- Otherwise the dot after the ancestor would stand in the part that has none.
      have hlt : front.length < above.length := by omega
      have hget : (c :: cs)[above.length]? = some '.' := by simp [hrest]
      rw [hcs, List.getElem?_append_right (by omega), List.getElem?_cons] at hget
      rw [if_neg (by omega)] at hget
      exact hlast (List.mem_of_getElem? hget)

theorem mem_ancestors_of_regular {path : String} (h : Regular path) (above : String) :
    above ∈ ancestors path ↔ LeadsTo above path := by
  rw [mem_ancestors, stops_of_regular h, mem_cuts, leadsTo_iff]

/-- Only a regular path has all paths that lead to it among its ancestors: of any other the longest
one is missing. -/
theorem regular_of_ancestors {path : String}
    (h : ∀ above, LeadsTo above path → above ∈ ancestors path) : Regular path := by
  rintro rest rfl hdot
  obtain ⟨front, last, hrest, hlast⟩ :
      ∃ front last, rest.toList = front ++ '.' :: last ∧ '.' ∉ last := by
    obtain ⟨last, front, heq, hlast⟩ := List.eq_append_cons_of_mem (List.mem_reverse.2 hdot)
    have hrest := congrArg List.reverse heq
    exact ⟨front.reverse, last.reverse, by simpa using hrest, by simpa using hlast⟩
  have hpath : ("." ++ rest).toList = '.' :: rest.toList := by simp
  have hstop : '.' :: front ∈ stops ('.' :: rest.toList) := by
    have hmem := h (String.ofList ('.' :: front)) (leadsTo_iff.2 ⟨last, by simp [hrest]⟩)
    rwa [mem_ancestors, String.toList_ofList, hpath] at hmem
  rw [stops_dot] at hstop
  rcases List.mem_cons.1 hstop with heq | hstop
  · exact nomatch heq
  · have := length_le_of_mem_stops hrest hlast hstop
    simp only [List.length_cons] at this
    omega

theorem mem_paths_add {p : LoadPlan} {path q : String} {steps : List FinderStep} :
    q ∈ (p.add path steps).paths ↔ q ∈ p.paths ∨ q ∈ ancestors path ∨ q = path := by
  rw [paths_add, mem_foldl_appendNew, List.mem_append, List.mem_singleton]

theorem mem_paths_merge {p other : LoadPlan} {q : String} :
    q ∈ (p.merge other).paths ↔ q ∈ p.paths ∨ q ∈ other.paths := by
  rw [paths_merge, mem_foldl_appendNew]

theorem below?_eq_some {relation path q : String} :
    below? relation path = some q ↔ path = relation ++ "." ++ q := by
  unfold below? Text.after?
  constructor
  · intro h
    split at h
    · rename_i hp
      obtain ⟨cs, hcs⟩ := List.isPrefixOf_iff_prefix.1 hp
      rw [← hcs, List.drop_left, Option.map_some, Option.some.injEq] at h
      exact String.toList_inj.1 (by simp [← hcs, ← h])
    · exact nomatch h
  · rintro rfl
    have hlist : (relation ++ "." ++ q).toList = (relation.toList ++ ['.']) ++ q.toList := by simp
    rw [hlist, if_pos (List.isPrefixOf_iff_prefix.2 (List.prefix_append _ _)), List.drop_left]
    simp

theorem paths_under (p : LoadPlan) (relation : String) :
    (p.under relation).paths = p.paths.filterMap (below? relation) := by
  unfold under paths
  rw [List.map_filterMap, List.filterMap_map]
  refine List.filterMap_congr fun e _ => ?_
  simp only [Option.map_map, Function.comp_apply]
  exact Option.map_id'

theorem mem_paths_under {p : LoadPlan} {relation q : String} :
    q ∈ (p.under relation).paths ↔ relation ++ "." ++ q ∈ p.paths := by
  simp only [paths_under, List.mem_filterMap, below?_eq_some, exists_eq_right]

theorem nodup_under {p : LoadPlan} (h : p.paths.Nodup) (relation : String) :
    (p.under relation).paths.Nodup := by
  rw [paths_under]
  refine h.filterMap fun a b q ha hb => ?_
  rw [below?_eq_some.1 ha, below?_eq_some.1 hb]

theorem closed_add {p : LoadPlan} (h : p.Closed) {path : String} (hpath : Regular path)
    (steps : List FinderStep) : (p.add path steps).Closed := by
  intro q hq above habove
  rw [mem_paths_add, mem_ancestors_of_regular hpath] at hq ⊢
  rcases hq with hq | hq | rfl
  · exact .inl (h q hq above habove)
  · exact .inr (.inl (habove.trans hq))
  · exact .inr (.inl habove)

theorem closed_merge {p other : LoadPlan} (h : p.Closed) (hother : other.Closed) :
    (p.merge other).Closed := by
  intro q hq above habove
  rw [mem_paths_merge] at hq ⊢
  exact hq.imp (fun hq => h q hq above habove) fun hq => hother q hq above habove

/-- What leads to a path leads, below a relation, to the path below it. -/
theorem closed_under {p : LoadPlan} (h : p.Closed) (relation : String) :
    (p.under relation).Closed := by
  rintro q hq above ⟨rest, rfl⟩
  rw [mem_paths_under] at hq ⊢
  exact h _ hq _ ⟨rest, by simp only [String.append_assoc]⟩

theorem closed_empty : empty.Closed := fun _ h => nomatch h

theorem closed_ofPaths {paths : List String} (h : ∀ path ∈ paths, Regular path) :
    (ofPaths paths).Closed := by
  unfold ofPaths
  generalize hp : empty = p
  have hclosed : p.Closed := hp ▸ closed_empty
  clear hp
  induction paths generalizing p with
  | nil => exact hclosed
  | cons path paths ih =>
    exact ih (fun path hmem => h path (List.mem_cons_of_mem _ hmem)) _
      (closed_add hclosed (h path List.mem_cons_self) [])

theorem Built.nodup {kind : String → Prop} {p : LoadPlan} (h : Built kind p) : p.paths.Nodup := by
  induction h with
  | empty => exact List.nodup_nil
  | ofPaths _ => exact nodup_ofPaths _
  | add steps _ _ ih => exact nodup_add ih _ steps
  | merge _ _ ih _ => exact nodup_merge ih _
  | under relation _ ih => exact nodup_under ih relation

theorem Built.closed {p : LoadPlan} (h : Built Regular p) : p.Closed := by
  induction h with
  | empty => exact closed_empty
  | ofPaths hpaths => exact closed_ofPaths hpaths
  | add steps _ hpath ih => exact closed_add ih hpath steps
  | merge _ _ ih ihother => exact closed_merge ih ihother
  | under relation _ ih => exact closed_under ih relation

/-- Whatever a plan was built from, it has no path twice; and built from regular paths it is closed.
Adding a path to a plan creates the path and its ancestors, which are the paths that lead to it if
it is regular. A path that is not regular leaves some closed plan open. -/
theorem built_nodup_closed {p : LoadPlan} (h : Built (fun _ => True) p) :
    p.paths.Nodup ∧ (Built Regular p → p.Closed) ∧
    ∀ path,
      (∀ steps q, q ∈ (p.add path steps).paths ↔ q ∈ p.paths ∨ q ∈ ancestors path ∨ q = path) ∧
      (Regular path → ∀ above, above ∈ ancestors path ↔ LeadsTo above path) ∧
      (Regular path ↔ ∀ (q : LoadPlan) steps, q.Closed → (q.add path steps).Closed) := by
  refine ⟨h.nodup, Built.closed, fun path => ⟨fun _ _ => mem_paths_add, mem_ancestors_of_regular,
    fun hpath _ steps hq => closed_add hq hpath steps, fun hadd => ?_⟩⟩
  refine regular_of_ancestors fun above habove => ?_
  have hclosed := hadd empty [] closed_empty path (mem_paths_add.2 (.inr (.inr rfl))) above habove
  rcases mem_paths_add.1 hclosed with hnone | hancestor | rfl
  · exact nomatch hnone
  · exact hancestor
  · obtain ⟨rest, hself⟩ := habove
    have hlength := congrArg (fun s => s.toList.length) hself
    simp only [String.toList_append, List.length_append] at hlength
    have hdot : ".".toList.length = 1 := rfl
    omega

/-- The plan of a path in two steps has the first of them too. -/
theorem built_two_steps :
    Built (fun _ => True) (ofPaths ["a.b"]) ∧
    (ofPaths ["a.b"]).paths.Nodup ∧ (ofPaths ["a.b"]).Closed := by
  have hbuilt : Built (fun _ => True) (ofPaths ["a.b"]) := .ofPaths fun _ _ => trivial
  have hregular : Regular "a.b" := by
    intro rest heq
    exact absurd (congrArg String.toList heq) (by simp)
  obtain ⟨hnodup, hclosed, -⟩ := built_nodup_closed hbuilt
  exact ⟨hbuilt, hnodup, hclosed (.ofPaths (by simpa using hregular))⟩

theorem paths_dotted : (ofPaths [".a.b"]).paths = ["", "a", ".a.b"] := by decide

/-- A path with a dot at its start and another after it is added with the wrong ancestors. -/
theorem not_closed_dotted :
    ¬∀ p, Built (fun _ => True) p → p.Closed ∧
      ∀ path steps q, q ∈ (p.add path steps).paths → q ∈ p.paths ∨ LeadsTo q path ∨ q = path := by
  intro h
  obtain ⟨hclosed, -⟩ := h (ofPaths [".a.b"]) (.ofPaths fun _ _ => trivial)
  have hmem := hclosed ".a.b" (by simp [paths_dotted]) ".a" ⟨"b", rfl⟩
  rw [paths_dotted] at hmem
  exact absurd hmem (by decide)

end RecordQuery.LoadPlan
