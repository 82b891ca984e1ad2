import Mathlib.Data.List.TakeWhile
import RecordQuery.PageStream
import RecordQuery.Proofs.Text.Words

namespace RecordQuery.Web

/-- A character that stays in a path as it is; a backslash would become a slash. -/
def Path.isPlain (c : Char) : Bool := !hiddenInPath c && c != '\\'

/-- What may follow the first slash of a path so that the path stays as it is. -/
structure Path.Plain (cs : List Char) : Prop where
  chars : ∀ c ∈ cs, isPlain c
  first : cs.head? ≠ some '/'
  dotless : ∀ segment ∈ Text.pieces '/' cs, isDot segment = false ∧ isDoubleDot segment = false

theorem percentEncoded_of_shown {hidden : Char → Bool} {cs : List Char}
    (h : ∀ c ∈ cs, hidden c = false) : percentEncoded hidden cs = cs := by
  induction cs with
  | nil => rfl
  | cons c cs ih =>
    have hrest := ih fun d hd => h d (List.mem_cons_of_mem c hd)
    rw [percentEncoded] at hrest ⊢
    rw [List.flatMap_cons, h c List.mem_cons_self, hrest]
    rfl

theorem flatMap_pieces (sep : Char) (cs : List Char) :
    (Text.pieces sep cs).flatMap (sep :: ·) = sep :: cs := by
  induction cs with
  | nil => rfl
  | cons c cs ih =>
    rw [Text.pieces]
    split
    · rename_i hc
      rw [List.flatMap_cons, ih, hc]
      rfl
    · cases hpieces : Text.pieces sep cs with
      | nil => exact absurd hpieces (Text.pieces_ne_nil sep cs)
      | cons p ps =>
        rw [hpieces, List.flatMap_cons, List.cons_append] at ih
        rw [List.flatMap_cons, List.cons_append, List.cons_append, (List.cons.inj ih).2]

variable {cs : List Char}

namespace Path

theorem hiddenInPath_of_isPlain {c : Char} (h : isPlain c) : hiddenInPath c = false := by
  simp only [isPlain, Bool.and_eq_true, Bool.not_eq_true'] at h
  exact h.1

/-- Segments that are no dots and need no encoding are put behind the place as they are. -/
theorem follow_of_plain {segments : List (List Char)}
    (hplain : ∀ segment ∈ segments, percentEncoded hiddenInPath segment = segment)
    (hdots : ∀ segment ∈ segments, isDot segment = false ∧ isDoubleDot segment = false)
    (place : List (List Char)) : follow .web place segments = place ++ segments := by
  induction segments generalizing place with
  | nil => rw [follow, List.append_nil]
  | cons segment rest ih =>
    obtain ⟨hdot, hdouble⟩ := hdots segment List.mem_cons_self
    have hwritten : written .web place segment = segment := hplain segment List.mem_cons_self
    have hrest := ih (fun s hs => hplain s (List.mem_cons_of_mem _ hs))
      (fun s hs => hdots s (List.mem_cons_of_mem _ hs)) (place ++ [segment])
    cases rest with
    | nil => simp [follow, hdot, hdouble, hwritten]
    | cons next rest => simp [follow, hdot, hdouble, hwritten, hrest]

theorem isPlain_of_mem_pieces (h : ∀ c ∈ cs, isPlain c) {segment : List Char}
    (hsegment : segment ∈ Text.pieces '/' cs) : ∀ c ∈ segment, isPlain c := by
  intro c hc
  have hmem : c ∈ '/' :: cs := by
    rw [← flatMap_pieces]
    exact List.mem_flatMap.2 ⟨segment, hsegment, List.mem_cons_of_mem _ hc⟩
  obtain rfl | hmem := List.mem_cons.1 hmem
  · rfl
  · exact h c hmem

/-- The segments of a plain path are those between its slashes. -/
theorem follow_pieces (h : Plain cs) (place : List (List Char)) :
    follow .web place (Text.pieces '/' cs) = place ++ Text.pieces '/' cs := by
  refine follow_of_plain (fun segment hsegment => ?_) h.dotless place
  exact percentEncoded_of_shown fun c hc =>
    hiddenInPath_of_isPlain (isPlain_of_mem_pieces h.chars hsegment c hc)

theorem isDot_of_head {c : Char} (hdot : c.toLower ≠ '.') (hpercent : c.toLower ≠ '%')
    (cs : List Char) : isDot (c :: cs) = false ∧ isDoubleDot (c :: cs) = false := by
  have hlower (s : String) (hs : s.toList.head? = some '.' ∨ s.toList.head? = some '%') :
      Text.lower (String.ofList (c :: cs)) ≠ s := by
    rintro rfl
    simp [Text.lower, hdot, hpercent] at hs
  constructor
  · simp only [isDot, List.contains_eq_mem, decide_eq_false_iff_not, List.mem_cons, List.not_mem_nil,
      or_false, not_or]
    exact ⟨hlower _ (by decide), hlower _ (by decide)⟩
  · simp only [isDoubleDot, List.contains_eq_mem, decide_eq_false_iff_not, List.mem_cons,
      List.not_mem_nil, or_false, not_or]
    exact ⟨hlower _ (by decide), hlower _ (by decide), hlower _ (by decide), hlower _ (by decide)⟩

/-- A plain path stays plain with a further segment of plain characters, unless that is a dot. -/
theorem Plain.append_segment (h : Plain cs) (hne : cs ≠ []) {segment : List Char}
    (hchars : ∀ c ∈ segment, isPlain c) (hslash : '/' ∉ segment)
    (hdots : isDot segment = false ∧ isDoubleDot segment = false) :
    Plain (cs ++ '/' :: segment) where
  chars := List.forall_mem_append.2 ⟨h.chars, List.forall_mem_cons.2 ⟨rfl, hchars⟩⟩
  first := by
    obtain ⟨c, rest, rfl⟩ := List.exists_cons_of_ne_nil hne
    exact h.first
  dotless := by
    rw [Text.pieces_append_sep, Text.pieces_of_not_mem hslash]
    exact List.forall_mem_append.2 ⟨h.dotless, List.forall_mem_singleton.2 hdots⟩

theorem isPlain_of_isDigit {c : Char} (h : c.isDigit) : isPlain c := by
  obtain ⟨hlow, hhigh⟩ := Char.isDigit_iff_toNat.1 h
  have hdigits : ∀ n ≤ 57, 48 ≤ n → isPlain (Char.ofNat n) := by decide
  rw [← Char.ofNat_toNat c]
  exact hdigits c.toNat hhigh hlow

end Path

namespace Url

open Web.Path

/-- A character that stays in a path is no blank and no control, does not end the path, and is a
slash only if it looks like one. -/
theorem shown_of_isPlain {c : Char} (h : isPlain c) :
    0x20 < c.toNat ∧ isTail c = false ∧ Kind.web.isSlash c = (c == '/') := by
  simp only [isPlain, hiddenInPath, hiddenInFragment, isControl, String.reduceToList,
    List.contains_eq_mem, List.mem_cons, List.not_mem_nil, or_false, Bool.decide_or, Bool.not_or,
    Bool.and_eq_true, Bool.not_eq_eq_eq_not, Bool.not_true, decide_eq_false_iff_not, Nat.not_lt,
    bne_iff_ne, ne_eq] at h
  obtain ⟨⟨⟨hrange, hfragment⟩, htail⟩, hbackslash⟩ := h
  refine ⟨?_, ?_, ?_⟩
  · have hblank : c.toNat ≠ 0x20 := fun heq => hfragment.1 (Char.toNat_inj.1 heq)
    omega
  · simp [isTail, htail]
  · simp [Kind.isSlash, hbackslash]

theorem significant_of_plain (h : ∀ c ∈ cs, isPlain c) :
    significant (String.ofList cs) = cs := by
  have hedge (c : Char) (hc : c ∈ cs) : ¬c.toNat ≤ 0x20 := by
    have hlow := (shown_of_isPlain (h c hc)).1
    omega
  have hkeep (ds : List Char) (hds : ∀ c ∈ ds, c ∈ cs) :
      ds.dropWhile (fun c => decide (c.toNat ≤ 0x20)) = ds := by
    rw [List.dropWhile_eq_self_iff]
    intro hpos
    simpa using hedge _ (hds _ (List.getElem_mem hpos))
  unfold significant
  dsimp only
  rw [String.toList_ofList, hkeep cs fun c hc => hc,
    hkeep cs.reverse fun c hc => List.mem_reverse.1 hc, List.reverse_reverse, List.filter_eq_self]
  intro c hc
  have hc' := hedge c hc
  simp only [Bool.and_eq_true, bne_iff_ne]
  refine ⟨⟨?_, ?_⟩, ?_⟩ <;> rintro rfl <;> exact hc' (by decide)

theorem pathSegments_of_plain (h : ∀ c ∈ cs, isPlain c) :
    pathSegments .web cs = Text.pieces '/' cs := by
  have htail : cs.takeWhile (fun c => !isTail c) = cs :=
    List.takeWhile_eq_self_iff.2 fun c hc => by rw [(shown_of_isPlain (h c hc)).2.1]; rfl
  have hslash : cs.map (fun c => if Kind.web.isSlash c then '/' else c) = cs := by
    refine (List.map_congr_left fun c hc => ?_).trans (List.map_id cs)
    rw [(shown_of_isPlain (h c hc)).2.2]
    split
    · rename_i heq
      exact (beq_iff_eq.1 heq).symm
    · rfl
  rw [pathSegments, htail, split, hslash]

theorem withPath_of_plain {scheme : List Char} (hkind : kindOf scheme = .web) (h : Plain cs)
    (authority : Option (List Char)) (place : List (List Char)) :
    withPath scheme authority place cs =
      ⟨scheme, authority, .segments (place ++ Text.pieces '/' cs), none, none⟩ := by
  have htail : cs.dropWhile (fun c => !isTail c) = [] :=
    List.dropWhile_eq_nil_iff.2 fun c hc => by rw [(shown_of_isPlain (h.chars c hc)).2.1]; rfl
  rw [withPath, hkind, pathSegments_of_plain h.chars, follow_pieces h, withSegments, hkind, htail]
  rfl

/-- A plain path takes the place of the path of a web address. -/
theorem join?_of_plain {base : Url} (hkind : base.kind = .web) {parts : List (List Char)}
    (hpath : base.path = .segments parts) (h : Plain cs) :
    base.join? (String.ofList ('/' :: cs)) =
      some ⟨base.scheme, base.authority, .segments (Text.pieces '/' cs), none, none⟩ := by
  have hchars : ∀ c ∈ '/' :: cs, isPlain c := List.forall_mem_cons.2 ⟨rfl, h.chars⟩
  have hscheme : splitScheme ('/' :: cs) = none := rfl
  have hrelative : base.relative? ('/' :: cs) = some (withPath base.scheme base.authority [] cs) := by
    unfold relative?
    rw [hpath]
    cases cs with
    | nil => rfl
    | cons d ds =>
      have hd : d ≠ '/' := fun heq => h.first (congrArg some heq)
      have hslash : Kind.web.isSlash d = false := by
        rw [(shown_of_isPlain (h.chars d List.mem_cons_self)).2.2, beq_eq_false_iff_ne]
        exact hd
      have hroot : Kind.web.isSlash '/' = true := rfl
      simp [hd, hslash, hroot]
  rw [join?, significant_of_plain hchars, hscheme]
  dsimp only
  rw [hkind, hrelative, withPath_of_plain hkind h]
  rfl

/-- The text of a web address whose path is given by what follows its first slash. -/
theorem text_pieces (scheme authority cs : List Char) :
    (⟨scheme, some authority, .segments (Text.pieces '/' cs), none, none⟩ : Url).text =
      String.ofList (scheme ++ ':' :: '/' :: '/' :: authority) ++ String.ofList ('/' :: cs) := by
  rw [← String.ofList_append]
  simp [text, Path.text, flatMap_pieces]

end Url

end RecordQuery.Web

namespace RecordQuery.PageStream

open Web

/-- A cursor that is a plain path from the root leads to the address of the instance followed by
the cursor, if that address has no path of its own. -/
theorem address_of_plain {instanceUrl : String} {base : Url} {authority : List Char}
    (hbase : Url.ofText? instanceUrl = some base) (hkind : base.kind = .web)
    (hauthority : base.authority = some authority) {parts : List (List Char)}
    (hpath : base.path = .segments parts)
    (htext : instanceUrl = String.ofList (base.scheme ++ ':' :: '/' :: '/' :: authority))
    {cs : List Char} (h : Path.Plain cs) :
    address instanceUrl (String.ofList ('/' :: cs)) =
      .ok (instanceUrl ++ String.ofList ('/' :: cs)) := by
  rw [address, hbase]
  dsimp only
  rw [Url.join?_of_plain hkind hpath h, hauthority]
  dsimp only
  rw [Url.text_pieces, ← htext]

end RecordQuery.PageStream
