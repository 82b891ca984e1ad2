import RecordQuery.Calendar.Reading
import RecordQuery.Proofs.Text.Digits

namespace RecordQuery.Calendar.Reader

variable {α β : Type}

theorem bind_eq_some {r : Reader α} {f : α → Reader β} {cs rest : List Char} {b : β} :
    (r >>= f) cs = some (b, rest) ↔ ∃ a mid, r cs = some (a, mid) ∧ f a mid = some (b, rest) := by
  change (r cs >>= fun x => f x.1 x.2) = some (b, rest) ↔ _
  rw [Option.bind_eq_bind, Option.bind_eq_some_iff]
  constructor
  · rintro ⟨⟨a, mid⟩, hr, hf⟩
    exact ⟨a, mid, hr, hf⟩
  · rintro ⟨a, mid, hr, hf⟩
    exact ⟨(a, mid), hr, hf⟩

theorem bind_of_some {r : Reader α} {f : α → Reader β} {cs mid : List Char} {a : α}
    (h : r cs = some (a, mid)) : (r >>= f) cs = f a mid := by
  change (r cs >>= fun x => f x.1 x.2) = f a mid
  rw [h]
  rfl

theorem bind_congr {r : Reader α} {f : α → Reader β} {cs cs' : List Char} (h : r cs = r cs') :
    (r >>= f) cs = (r >>= f) cs' := by
  change (r cs >>= fun x => f x.1 x.2) = (r cs' >>= fun x => f x.1 x.2)
  rw [h]

theorem liftM_eq_some {o : Option α} {cs rest : List Char} {a : α} :
    (liftM o : Reader α) cs = some (a, rest) ↔ o = some a ∧ rest = cs := by
  cases o with
  | none => exact ⟨fun h => (nomatch h), fun h => nomatch h.1⟩
  | some b =>
    have hlift : (liftM (some b) : Reader α) cs = some (b, cs) := rfl
    rw [hlift, Option.some_inj, Option.some_inj, Prod.mk.injEq, eq_comm (a := cs)]

theorem whole_eq_some {r : Reader α} {s : String} {a : α} :
    r.whole s = some a ↔ r s.toList = some (a, []) := by
  unfold whole
  constructor
  · intro h
    split at h
    · rename_i b hr
      rw [hr, Option.some.inj h]
    · exact nomatch h
  · intro h
    rw [h]

/-- What the reader leaves is an end of what it was given. -/
def Advances (r : Reader α) : Prop := ∀ cs a rest, r cs = some (a, rest) → rest <:+ cs

/-- The reader takes nothing. -/
def Idle (r : Reader α) : Prop := ∀ cs a rest, r cs = some (a, rest) → rest = cs

/-- The last character that the reader takes is not blank. -/
def EndsSolid (r : Reader α) : Prop :=
  ∀ cs a rest, r cs = some (a, rest) → ∃ c, Text.isBlank c = false ∧ c :: rest <:+ cs

theorem Idle.pure (a : α) : Idle (Pure.pure a : Reader α) := by
  intro cs b rest h
  exact (congrArg Prod.snd (Option.some.inj h)).symm

theorem Idle.liftM (o : Option α) : Idle (liftM o : Reader α) := by
  intro cs a rest h
  exact (liftM_eq_some.1 h).2

theorem Idle.failure : Idle (failure : Reader α) := by
  intro cs a rest h
  exact nomatch h

theorem Idle.ite {condition : Prop} [Decidable condition] {r r' : Reader α} (h : Idle r)
    (h' : Idle r') : Idle (if condition then r else r') := by
  split
  · exact h
  · exact h'

theorem Idle.rest : Idle rest := by
  intro cs a left h
  exact (congrArg Prod.snd (Option.some.inj h)).symm

theorem Idle.advances {r : Reader α} (h : Idle r) : Advances r := by
  intro cs a rest hr
  obtain rfl := h cs a rest hr
  exact List.suffix_rfl

theorem Advances.bind {r : Reader α} {f : α → Reader β} (h : Advances r)
    (hf : ∀ a, Advances (f a)) : Advances (r >>= f) := by
  intro cs b rest hrun
  obtain ⟨a, mid, hr, hmid⟩ := bind_eq_some.1 hrun
  exact (hf a mid b rest hmid).trans (h cs a mid hr)

theorem Advances.ite {condition : Prop} [Decidable condition] {r r' : Reader α} (h : Advances r)
    (h' : Advances r') : Advances (if condition then r else r') := by
  split
  · exact h
  · exact h'

theorem EndsSolid.advances {r : Reader α} (h : EndsSolid r) : Advances r := by
  intro cs a rest hr
  obtain ⟨c, -, hc⟩ := h cs a rest hr
  exact (List.suffix_cons c rest).trans hc

theorem EndsSolid.bind_idle {r : Reader α} {f : α → Reader β} (h : EndsSolid r)
    (hf : ∀ a, Idle (f a)) : EndsSolid (r >>= f) := by
  intro cs b rest hrun
  obtain ⟨a, mid, hr, hmid⟩ := bind_eq_some.1 hrun
  rw [hf a mid b rest hmid]
  exact h cs a mid hr

theorem Advances.bind_solid {r : Reader α} {f : α → Reader β} (h : Advances r)
    (hf : ∀ a, EndsSolid (f a)) : EndsSolid (r >>= f) := by
  intro cs b rest hrun
  obtain ⟨a, mid, hr, hmid⟩ := bind_eq_some.1 hrun
  obtain ⟨c, hblank, hc⟩ := hf a mid b rest hmid
  exact ⟨c, hblank, hc.trans (h cs a mid hr)⟩

/-- Wherever both readers find something, they find the same and leave the same. -/
def Agree (r r' : Reader α) : Prop := ∀ cs x y, r cs = some x → r' cs = some y → x = y

theorem Agree.refl (r : Reader α) : Agree r r := by
  intro cs x y hx hy
  exact Option.some.inj (hx.symm.trans hy)

theorem Agree.symm {r r' : Reader α} (h : Agree r r') : Agree r' r := by
  intro cs x y hx hy
  exact (h cs y x hy hx).symm

/-- A reader agrees with any that finds what it finds. -/
theorem Agree.of_imp {r r' : Reader α} (h : ∀ cs x, r cs = some x → r' cs = some x) :
    Agree r r' := by
  intro cs x y hx hy
  exact Option.some.inj ((h cs x hx).symm.trans hy)

theorem Agree.bind {r r' : Reader α} {f f' : α → Reader β} (h : Agree r r')
    (hf : ∀ a, Agree (f a) (f' a)) : Agree (r >>= f) (r' >>= f') := by
  intro cs x y hx hy
  obtain ⟨a, mid, hr, hmid⟩ := bind_eq_some.1 hx
  obtain ⟨a', mid', hr', hmid'⟩ := bind_eq_some.1 hy
  obtain ⟨rfl, rfl⟩ := Prod.mk.inj (h cs _ _ hr hr')
  exact hf a mid x y hmid hmid'

theorem mark_eq_some {c : Char} {cs rest : List Char} :
    mark c cs = some ((), rest) ↔ cs = c :: rest := by
  cases cs with
  | nil => exact ⟨fun h => (nomatch h), fun h => nomatch h⟩
  | cons d cs =>
    simp only [mark]
    split
    · rename_i hd
      simp [hd]
    · rename_i hd
      simp [hd]

theorem one_eq_some {p : Char → Bool} {c : Char} {cs rest : List Char} :
    one p cs = some (c, rest) ↔ cs = c :: rest ∧ p c := by
  cases cs with
  | nil => exact ⟨fun h => (nomatch h), fun h => nomatch h.1⟩
  | cons d cs =>
    simp only [one]
    split
    · rename_i hd
      simp only [Option.some.injEq, Prod.mk.injEq, List.cons.injEq]
      constructor
      · rintro ⟨rfl, rfl⟩
        exact ⟨⟨rfl, rfl⟩, hd⟩
      · exact fun h => h.1
    · rename_i hd
      simp only [reduceCtorEq, List.cons.injEq, false_iff, not_and]
      rintro ⟨rfl, -⟩
      exact hd

theorem skip_of_head {p : Char → Bool} {cs : List Char} (h : ∀ c ∈ cs.head?, p c = false) :
    skip p cs = some ((), cs) := by
  cases cs with
  | nil => rfl
  | cons c cs =>
    have hc := h c rfl
    simp [skip, hc]

/-- A run of digits is taken from the front. -/
theorem digits_eq_some {low high : Nat} {cs ds rest : List Char}
    (h : digits low high cs = some (ds, rest)) :
    cs = ds ++ rest ∧ low ≤ ds.length ∧ ds.length ≤ high ∧ ∀ c ∈ ds, c.isDigit := by
  simp only [digits, Option.ite_none_left_eq_some, Option.some.injEq, Prod.mk.injEq] at h
  obtain ⟨hlow, rfl, rfl⟩ := h
  have hprefix : (cs.take high).takeWhile Char.isDigit <+: cs :=
    (List.takeWhile_prefix _).trans (List.take_prefix high cs)
  have hlength : ((cs.take high).takeWhile Char.isDigit).length ≤ (cs.take high).length :=
    (List.takeWhile_sublist _).length_le
  rw [List.length_take] at hlength
  refine ⟨?_, by omega, by omega, ?_⟩
  · exact List.prefix_iff_eq_append.1 hprefix |>.symm
  · intro c hc
    exact List.all_eq_true.1 List.all_takeWhile c hc

theorem digits_append {low high : Nat} {ds rest : List Char} (hdigits : ∀ c ∈ ds, c.isDigit)
    (hlow : low ≤ ds.length) (hhigh : ds.length ≤ high)
    (hend : ds.length = high ∨ ∀ c ∈ rest.head?, c.isDigit = false) :
    digits low high (ds ++ rest) = some (ds, rest) := by
  have hrun : ((ds ++ rest).take high).takeWhile Char.isDigit = ds := by
    rw [List.take_append, List.take_of_length_le hhigh, List.takeWhile_append_of_pos hdigits]
    rcases hend with heq | hhead
    · simp [heq]
    · cases rest with
      | nil => simp
      | cons c rest =>
        have hc := hhead c rfl
        cases hmore : high - ds.length with
        | zero => simp
        | succ n => simp [hc]
  simp only [digits, hrun, List.drop_left]
  rw [if_neg (by omega)]

/-- A reader that asks for fewer digits finds them too. -/
theorem digits_mono {low low' high : Nat} {cs : List Char} {x : List Char × List Char}
    (hlow : low' ≤ low) (h : digits low high cs = some x) : digits low' high cs = some x := by
  simp only [digits, Option.ite_none_left_eq_some] at h ⊢
  exact ⟨by omega, h.2⟩

theorem number_eq_some {low high : Nat} {cs rest : List Char} {n : Nat} :
    number low high cs = some (n, rest) ↔
      ∃ ds, digits low high cs = some (ds, rest) ∧ n = Text.decimal ds := by
  have hmap : number low high = digits low high >>= fun ds => pure (Text.decimal ds) := by
    unfold number
    rw [map_eq_pure_bind]
  rw [hmap, bind_eq_some]
  constructor
  · rintro ⟨ds, mid, hds, hpure⟩
    obtain ⟨rfl, rfl⟩ := Prod.mk.inj (Option.some.inj hpure)
    exact ⟨ds, hds, rfl⟩
  · rintro ⟨ds, hds, rfl⟩
    exact ⟨ds, rest, hds, rfl⟩

theorem number_mono {low low' high : Nat} {cs : List Char} {x : Nat × List Char}
    (hlow : low' ≤ low) (h : number low high cs = some x) : number low' high cs = some x := by
  obtain ⟨ds, hds, hn⟩ := number_eq_some.1 h
  exact number_eq_some.2 ⟨ds, digits_mono hlow hds, hn⟩

/-- A number begins with a digit. -/
theorem isDigit_of_number {low high : Nat} (hlow : 0 < low) {cs : List Char} {x : Nat × List Char}
    (h : number low high cs = some x) : ∀ c ∈ cs.head?, c.isDigit := by
  obtain ⟨ds, hds, -⟩ := number_eq_some.1 h
  obtain ⟨rfl, hlength, -, hdigits⟩ := digits_eq_some hds
  cases ds with
  | nil => simp at hlength; omega
  | cons d ds =>
    intro c hc
    obtain rfl := Option.some.inj hc
    exact hdigits d List.mem_cons_self

theorem Advances.skip (p : Char → Bool) : Advances (skip p) := by
  intro cs a rest h
  obtain ⟨-, rfl⟩ := Prod.mk.inj (Option.some.inj h)
  exact List.dropWhile_suffix p

theorem Advances.mark (c : Char) : Advances (mark c) := by
  intro cs a rest h
  rw [mark_eq_some.1 h]
  exact List.suffix_cons c rest

theorem Advances.one (p : Char → Bool) : Advances (one p) := by
  intro cs a rest h
  rw [(one_eq_some.1 h).1]
  exact List.suffix_cons a rest

theorem EndsSolid.number {low : Nat} (hlow : 0 < low) (high : Nat) :
    EndsSolid (number low high) := by
  intro cs n rest h
  obtain ⟨ds, hds, -⟩ := number_eq_some.1 h
  obtain ⟨rfl, hlength, -, hdigits⟩ := digits_eq_some hds
  have hne : ds ≠ [] := List.ne_nil_of_length_pos (by omega)
  have hlast := hdigits (ds.getLast hne) (List.getLast_mem hne)
  refine ⟨ds.getLast hne, Text.isBlank_of_isDigit hlast, ds.dropLast, ?_⟩
  rw [List.append_cons, List.dropLast_concat_getLast]

theorem Advances.fraction : Advances fraction := by
  have hdigits : Advances (digits 1 9) := by
    intro cs ds rest h
    rw [(digits_eq_some h).1]
    exact List.suffix_append ds rest
  apply Idle.rest.advances.bind
  intro cs
  apply Advances.ite
  · apply (Advances.mark '.').bind
    intro _
    apply hdigits.bind
    intro ds
    exact (Advances.skip _).bind fun _ => (Idle.pure _).advances
  · exact (Idle.pure _).advances

end RecordQuery.Calendar.Reader
