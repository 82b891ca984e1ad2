import RecordQuery.Text.Basic

namespace RecordQuery.Text

/-- Every character of the text is of a class. -/
def Over (p : Char → Bool) (s : String) : Prop := ∀ c ∈ s.toList, p c

instance (p : Char → Bool) (s : String) : Decidable (Over p s) :=
  List.decidableBAll (p · = true) s.toList

namespace Over

variable {p q : Char → Bool} {s t : String}

theorem append (hs : Over p s) (ht : Over p t) : Over p (s ++ t) := by
  intro c hc
  rw [String.toList_append] at hc
  exact (List.mem_append.1 hc).elim (hs c) (ht c)

theorem ite {condition : Prop} [Decidable condition] (hs : Over p s) (ht : Over p t) :
    Over p (if condition then s else t) := by
  split
  · exact hs
  · exact ht

theorem mono (h : Over p s) (hpq : ∀ c, p c → q c) : Over q s := by
  intro c hc
  exact hpq c (h c hc)

theorem digits_toString (n : Nat) : Over Char.isDigit (toString n) := by
  intro c hc
  rw [Nat.toString_eq_ofList_toDigits, String.toList_ofList] at hc
  exact Nat.isDigit_of_mem_toDigits (by decide) (by decide) hc

theorem digits_padded (width n : Nat) : Over Char.isDigit (padded width n) := by
  intro c hc
  unfold padded at hc
  rw [String.toList_ofList] at hc
  obtain hzero | hdigit := List.mem_append.1 hc
  · obtain rfl := List.eq_of_mem_replicate hzero
    rfl
  · exact digits_toString n c hdigit

end Over

theorem isBlank_of_isDigit {c : Char} (h : c.isDigit) : isBlank c = false := by
  have hc := Char.isDigit_iff_toNat.1 h
  have hlow : 48 ≤ c.toNat := hc.1
  have hhigh : c.toNat ≤ 57 := hc.2
  simp only [isBlank, Bool.or_eq_false_iff, Bool.and_eq_false_iff, decide_eq_false_iff_not,
    beq_eq_false_iff_ne]
  omega

theorem toList_padded (width n : Nat) :
    (padded width n).toList =
      List.replicate (width - (Nat.toDigits 10 n).length) '0' ++ Nat.toDigits 10 n := by
  simp only [padded, String.toList_ofList, Nat.toString_eq_ofList_toDigits]

theorem length_padded {width n : Nat} (hwidth : 0 < width) (hn : n < Nat.pow 10 width) :
    (padded width n).toList.length = width := by
  have hdigits := (Nat.length_toDigits_le_iff (b := 10) (by decide) hwidth).2 hn
  rw [toList_padded, List.length_append, List.length_replicate]
  omega

theorem le_length_padded (width n : Nat) : width ≤ (padded width n).toList.length := by
  rw [toList_padded, List.length_append, List.length_replicate]
  omega

theorem decimal_eq (ds : List Char) : decimal ds = Nat.ofDigitChars 10 ds 0 := rfl

theorem decimal_zeros (n : Nat) (ds : List Char) :
    decimal (List.replicate n '0' ++ ds) = decimal ds := by
  rw [decimal_eq, Nat.ofDigitChars_append, Nat.ofDigitChars_replicate_zero, Nat.mul_zero,
    decimal_eq]

/-- The digits of a number spell it. -/
theorem decimal_padded (width n : Nat) : decimal (padded width n).toList = n := by
  rw [toList_padded, decimal_zeros, decimal_eq]
  exact Nat.ofDigitChars_ten_toDigits

theorem decimal_toString (n : Nat) : decimal (toString n).toList = n := by
  rw [Nat.toString_eq_ofList_toDigits, String.toList_ofList, decimal_eq]
  exact Nat.ofDigitChars_ten_toDigits

theorem ofDigitChars_lt {ds : List Char} (h : ∀ c ∈ ds, c.isDigit) (n : Nat) :
    Nat.ofDigitChars 10 ds n < (n + 1) * Nat.pow 10 ds.length := by
  induction ds generalizing n with
  | nil => simp
  | cons c ds ih =>
    have hc := Char.isDigit_iff_toNat.1 (h c List.mem_cons_self)
    have hhigh : c.toNat ≤ 57 := hc.2
    have hzero : '0'.toNat = 48 := rfl
    have hpow : Nat.pow 10 (ds.length + 1) = 10 * Nat.pow 10 ds.length := Nat.pow_succ'
    rw [Nat.ofDigitChars_cons, List.length_cons, hpow, ← Nat.mul_assoc]
    apply Nat.lt_of_lt_of_le (ih (fun d hd => h d (List.mem_cons_of_mem c hd)) _)
    apply Nat.mul_le_mul_right
    omega

theorem decimal_lt {ds : List Char} (h : ∀ c ∈ ds, c.isDigit) : decimal ds < Nat.pow 10 ds.length := by
  have hlt := ofDigitChars_lt h 0
  rwa [Nat.zero_add, Nat.one_mul] at hlt

end RecordQuery.Text
