import Mathlib

namespace RecordQuery

namespace Decimal

open Float.Model Float.Model.UnpackedFloat

/-- A number whose exponent is at most a bound. -/
def Within (bound : Int) : UnpackedFloat → Prop
  | .infinity _ | .notANumber => False
  | .zero _ => True
  | .finite _ _ e _ => e ≤ bound

theorem isFinite_unpack {b : BitVec Format.binary64.numBits}
    (h : unpackExponent b ≠ -BitVec.ofNat _ 1) : (unpack Format.binary64 b).isFinite = true := by
  unfold UnpackedFloat.unpack
  simp only [if_neg h]
  split
  · split <;> rfl
  · rfl

/-- The largest exponent leaves the bits of the exponent short of all ones. -/
theorem isFinite_pack {f : UnpackedFloat} (h : Within 971 f) :
    (Float.Model.pack f).isFinite = true := by
  have hbits : ∀ e : BitVec Format.binary64.exponentBits, e ≠ -BitVec.ofNat _ 1 → ∀ s m,
      (unpack Format.binary64 (packComponents Format.binary64 s e m)).isFinite = true := by
    intro e he s m
    apply isFinite_unpack
    rwa [unpackExponent_packComponents]
  change (unpack Format.binary64 (UnpackedFloat.pack Format.binary64 f)).isFinite = true
  cases f with
  | infinity s => exact h.elim
  | notANumber => exact h.elim
  | zero s => exact hbits 0 (by decide) s 0
  | finite s m e hm =>
    have hle : e ≤ 971 := h
    have hbias : Format.binary64.exponentBias = 1023 := rfl
    have hwidth : Format.binary64.mantissaBitsWithoutImplicit = 52 := rfl
    have hsmall : (e + Format.binary64.exponentBias +
        Format.binary64.mantissaBitsWithoutImplicit).toNat + 1 < 2 ^ 11 := by
      rw [hbias, hwidth]
      omega
    unfold UnpackedFloat.pack
    dsimp only
    rw [if_neg (by omega)]
    split
    · refine hbits _ ?_ s _
      intro heq
      have hnat := congrArg BitVec.toNat heq
      have hones : (-BitVec.ofNat Format.binary64.exponentBits 1).toNat = 2047 := by decide
      rw [hones, BitVec.toNat_ofNat, Nat.mod_eq_of_lt (by omega)] at hnat
      omega
    · exact hbits _ (by decide) s _

theorem mantissa_shiftRight_le (em : ExtendedMantissa) (n : Nat) :
    (em >>> n).mantissa ≤ em.mantissa := by
  induction n with
  | zero => exact Nat.le_refl _
  | succ n ih =>
    have hhalf : (em >>> (n + 1)).mantissa = (em >>> n).mantissa / 2 := rfl
    omega

theorem roundedMantissa_le (em : ExtendedMantissa) : em.roundedMantissa ≤ em.mantissa + 1 := by
  unfold ExtendedMantissa.roundedMantissa
  cases em.accuracy with
  | exact => exact Nat.le_succ _
  | inexact order => cases order <;> simp [Accuracy.roundToNearestEven] ; omega

theorem targetExponent_le {m k : Nat} (hm : m < 2 ^ (k + 1)) (e : Int) :
    Format.binary64.targetExponent (totalExponent m e) ≤ max (k + e - 52) (-1074) := by
  have hlog : m.log2 ≤ k := by
    by_cases hzero : m = 0
    · simp [hzero]
    · exact Nat.lt_succ_iff.1 ((Nat.log2_lt hzero).2 hm)
  have hmin : Format.binary64.minExponent = -1074 := by decide
  have hbits : Format.binary64.mantissaBits = 53 := rfl
  unfold Format.targetExponent totalExponent
  rw [hmin, hbits]
  omega

/-- Rounding shifts twice: to the exponent of the mantissa, and again if rounding up has made it one
bit longer. -/
theorem within_roundWithAccuracy {m : Nat} (hm : m < 2 ^ 128) {e : Int} (he : e ≤ 0) (s : Sign) :
    Within 971 (roundWithAccuracy Format.binary64 s m e .exact) := by
  unfold roundWithAccuracy shiftToTargetExponent shiftToExponent
  dsimp only
  have hfirst := targetExponent_le hm e
  generalize Format.binary64.targetExponent (totalExponent m e) = t at *
  have hround :=
    roundedMantissa_le (ExtendedMantissa.ofMantissaAndAccuracy m .exact >>> (t - e).toNat)
  have hshift :=
    mantissa_shiftRight_le (ExtendedMantissa.ofMantissaAndAccuracy m .exact) (t - e).toNat
  have hstart : (ExtendedMantissa.ofMantissaAndAccuracy m .exact).mantissa = m := rfl
  generalize (ExtendedMantissa.ofMantissaAndAccuracy m .exact >>> (t - e).toNat).roundedMantissa = r
    at *
  have hr : r < 2 ^ (128 + 1) := by omega
  have hsecond := targetExponent_le hr (e + (t - e).toNat)
  generalize Format.binary64.targetExponent (totalExponent r (e + (t - e).toNat)) = t' at *
  split
  · trivial
  · change e + _ + _ ≤ 971
    omega

theorem within_round {n : Nat} (hn : n < 2 ^ 64) (s : Sign) :
    Within 971 (UnpackedFloat.round Format.binary64 s n 0) := by
  have htarget : -52 ≤ Format.binary64.targetExponent (totalExponent n 0) := by
    have hbits : Format.binary64.mantissaBits = 53 := rfl
    unfold Format.targetExponent totalExponent
    rw [hbits]
    omega
  unfold UnpackedFloat.round decreaseExponent
  dsimp only
  generalize Format.binary64.targetExponent (totalExponent n 0) = t at *
  apply within_roundWithAccuracy
  · have hpow : 2 ^ (0 - t).toNat ≤ 2 ^ 52 := Nat.pow_le_pow_right (by decide) (by omega)
    calc n <<< (0 - t).toNat
        = n * 2 ^ (0 - t).toNat := Nat.shiftLeft_eq ..
      _ ≤ n * 2 ^ 52 := Nat.mul_le_mul_left n hpow
      _ < 2 ^ 128 := by omega
  · omega

theorem isFinite_toFloat (n : UInt64) : n.toFloat.isFinite = true := by
  have hn : n.toNat < 2 ^ 64 := n.toNat_lt
  change (Float.Model.pack
    (UnpackedFloat.normalize Format.binary64 n.toNat 0 .positive)).isFinite = true
  apply isFinite_pack
  unfold UnpackedFloat.normalize
  split
  · exact within_round (by omega) .negative
  · trivial
  · exact within_round (by omega) .positive

theorem ne_nan_of_isFinite {f : Float} (h : f.isFinite = true) : f ≠ .nan := by
  rintro rfl
  exact absurd h (by decide)

end Decimal

end RecordQuery
