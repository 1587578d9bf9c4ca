import Mathlib
import Concord.Number.Scalar

/-!
# Concord.Proofs.Number.Rounding

Quotients of counts in floating-point arithmetic, where rounding changes nothing:

* `quotient_self` — a count other than zero divided by itself is exactly one;
* `quotient_zero` — zero divided by such a count is exactly zero.

A count of at most 53 bits is held exactly, with a mantissa that fills the format (`unpack_ofNat`);
a larger one goes by way of the exact quotient, which is one or zero at once.
-/

namespace Concord.Number

open Float.Model (UnpackedFloat Format totalExponent)
open Float.Model.UnpackedFloat

/-! ## Packing -/

/-- The sign is read back from the packed components. -/
theorem unpackSign_packComponents (s : Sign) (e : BitVec 11) (m : BitVec 52) :
    unpackSign (packComponents Format.binary64 s e m) = s.toBitVec := by
  apply BitVec.eq_of_getLsbD_eq
  intro i hi
  obtain rfl : i = 0 := by omega
  simp only [unpackSign, packComponents, BitVec.getLsbD_cast, BitVec.getLsbD_extractLsb,
    BitVec.getLsbD_append]
  simp

theorem ofBitVec_toBitVec (s : Sign) : Sign.ofBitVec s.toBitVec = s := by cases s <;> rfl

/-- What was packed is unpacked from the same bits. -/
theorem unpack_pack_model (u : UnpackedFloat) :
    (Float.Model.pack u).unpack = unpack Format.binary64 (pack Format.binary64 u) := rfl

/-- A number whose mantissa fills its format is read as it was packed. -/
theorem unpack_pack_normal (s : Sign) {m : Nat} (hm : m.log2 = 52) (hpos : 0 < m) {e : Int}
    (lo : -1074 ≤ e) (hi : e ≤ 971) :
    unpack Format.binary64 (pack Format.binary64 (.finite s m e hpos)) = .finite s m e hpos := by
  have bits := (Nat.log2_eq_iff hpos.ne').1 hm
  have bias : (e + Format.binary64.exponentBias + (52 : Nat)) = e + 1075 := by
    rw [show Format.binary64.exponentBias = 1023 from rfl]; omega
  simp only [pack, bias]
  rw [if_neg (by omega), if_pos (by rw [hm]; rfl)]
  have hexp : (BitVec.ofNat 11 (e + 1075).toNat).toNat = (e + 1075).toNat := by
    rw [BitVec.toNat_ofNat, Nat.mod_eq_of_lt (by omega)]
  unfold unpack
  simp only [unpackMantissa_packComponents, unpackExponent_packComponents,
    unpackSign_packComponents, ofBitVec_toBitVec]
  have ones : BitVec.ofNat 11 (e + 1075).toNat ≠ -1#11 := by
    intro h
    have h := congrArg BitVec.toNat h
    rw [hexp, show (-1#11).toNat = 2047 from rfl] at h
    omega
  have zeros : BitVec.ofNat 11 (e + 1075).toNat ≠ 0#11 := by
    intro h
    have h := congrArg BitVec.toNat h
    rw [hexp, BitVec.toNat_zero] at h
    omega
  have mantissa : (1#1 ++ BitVec.ofNat 52 m).toNat = m := by
    rw [BitVec.toNat_append, ← Nat.shiftLeft_add_eq_or_of_lt (BitVec.isLt _), BitVec.toNat_ofNat]
    simp
    omega
  rw [if_neg ones, if_neg zeros]
  congr 1
  rw [hexp, show Format.binary64.exponentBias = 1023 from rfl]
  omega

/-! ## Shifting and rounding -/

theorem shiftRight_succ (em : ExtendedMantissa) (k : Nat) :
    em >>> (k + 1) = (em >>> k).shiftRightOne := rfl

/-- Shifting back what was shifted loses nothing. -/
theorem shiftRight_shiftLeft (m k : Nat) :
    (ExtendedMantissa.mk (m <<< k) false false) >>> k = ⟨m, false, false⟩ := by
  induction k generalizing m with
  | zero => rfl
  | succ k ih =>
      have hm : m <<< (k + 1) = (2 * m) <<< k := by
        rw [Nat.shiftLeft_eq, Nat.shiftLeft_eq, Nat.pow_succ', Nat.mul_left_comm, Nat.mul_assoc]
      rw [shiftRight_succ, hm, ih]
      simp [ExtendedMantissa.shiftRightOne]

/-- A shift to the left moves the highest bit by as much. -/
theorem log2_shiftLeft {m : Nat} (hm : 0 < m) (k : Nat) : (m <<< k).log2 = m.log2 + k := by
  induction k with
  | zero => rfl
  | succ k ih =>
      have hk : m <<< k ≠ 0 := (Nat.shiftLeft_pos_iff.2 hm).ne'
      rw [Nat.shiftLeft_succ, Nat.log2_two_mul hk, ih, Nat.add_assoc]

theorem targetExponent_eq (t : Int) : Format.binary64.targetExponent t = max (t - 53) (-1074) := rfl

/-- A number whose mantissa fills its format is shifted to itself, however it is written. -/
theorem shiftToTargetExponent_shifted {m : Nat} (hm : m.log2 = 52) (k : Nat) {e : Int}
    (he : -1074 ≤ e) :
    shiftToTargetExponent Format.binary64 (m <<< k) (e - k) .exact = (⟨m, false, false⟩, e) := by
  have hpos : 0 < m := Nat.pos_of_ne_zero (by rintro rfl; simp at hm)
  have hk : (Format.binary64.targetExponent (totalExponent (m <<< k) (e - k)) - (e - k)).toNat
      = k := by
    rw [targetExponent_eq, totalExponent, log2_shiftLeft hpos, hm]
    omega
  simp only [shiftToTargetExponent, shiftToExponent, hk, ExtendedMantissa.ofMantissaAndAccuracy,
    shiftRight_shiftLeft, Int.sub_add_cancel]

/-- A mantissa of 53 bits is rounded to itself from any shift of it. -/
theorem roundWithAccuracy_shifted (s : Sign) {m : Nat} (hm : m.log2 = 52) (hpos : 0 < m) (k : Nat)
    {e : Int} (he : -1074 ≤ e) :
    roundWithAccuracy Format.binary64 s (m <<< k) (e - k) .exact = .finite s m e hpos := by
  have again := shiftToTargetExponent_shifted hm 0 he
  simp only [Nat.shiftLeft_zero, Int.natCast_zero, Int.sub_zero] at again
  unfold roundWithAccuracy
  rw [shiftToTargetExponent_shifted hm k he]
  simp only [ExtendedMantissa.roundedMantissa, ExtendedMantissa.accuracy,
    Accuracy.roundToNearestEven, again]
  exact dif_neg hpos.ne'

/-! ## Natural numbers -/

/-- A natural number below 2 to the 53 is rounded to itself. -/
theorem round_natural (s : Sign) {n : Nat} (hn : 0 < n) (hlt : n < 2 ^ 53) :
    UnpackedFloat.round Format.binary64 s n 0 =
      .finite s (n <<< (52 - n.log2)) ((n.log2 : Int) - 52) (Nat.shiftLeft_pos_iff.2 hn) := by
  have hlog : n.log2 < 53 := (Nat.log2_lt hn.ne').2 hlt
  have target : Format.binary64.targetExponent (totalExponent n 0) = (n.log2 : Int) - 52 := by
    rw [targetExponent_eq, totalExponent]
    omega
  have shift : (0 - ((n.log2 : Int) - 52)).toNat = 52 - n.log2 := by omega
  have exponent : (0 : Int) - (52 - n.log2 : Nat) = (n.log2 : Int) - 52 := by omega
  have full : (n <<< (52 - n.log2)).log2 = 52 := by
    rw [log2_shiftLeft hn]
    omega
  have rounded := roundWithAccuracy_shifted s full (Nat.shiftLeft_pos_iff.2 hn) 0
    (e := (n.log2 : Int) - 52) (by omega)
  simp only [Nat.shiftLeft_zero, Int.natCast_zero, Int.sub_zero] at rounded
  simp only [UnpackedFloat.round, decreaseExponent, target, shift, exponent, rounded]

/-- A natural number becomes a float through a machine word. -/
theorem ofNat_eq {n : Nat} (hlt : n < 2 ^ 53) :
    Float.ofNat n = n.toUInt64.toFloat * Float.ofBits 0x3FF0000000000000 := by
  change Float.ofScientific n false 0 = _
  rw [Float.ofScientific, dif_pos ⟨hlt, by decide⟩]
  rfl

/-- The float of a natural number is unpacked to the number. -/
theorem unpack_toFloat {n : Nat} (hn : 0 < n) (hlt : n < 2 ^ 53) :
    n.toUInt64.toFloat.toModel.unpack =
      .finite .positive (n <<< (52 - n.log2)) ((n.log2 : Int) - 52)
        (Nat.shiftLeft_pos_iff.2 hn) := by
  have hlog : n.log2 < 53 := (Nat.log2_lt hn.ne').2 hlt
  have word : n.toUInt64.toNat = n := by
    rw [Nat.toUInt64_eq, UInt64.toNat_ofNat']
    omega
  change unpack Format.binary64 (pack Format.binary64 (UnpackedFloat.normalize Format.binary64
    (n.toUInt64.toNat : Int) 0 .positive)) = _
  rw [word, UnpackedFloat.normalize, Int.compare_eq_gt.2 (by omega)]
  simp only [Int.toNat_natCast, round_natural _ hn hlt]
  exact unpack_pack_normal _ (by rw [log2_shiftLeft hn]; omega) _ (by omega) (by omega)

/-- The parts of a natural number of at most 53 bits as a float. -/
theorem unpack_ofNat {n : Nat} (hn : 0 < n) (hlt : n < 2 ^ 53) :
    (Float.ofNat n).toModel.unpack =
      .finite .positive (n <<< (52 - n.log2)) ((n.log2 : Int) - 52)
        (Nat.shiftLeft_pos_iff.2 hn) := by
  have hlog : n.log2 < 53 := (Nat.log2_lt hn.ne').2 hlt
  have full : (n <<< (52 - n.log2)).log2 = 52 := by
    rw [log2_shiftLeft hn]
    omega
  have one : (Float.ofBits 0x3FF0000000000000).toModel.unpack =
      .finite .positive (2 ^ 52) (-52) (by decide) := by
    rfl
  rw [ofNat_eq hlt]
  change unpack Format.binary64 (pack Format.binary64 (mul Format.binary64
    n.toUInt64.toFloat.toModel.unpack (Float.ofBits 0x3FF0000000000000).toModel.unpack)) = _
  rw [unpack_toFloat hn hlt, one, mul, ← Nat.shiftLeft_eq]
  rw [show (n.log2 : Int) - 52 + -52 = (n.log2 : Int) - 52 - (52 : Nat) by omega]
  rw [roundWithAccuracy_shifted _ full (Nat.shiftLeft_pos_iff.2 hn) 52 (by omega)]
  exact unpack_pack_normal _ full _ (by omega) (by omega)

/-- **A positive finite number divided by itself is one.** -/
theorem div_self_finite (m : Nat) (e : Int) (h : 0 < m) :
    Float.Model.pack (div Format.binary64 (.finite .positive m e h) (.finite .positive m e h)) =
      (Float.ofNat 1).toModel := by
  have quotient : divCore Format.binary64 m e m e = (2 ^ 53, -53, .exact) := by
    have target : Format.binary64.targetExponent 0 = -53 := rfl
    simp only [divCore, Int.sub_self, target]
    rw [show (0 - min 0 (-53) : Int).toNat = 53 from rfl, Nat.shiftLeft_eq,
      Nat.mul_div_cancel_left _ h, Nat.mul_mod_right]
    rfl
  simp only [div, quotient]
  decide +kernel

/-- A quotient of counts that are held exactly is that of the floats. -/
theorem quotient_eq_div {a n : Nat} (ha : a < 2 ^ 53) (hn : n < 2 ^ 53) :
    (Scalar.quotient a n : Float) = Float.ofNat a / Float.ofNat n := by
  change Number.floatQuotient a n = _
  have bound : exactBound = 2 ^ 53 := rfl
  rw [floatQuotient, Int.natAbs_natCast, Int.natAbs_natCast, bound,
    if_pos (by simp only [Bool.and_eq_true, decide_eq_true_eq]; exact ⟨ha, hn⟩)]
  rfl

/-- A quotient by a count that is not held exactly is the float nearest to it. -/
theorem quotient_eq_floatOfRat {a n : Nat} (hn : 2 ^ 53 ≤ n) :
    (Scalar.quotient a n : Float) = floatOfRat (mkRat a n) := by
  change Number.floatQuotient a n = _
  have bound : exactBound = 2 ^ 53 := rfl
  rw [floatQuotient, Int.natAbs_natCast, Int.natAbs_natCast, bound,
    if_neg (by simp only [Bool.and_eq_true, decide_eq_true_eq]; omega), if_neg (by omega)]

/-- A number out of itself is one. -/
theorem quotient_self {n : Nat} (hn : 0 < n) : (Scalar.quotient n n : Float) = Scalar.one := by
  by_cases hlt : n < 2 ^ 53
  · rw [quotient_eq_div hlt hlt]
    change Float.ofModel (Float.Model.pack (div Format.binary64 (Float.ofNat n).toModel.unpack
      (Float.ofNat n).toModel.unpack)) = Float.ofNat 1
    rw [unpack_ofNat hn hlt, div_self_finite]
  · have ratio : mkRat n n = 1 := by
      rw [Rat.mkRat_eq_div]
      exact div_self (by exact_mod_cast hn.ne')
    rw [quotient_eq_floatOfRat (Nat.le_of_not_lt hlt), ratio]
    decide +kernel

/-- None out of a number is zero. -/
theorem quotient_zero {n : Nat} (hn : 0 < n) : (Scalar.quotient 0 n : Float) = Scalar.zero := by
  by_cases hlt : n < 2 ^ 53
  · rw [show (0 : Int) = (0 : Nat) from rfl, quotient_eq_div (by omega) hlt]
    change Float.ofModel (Float.Model.pack (div Format.binary64 (Float.ofNat 0).toModel.unpack
      (Float.ofNat n).toModel.unpack)) = Float.ofNat 0
    rw [unpack_ofNat hn hlt, show (Float.ofNat 0).toModel.unpack = .zero .positive from rfl]
    rfl
  · rw [show (0 : Int) = (0 : Nat) from rfl, quotient_eq_floatOfRat (Nat.le_of_not_lt hlt),
      Nat.cast_zero, Rat.zero_mkRat]
    decide +kernel

end Concord.Number
