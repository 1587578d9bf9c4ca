import Concord.Proofs.Number.Sign

/-!
# Concord.Proofs.Number.Bound

Floats between zero and a whole number.  Rounding to the nearest float passes no float on its way,
and so no whole number of at most 53 bits: sums of floats that are at most `a` and at most `b` are
at most `a + b`, and what is at most `n` is at most once `n`.

* `isUpTo_roundWithAccuracy` — rounding, on the parts of a float;
* `isUpTo_add`, `isUpTo_div` — sums and quotients;
* `isUpTo_unpack_iff` — a float is in the range exactly if its value is;
* `mean_isUpTo_one` — so the mean of floats between zero and one is between zero and one.
-/

namespace Concord.Number

open Float.Model (UnpackedFloat Format totalExponent)
open Float.Model.UnpackedFloat

/-! ## Rounding -/

/-- Whether a shifted mantissa is the whole part of a value, and below it where bits were lost. -/
structure Reaches (em : ExtendedMantissa) (v : ℚ) : Prop where
  le : (em.mantissa : ℚ) ≤ v
  lt : (em.roundBit || em.stickyBit) = true → (em.mantissa : ℚ) < v

/-- Half a mantissa reaches half the value. -/
theorem reaches_shiftRightOne {em : ExtendedMantissa} {v : ℚ} (h : Reaches em v) :
    Reaches em.shiftRightOne (v / 2) := by
  have parts : (em.mantissa : ℚ) = 2 * (em.mantissa / 2 : ℕ) + (em.mantissa % 2 : ℕ) := by
    exact_mod_cast (Nat.div_add_mod em.mantissa 2).symm
  have rest : (0 : ℚ) ≤ (em.mantissa % 2 : ℕ) := Nat.cast_nonneg _
  have le := h.le
  refine ⟨?_, fun lost => ?_⟩
  · show ((em.mantissa / 2 : ℕ) : ℚ) ≤ v / 2
    linarith
  · show ((em.mantissa / 2 : ℕ) : ℚ) < v / 2
    by_cases odd : em.mantissa % 2 = 0
    · have inexact : (em.roundBit || em.stickyBit) = true := by
        simpa [ExtendedMantissa.shiftRightOne, odd] using lost
      have lt := h.lt inexact
      linarith
    · have one : em.mantissa % 2 = 1 := by omega
      rw [one, Nat.cast_one] at parts
      linarith

/-- A mantissa shifted to the right reaches the value divided by that power of two. -/
theorem reaches_shiftRight {em : ExtendedMantissa} {v : ℚ} (h : Reaches em v) (k : ℕ) :
    Reaches (em >>> k) (v / 2 ^ k) := by
  induction k with
  | zero =>
    rw [pow_zero, div_one]
    exact h
  | succ k ih =>
    rw [shiftRight_succ, pow_succ, ← div_div]
    exact reaches_shiftRightOne ih

/-- **Rounding does not pass a whole number that the value does not pass.** -/
theorem roundedMantissa_le {em : ExtendedMantissa} {v : ℚ} {n : ℕ} (h : Reaches em v)
    (hv : v ≤ n) : em.roundedMantissa ≤ n := by
  obtain ⟨le, lt⟩ := h
  have floor : em.mantissa ≤ n := by exact_mod_cast le.trans hv
  rcases em with ⟨m, _ | _, _ | _⟩
  · exact floor
  · exact floor
  · have below : m < n := by exact_mod_cast (lt rfl).trans_le hv
    show m + m % 2 ≤ n
    omega
  · have below : m < n := by exact_mod_cast (lt rfl).trans_le hv
    exact below

/-- Shifting to the right and back never makes a mantissa larger. -/
theorem mantissa_shiftRight_le (em : ExtendedMantissa) (k : ℕ) :
    (em >>> k).mantissa * 2 ^ k ≤ em.mantissa := by
  induction k with
  | zero => simp; rfl
  | succ k ih =>
    have half : (em >>> (k + 1)).mantissa * 2 ≤ (em >>> k).mantissa :=
      Nat.div_mul_le_self _ 2
    calc (em >>> (k + 1)).mantissa * 2 ^ (k + 1)
        = (em >>> (k + 1)).mantissa * 2 * 2 ^ k := by rw [pow_succ]; ring
      _ ≤ (em >>> k).mantissa * 2 ^ k := Nat.mul_le_mul_right _ half
      _ ≤ em.mantissa := ih

/-! ## Whole numbers as bounds -/

/-- Whether a float is zero, or positive and not above a whole number. -/
def IsUpTo (n : ℕ) : UnpackedFloat → Prop
  | .zero _ => True
  | .finite s m e _ => s = .positive ∧ -1074 ≤ e ∧ (m : ℚ) * 2 ^ e ≤ n
  | _ => False

/-- The highest bit of a value below a power of two is below that of the power. -/
theorem log2_add_lt {m : ℕ} {e : ℤ} {v : ℚ} {k : ℤ} (hm : 0 < m) (hv : (m : ℚ) * 2 ^ e ≤ v)
    (hk : v < 2 ^ k) : (m.log2 : ℤ) + e < k := by
  have low : (2 : ℚ) ^ (m.log2 : ℤ) ≤ m := by
    rw [zpow_natCast]
    exact_mod_cast Nat.log2_self_le hm.ne'
  have below : (2 : ℚ) ^ ((m.log2 : ℤ) + e) < 2 ^ k := by
    rw [zpow_add₀ two_ne_zero]
    exact ((mul_le_mul_of_nonneg_right low (by positivity)).trans hv).trans_lt hk
  exact (zpow_lt_zpow_iff_right₀ one_lt_two).1 below

/-- A mantissa shifted to the left, with the exponent that much smaller, has the same value. -/
theorem shiftLeft_mul_zpow (m k : ℕ) (e : ℤ) :
    ((m <<< k : ℕ) : ℚ) * 2 ^ (e - k) = m * 2 ^ e := by
  rw [Nat.shiftLeft_eq, Nat.cast_mul, Nat.cast_pow, zpow_sub₀ two_ne_zero, zpow_natCast]
  field_simp
  norm_num

/-- So does one shifted to the left down to a smaller exponent. -/
theorem shiftLeft_toNat_mul_zpow (m : ℕ) {e t : ℤ} (h : t ≤ e) :
    ((m <<< (e - t).toNat : ℕ) : ℚ) * 2 ^ t = m * 2 ^ e := by
  have exponent : e - ((e - t).toNat : ℤ) = t := by omega
  have value := shiftLeft_mul_zpow m (e - t).toNat e
  rwa [exponent] at value

theorem mantissa_ofMantissaAndAccuracy (m : ℕ) (a : Accuracy) :
    (ExtendedMantissa.ofMantissaAndAccuracy m a).mantissa = m := by
  rcases a with _ | _ | _ | _ <;> rfl

/-- Numbers of at most 53 bits are rounded to whole numbers or fractions of one. -/
theorem targetExponent_nonpos {m n : ℕ} {e : ℤ} (fractions : 0 < m ∨ e ≤ 0)
    (hv : (m : ℚ) * 2 ^ e ≤ n) (hn : n < 2 ^ 53) :
    Format.binary64.targetExponent (totalExponent m e) ≤ 0 := by
  rw [targetExponent_eq, totalExponent]
  by_cases none : m = 0
  · subst none
    have log : Nat.log2 0 = 0 := rfl
    omega
  · have log := log2_add_lt (k := 53) (Nat.pos_of_ne_zero none) hv (by exact_mod_cast hn)
    omega

/-- A whole number as a bound, in units of `2 ^ (e + k)`. -/
theorem div_pow_le {v : ℚ} {n j k : ℕ} {e : ℤ} (hv : v * 2 ^ e ≤ n) (hj : (j : ℤ) = -(e + k)) :
    v / 2 ^ k ≤ (n * 2 ^ j : ℕ) := by
  have scale : (2 : ℚ) ^ e * 2 ^ j = (2 ^ k)⁻¹ := by
    rw [← zpow_natCast, ← zpow_natCast, ← zpow_neg, ← zpow_add₀ two_ne_zero]
    congr 1
    omega
  calc v / 2 ^ k = v * 2 ^ e * 2 ^ j := by rw [mul_assoc, scale, div_eq_mul_inv]
    _ ≤ n * 2 ^ j := mul_le_mul_of_nonneg_right hv (by positivity)
    _ = (n * 2 ^ j : ℕ) := by push_cast; rfl

/-- The way back from such units. -/
theorem mul_zpow_le {f n j l : ℕ} {e : ℤ} (h : f * 2 ^ l ≤ n * 2 ^ j) (hj : (j : ℤ) = -e) :
    (f : ℚ) * 2 ^ (e + l) ≤ n := by
  have bound : (f : ℚ) * 2 ^ l ≤ n * 2 ^ j := by exact_mod_cast h
  have scale : (2 : ℚ) ^ (e + l) = 2 ^ l * (2 ^ j)⁻¹ := by
    rw [← zpow_natCast, ← zpow_natCast, ← zpow_neg, ← zpow_add₀ two_ne_zero]
    congr 1
    omega
  rw [scale, ← mul_assoc, ← div_eq_mul_inv, div_le_iff₀ (by positivity)]
  exact bound

/-- **A value that does not pass a whole number is not rounded past it**, if fractions of one are
counted. -/
theorem isUpTo_roundWithAccuracy {m n : ℕ} {e : ℤ} {a : Accuracy} {v : ℚ}
    (h : Reaches (.ofMantissaAndAccuracy m a) v) (fractions : e ≤ 0) (hv : v * 2 ^ e ≤ n)
    (hn : n < 2 ^ 53) : IsUpTo n (roundWithAccuracy Format.binary64 .positive m e a) := by
  have target : Format.binary64.targetExponent (totalExponent m e) ≤ 0 := by
    have le := h.le
    rw [mantissa_ofMantissaAndAccuracy] at le
    have small : (m : ℚ) * 2 ^ e ≤ n :=
      (mul_le_mul_of_nonneg_right le (by positivity)).trans hv
    exact targetExponent_nonpos (.inr fractions) small hn
  unfold roundWithAccuracy shiftToTargetExponent shiftToExponent
  dsimp only
  -- The mantissa is shifted by `k` bits and rounded; the bound is a whole number of such units.
  generalize Format.binary64.targetExponent (totalExponent m e) = t at target ⊢
  obtain ⟨k, hk⟩ : ∃ k, k = (t - e).toNat := ⟨_, rfl⟩
  rw [← hk]
  obtain ⟨j, hj⟩ : ∃ j : ℕ, (j : ℤ) = -(e + k) := ⟨(-(e + k)).toNat, by omega⟩
  have rounded := roundedMantissa_le (reaches_shiftRight h k) (div_pow_le hv hj)
  generalize (ExtendedMantissa.ofMantissaAndAccuracy m a >>> k).roundedMantissa = r at rounded ⊢
  -- A carry may make the rounded mantissa too long, and the second shift only takes away from it.
  have least : -1074 ≤ Format.binary64.targetExponent (totalExponent r (e + k)) := le_max_right _ _
  generalize Format.binary64.targetExponent (totalExponent r (e + k)) = u at least ⊢
  obtain ⟨l, hl⟩ : ∃ l, l = (u - (e + k)).toNat := ⟨_, rfl⟩
  rw [← hl]
  have final := mantissa_shiftRight_le (.ofMantissaAndAccuracy r .exact) l
  rw [mantissa_ofMantissaAndAccuracy] at final
  split
  · trivial
  · exact ⟨rfl, by omega, mul_zpow_le (final.trans rounded) hj⟩

theorem reaches_exact (m : ℕ) : Reaches (.ofMantissaAndAccuracy m .exact) m :=
  ⟨le_refl _, nofun⟩

/-- A rounded value is up to any number that the exact one is up to. -/
theorem isUpTo_round {m n : ℕ} {e : ℤ} (hm : 0 < m) (hv : (m : ℚ) * 2 ^ e ≤ n) (hn : n < 2 ^ 53) :
    IsUpTo n (UnpackedFloat.round Format.binary64 .positive m e) := by
  have target := targetExponent_nonpos (.inl hm) hv hn
  unfold UnpackedFloat.round decreaseExponent
  refine isUpTo_roundWithAccuracy (reaches_exact _) (by omega) ?_ hn
  rw [shiftLeft_mul_zpow]
  exact hv

/-! ## Sums -/

/-- What is up to a number is up to every larger one. -/
theorem isUpTo_mono {m n : ℕ} (h : m ≤ n) {u : UnpackedFloat} (hu : IsUpTo m u) : IsUpTo n u := by
  rcases u with _ | _ | _ | _
  · exact hu
  · exact hu
  · exact hu
  · exact ⟨hu.1, hu.2.1, hu.2.2.trans (by exact_mod_cast h)⟩

/-- A sum is up to the sum of the bounds. -/
theorem isUpTo_add {a b : ℕ} {u v : UnpackedFloat} (hu : IsUpTo a u) (hv : IsUpTo b v)
    (hn : a + b < 2 ^ 53) : IsUpTo (a + b) (add Format.binary64 u v) := by
  rcases u with s | _ | s | ⟨s, m, e, hm⟩
  · exact hu.elim
  · exact hu.elim
  · rcases v with t | _ | t | ⟨t, k, d, hk⟩
    · exact hv.elim
    · exact hv.elim
    · cases s <;> cases t <;> trivial
    · exact isUpTo_mono (Nat.le_add_left b a) hv
  · rcases v with t | _ | t | ⟨t, k, d, hk⟩
    · exact hv.elim
    · exact hv.elim
    · exact isUpTo_mono (Nat.le_add_right a b) hu
    · obtain ⟨rfl, -, leA⟩ := hu
      obtain ⟨rfl, -, leB⟩ := hv
      simp only [add, decreaseExponent, Sign.apply]
      have sum : ((m <<< (e - min e d).toNat + k <<< (d - min e d).toNat : ℕ) : ℚ) * 2 ^ min e d ≤
          (a + b : ℕ) := by
        rw [Nat.cast_add, Nat.cast_add, add_mul, shiftLeft_toNat_mul_zpow m (min_le_left e d),
          shiftLeft_toNat_mul_zpow k (min_le_right e d)]
        exact add_le_add leA leB
      have pos : 0 < m <<< (e - min e d).toNat + k <<< (d - min e d).toNat :=
        Nat.add_pos_left (Nat.shiftLeft_pos_iff.2 hm) _
      rw [UnpackedFloat.normalize, ← Nat.cast_add, Int.compare_eq_gt.2 (Int.natCast_pos.2 pos)]
      exact isUpTo_round pos sum hn

/-! ## Quotients -/

/-- The mantissa of a quotient, with the accuracy of its rest, reaches the quotient. -/
theorem reaches_div (m k : ℕ) (hk : 0 < k) :
    Reaches (.ofMantissaAndAccuracy (m / k) (accuracyOfFraction (m % k) k)) ((m : ℚ) / k) := by
  have parts : (m : ℚ) = k * (m / k : ℕ) + (m % k : ℕ) := by
    exact_mod_cast (Nat.div_add_mod m k).symm
  have pos : (0 : ℚ) < k := by exact_mod_cast hk
  constructor
  · rw [mantissa_ofMantissaAndAccuracy, le_div_iff₀ pos]
    have rest : (0 : ℚ) ≤ (m % k : ℕ) := Nat.cast_nonneg _
    linarith
  · rw [mantissa_ofMantissaAndAccuracy, lt_div_iff₀ pos]
    intro lost
    have rest : (0 : ℚ) < (m % k : ℕ) := by
      rw [Nat.cast_pos]
      refine Nat.pos_of_ne_zero fun none => ?_
      rw [accuracyOfFraction, if_pos none] at lost
      cases lost
    linarith

/-- **What is not above a positive number is at most once that number.** -/
theorem isUpTo_div {n : ℕ} {u : UnpackedFloat} (hu : IsUpTo n u) {k : ℕ} {d : ℤ} (hk : 0 < k)
    (hn : (n : ℚ) ≤ k * 2 ^ d) : IsUpTo 1 (div Format.binary64 u (.finite .positive k d hk)) := by
  rcases u with s | _ | s | ⟨s, m, e, hm⟩
  · exact hu.elim
  · exact hu.elim
  · trivial
  · obtain ⟨rfl, -, le⟩ := hu
    have upper : (k : ℚ) * 2 ^ d < 2 ^ ((k.log2 : ℤ) + 1 + d) := by
      rw [zpow_add₀ two_ne_zero _ d]
      refine mul_lt_mul_of_pos_right ?_ (by positivity)
      exact_mod_cast Nat.lt_log2_self
    have log := log2_add_lt hm (le.trans hn) upper
    have target : Format.binary64.targetExponent (totalExponent m e - totalExponent k d) ≤ 0 := by
      rw [targetExponent_eq, totalExponent, totalExponent]
      omega
    simp only [div, divCore]
    generalize Format.binary64.targetExponent (totalExponent m e - totalExponent k d) = t
      at target ⊢
    have pos : (0 : ℚ) < k := by exact_mod_cast hk
    refine isUpTo_roundWithAccuracy (reaches_div _ k hk) (by omega) ?_ (by norm_num)
    rw [div_mul_eq_mul_div, shiftLeft_toNat_mul_zpow m (min_le_left _ t), zpow_sub₀ two_ne_zero,
      div_le_iff₀ pos, ← mul_div_assoc, div_le_iff₀ (by positivity)]
    simpa using le.trans hn

/-! ## Packing -/

/-- Packing a value and unpacking it keeps its bound. -/
theorem isUpTo_unpack_pack {n : ℕ} {u : UnpackedFloat} (h : IsUpTo n u) (hn : n < 2 ^ 53) :
    IsUpTo n (Float.Model.pack u).unpack := by
  rw [unpack_pack_model]
  rcases u with s | _ | s | ⟨s, m, e, hm⟩
  · exact h.elim
  · exact h.elim
  · cases s <;> trivial
  · obtain ⟨rfl, least, le⟩ := h
    have log := log2_add_lt (k := 53) hm le (by exact_mod_cast hn)
    by_cases full : m.log2 = 52
    · rw [unpack_pack_normal .positive full hm least (by omega)]
      exact ⟨rfl, least, le⟩
    · have bias : (e + Format.binary64.exponentBias + (52 : Nat)) = e + 1075 := by
        rw [show Format.binary64.exponentBias = 1023 from rfl]
        omega
      simp only [pack, bias]
      have width : Format.binary64.mantissaBits = 53 := rfl
      rw [if_neg (by omega), if_neg (by omega)]
      unfold unpack
      simp only [unpackMantissa_packComponents, unpackExponent_packComponents,
        unpackSign_packComponents, ofBitVec_toBitVec]
      rw [if_neg (by decide), if_pos trivial]
      split
      · trivial
      · have exponent : (((0#11).toNat : ℕ) : ℤ) -
            (Format.binary64.exponentBias + (52 : ℕ)) + 1 = -1074 := rfl
        refine ⟨rfl, le_of_eq exponent.symm, ?_⟩
        rw [exponent, BitVec.toNat_ofNat]
        have mantissa : ((m % 2 ^ 52 : ℕ) : ℚ) ≤ m := by exact_mod_cast Nat.mod_le m _
        have power : (2 : ℚ) ^ (-1074 : ℤ) ≤ 2 ^ e := zpow_le_zpow_right₀ one_le_two least
        exact (mul_le_mul mantissa power (by positivity) (by positivity)).trans le

/-- Whether a float has the parts that its place among all floats asks for. -/
def IsReduced : UnpackedFloat → Prop
  | .finite _ m e _ => m < 2 ^ 53 ∧ -1074 ≤ e ∧ (e = -1074 ∨ 2 ^ 52 ≤ m)
  | _ => True

/-- What is unpacked is in reduced form. -/
theorem isReduced_unpack (b : BitVec 64) : IsReduced (unpack Format.binary64 b) := by
  have bias : (Format.binary64.exponentBias : ℤ) + (52 : ℕ) = 1075 := rfl
  unfold unpack
  simp only [bias]
  split
  · split <;> trivial
  · split
    · split
      · trivial
      · next exponent _ =>
        have bits : (@unpackMantissa Format.binary64 b).toNat < 2 ^ 52 := BitVec.isLt _
        have zero : (@unpackExponent Format.binary64 b).toNat = 0 := by rw [exponent]; rfl
        refine ⟨by omega, by omega, .inl (by omega)⟩
    · next exponent =>
      have nonzero : (@unpackExponent Format.binary64 b).toNat ≠ 0 := fun zero =>
        exponent (BitVec.eq_of_toNat_eq zero)
      have bits : (@unpackMantissa Format.binary64 b).toNat < 2 ^ 52 := BitVec.isLt _
      have mantissa : (1#1 ++ @unpackMantissa Format.binary64 b).toNat =
          2 ^ 52 + (@unpackMantissa Format.binary64 b).toNat := by
        rw [BitVec.toNat_append, ← Nat.shiftLeft_add_eq_or_of_lt bits]
        rfl
      refine ⟨by omega, by omega, .inr (by omega)⟩

/-! ## Floats -/

section

variable {n : ℕ}

/-- A whole number as a float has its value, and a mantissa that fills the format. -/
theorem unpack_ofNat_full (pos : 0 < n) (hn : n < 2 ^ 53) : ∃ k d, ∃ hk : 0 < k,
    (Float.ofNat n).toModel.unpack = .finite .positive k d hk ∧ (k : ℚ) * 2 ^ d = n ∧
      2 ^ 52 ≤ k ∧ k < 2 ^ 53 ∧ -1074 < d := by
  have log : n.log2 < 53 := (Nat.log2_lt pos.ne').2 hn
  refine ⟨_, _, _, unpack_ofNat pos hn, ?_, ?_, ?_, by omega⟩
  · have value := shiftLeft_mul_zpow n (52 - n.log2) 0
    rw [show (0 : ℤ) - ((52 - n.log2 : ℕ) : ℤ) = n.log2 - 52 by omega] at value
    simpa using value
  all_goals
    have full : (n <<< (52 - n.log2)).log2 = 52 := by rw [log2_shiftLeft pos]; omega
    have bits := (Nat.log2_eq_iff (Nat.shiftLeft_pos_iff.2 pos).ne').1 full
    omega

/-- Values compare by exponents first, as far as mantissas fill the format. -/
theorem mul_zpow_le_iff {m k : ℕ} {e d : ℤ} (small : m < 2 ^ 53)
    (reduced : e = -1074 ∨ 2 ^ 52 ≤ m) (low : 2 ^ 52 ≤ k) (high : k < 2 ^ 53)
    (least : -1074 < d) : (m : ℚ) * 2 ^ e ≤ k * 2 ^ d ↔ e < d ∨ e = d ∧ m ≤ k := by
  have double (i : ℤ) : (2 : ℚ) ^ 52 * 2 ^ (i + 1) = 2 ^ 53 * 2 ^ i := by
    rw [zpow_add_one₀ two_ne_zero]
    ring
  have power {i j : ℤ} (h : i ≤ j) : (2 : ℚ) ^ i ≤ 2 ^ j := zpow_le_zpow_right₀ one_le_two h
  rcases lt_trichotomy e d with below | rfl | above
  · refine iff_of_true ?_ (.inl below)
    calc (m : ℚ) * 2 ^ e ≤ 2 ^ 53 * 2 ^ e := by
          exact mul_le_mul_of_nonneg_right (by exact_mod_cast small.le) (by positivity)
      _ = 2 ^ 52 * 2 ^ (e + 1) := (double e).symm
      _ ≤ 2 ^ 52 * 2 ^ d := mul_le_mul_of_nonneg_left (power below) (by positivity)
      _ ≤ k * 2 ^ d := mul_le_mul_of_nonneg_right (by exact_mod_cast low) (by positivity)
  · rw [mul_le_mul_iff_left₀ (by positivity), Nat.cast_le]
    simp
  · have filled : 2 ^ 52 ≤ m := reduced.resolve_left (by omega)
    refine iff_of_false (not_le.2 ?_) (by omega)
    calc (k : ℚ) * 2 ^ d < 2 ^ 53 * 2 ^ d := by
          exact mul_lt_mul_of_pos_right (by exact_mod_cast high) (by positivity)
      _ = 2 ^ 52 * 2 ^ (d + 1) := (double d).symm
      _ ≤ 2 ^ 52 * 2 ^ e := mul_le_mul_of_nonneg_left (power above) (by positivity)
      _ ≤ m * 2 ^ e := mul_le_mul_of_nonneg_right (by exact_mod_cast filled) (by positivity)

/-- **A float is between zero and a whole number exactly if its value is.** -/
theorem isUpTo_unpack_iff (pos : 0 < n) (hn : n < 2 ^ 53) {x : Float} :
    IsUpTo n x.toModel.unpack ↔ Scalar.zero ≤ x ∧ x ≤ Float.ofNat n := by
  obtain ⟨k, d, hk, parts, value, low, high, least⟩ := unpack_ofNat_full pos hn
  have place : placeOf? (Float.ofNat n) = some (toLex (1, toLex (d, (k : ℤ)))) := by
    rw [placeOf?, parts]
    rfl
  have reduced : IsReduced x.toModel.unpack := isReduced_unpack _
  rw [zero_le_iff, float_le_iff_place, place, placeOf?]
  generalize x.toModel.unpack = u at reduced ⊢
  rcases u with (_ | _) | _ | s | ⟨_ | _, m, e, hm⟩
  · simp [IsUpTo, IsNonneg, place?]
  · simp [IsUpTo, IsNonneg, place?, Prod.Lex.toLex_le_toLex]
  · simp [IsUpTo, IsNonneg, place?]
  · simp [IsUpTo, IsNonneg, place?, Prod.Lex.toLex_le_toLex]
  · simp [IsUpTo, IsNonneg, place?]
  · have order := mul_zpow_le_iff reduced.1 reduced.2.2 low high least
    rw [value] at order
    simp [IsUpTo, IsNonneg, place?, Prod.Lex.toLex_le_toLex, order, reduced.2.1]

/-! ## Sums and means -/

/-- A sum of values up to one is up to their number, whatever has been added up before. -/
theorem isUpTo_sum {xs : List Float} {k : ℕ} (h : ∀ x ∈ xs, IsUpTo 1 x.toModel.unpack)
    (hn : k + xs.length < 2 ^ 53) {acc : Float} (hacc : IsUpTo k acc.toModel.unpack) :
    IsUpTo (k + xs.length) (xs.foldl (· + ·) acc).toModel.unpack := by
  induction xs generalizing k acc with
  | nil => exact hacc
  | cons x xs ih =>
    rw [List.length_cons] at hn ⊢
    have next : IsUpTo (k + 1) (acc + x).toModel.unpack :=
      isUpTo_unpack_pack (isUpTo_add hacc (h x List.mem_cons_self) (by omega)) (by omega)
    have all := ih (fun y hy => h y (List.mem_cons_of_mem x hy)) (by omega) next
    rwa [Nat.add_assoc, Nat.add_comm 1] at all

/-- **The mean of floats between zero and one is between zero and one**, whatever rounding does. -/
theorem mean_isUpTo_one {xs : List Float} (h : ∀ x ∈ xs, IsUpTo 1 x.toModel.unpack) (hne : xs ≠ [])
    (hn : xs.length < 2 ^ 53) : IsUpTo 1 (Scalar.mean xs).toModel.unpack := by
  have sum : IsUpTo xs.length (Scalar.sum xs).toModel.unpack := by
    have start : IsUpTo 0 (Scalar.zero : Float).toModel.unpack := trivial
    have all := isUpTo_sum h (by omega) start
    rwa [Nat.zero_add] at all
  obtain ⟨k, d, hk, parts, value, -⟩ := unpack_ofNat_full (List.length_pos_iff.2 hne) hn
  refine isUpTo_unpack_pack (u := div Format.binary64 (Scalar.sum xs).toModel.unpack
    (Float.ofNat xs.length).toModel.unpack) ?_ (by norm_num)
  rw [parts]
  exact isUpTo_div sum hk value.ge

end

end Concord.Number
