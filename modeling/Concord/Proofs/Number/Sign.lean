import Concord.Proofs.Number.Order
import Concord.Proofs.Number.Rounding

/-!
# Concord.Proofs.Number.Sign

Floats that are not below zero.  Sums of them are not below zero, nor are their quotients by a
count, so that their mean is a number: `zero_le_mean`.  An infinity may come up on the way, but
nothing that is no number.
-/

namespace Concord.Number

open Float.Model (UnpackedFloat Format)
open Float.Model.UnpackedFloat

/-- Not below zero. -/
def IsNonneg : UnpackedFloat → Prop
  | .notANumber => False
  | .infinity s => s = .positive
  | .zero _ => True
  | .finite s _ _ _ => s = .positive

theorem isNonneg_iff_place (u : UnpackedFloat) :
    IsNonneg u ↔ ∃ a, place? u = some a ∧ origin ≤ a := by
  rcases u with (_ | _) | _ | _ | ⟨_ | _, m, e, _⟩ <;>
    simp [IsNonneg, place?, origin, Prod.Lex.toLex_le_toLex]

theorem placeOf?_zero : placeOf? (Scalar.zero : Float) = some origin := by decide

/-- A float is at least zero exactly if it is not negative. -/
theorem zero_le_iff {x : Float} : Scalar.zero ≤ x ↔ IsNonneg x.toModel.unpack := by
  rw [float_le_iff_place, isNonneg_iff_place, placeOf?_zero]
  constructor
  · rintro ⟨a, b, ha, hb, h⟩
    obtain rfl := Option.some.inj ha
    exact ⟨b, hb, h⟩
  · rintro ⟨b, hb, h⟩
    exact ⟨origin, b, rfl, hb, h⟩

/-- Components with a positive sign are unpacked to what is not negative, if they are those of a
number or of infinity. -/
theorem isNonneg_unpack_packComponents (e : BitVec 11) (m : BitVec 52) (h : e = -1#11 → m = 0#52) :
    IsNonneg (unpack Format.binary64 (packComponents Format.binary64 .positive e m)) := by
  unfold unpack
  simp only [unpackMantissa_packComponents, unpackExponent_packComponents,
    unpackSign_packComponents, ofBitVec_toBitVec]
  split
  · next he => rw [if_pos (h he)]; rfl
  · split
    · split <;> trivial
    · rfl

/-- Packing a float that is not negative and unpacking it gives one that is not. -/
theorem isNonneg_unpack_pack {u : UnpackedFloat} (h : IsNonneg u) :
    IsNonneg (Float.Model.pack u).unpack := by
  rw [unpack_pack_model]
  rcases u with s | _ | s | ⟨s, m, e, _⟩
  · obtain rfl : s = .positive := h
    exact isNonneg_unpack_packComponents _ _ fun _ => rfl
  · exact h.elim
  · cases s
    · trivial
    · exact isNonneg_unpack_packComponents _ _ fun _ => rfl
  · obtain rfl : s = .positive := h
    simp only [pack]
    split
    · exact isNonneg_unpack_packComponents _ _ fun _ => rfl
    · next hb =>
      split
      · apply isNonneg_unpack_packComponents
        intro he
        have hlt : (e + Format.binary64.exponentBias + 52 : Int).toNat + 1 < 2 ^ 11 := by omega
        have := congrArg BitVec.toNat he
        simp at this
        omega
      · apply isNonneg_unpack_packComponents
        intro he
        exact absurd he (by decide)

/-- Rounding with a positive sign never gives a negative float. -/
theorem isNonneg_roundWithAccuracy (m : Nat) (e : Int) (a : Accuracy) :
    IsNonneg (roundWithAccuracy Format.binary64 .positive m e a) := by
  unfold roundWithAccuracy
  dsimp only
  split <;> trivial

theorem isNonneg_round (m : Nat) (e : Int) :
    IsNonneg (UnpackedFloat.round Format.binary64 .positive m e) :=
  isNonneg_roundWithAccuracy _ _ _

/-- A sum of floats that are not negative is not negative. -/
theorem isNonneg_add {u v : UnpackedFloat} (hu : IsNonneg u) (hv : IsNonneg v) :
    IsNonneg (add Format.binary64 u v) := by
  rcases u with s | _ | s | ⟨s, m, e, hm⟩ <;> rcases v with t | _ | t | ⟨t, n, d, hn⟩ <;>
    simp only [IsNonneg] at hu hv <;> subst_vars <;> try trivial
  · cases s <;> cases t <;> trivial
  · simp only [add, decreaseExponent, Sign.apply]
    have hsum : (0 : Int) < (m <<< (e - min e d).toNat : Nat) + (n <<< (d - min e d).toNat : Nat) :=
      Int.add_pos_of_pos_of_nonneg (Int.natCast_pos.2 (Nat.shiftLeft_pos_iff.2 hm))
        (Int.natCast_nonneg _)
    rw [UnpackedFloat.normalize, Int.compare_eq_gt.2 hsum]
    exact isNonneg_round _ _

/-- A quotient by a positive finite float is not negative where the dividend is not. -/
theorem isNonneg_div {u : UnpackedFloat} (hu : IsNonneg u) (n : Nat) (d : Int) (hn : 0 < n) :
    IsNonneg (div Format.binary64 u (.finite .positive n d hn)) := by
  rcases u with s | _ | s | ⟨s, m, e, hm⟩
  · obtain rfl : s = .positive := hu
    rfl
  · exact hu.elim
  · trivial
  · obtain rfl : s = .positive := hu
    exact isNonneg_roundWithAccuracy _ _ _

/-! ## Sums and means -/

/-- Sums of floats from zero on are from zero on. -/
theorem zero_le_add {x y : Float} (hx : Scalar.zero ≤ x) (hy : Scalar.zero ≤ y) :
    Scalar.zero ≤ x + y :=
  zero_le_iff.2 (isNonneg_unpack_pack (isNonneg_add (zero_le_iff.1 hx) (zero_le_iff.1 hy)))

/-- And so are quotients by a natural number. -/
theorem zero_le_div_ofNat {x : Float} (hx : Scalar.zero ≤ x) {n : Nat} (hn : 0 < n)
    (hlt : n < 2 ^ 53) : Scalar.zero ≤ x / Float.ofNat n := by
  rw [zero_le_iff]
  apply isNonneg_unpack_pack
  rw [unpack_ofNat hn hlt]
  exact isNonneg_div (zero_le_iff.1 hx) _ _ _

/-- And so are sums of many floats. -/
theorem zero_le_sum {xs : List Float} (h : ∀ x ∈ xs, Scalar.zero ≤ x) :
    Scalar.zero ≤ Scalar.sum xs := by
  have fold : ∀ (acc : Float), Scalar.zero ≤ acc → Scalar.zero ≤ xs.foldl (· + ·) acc := by
    induction xs with
    | nil => exact fun _ hacc => hacc
    | cons x xs ih =>
        intro acc hacc
        refine ih (fun y hy => h y (List.mem_cons_of_mem x hy)) _ ?_
        exact zero_le_add hacc (h x List.mem_cons_self)
  exact fold _ (zero_le_iff.2 trivial)

/-- **The mean of numbers that are not below zero is not below zero.** -/
theorem zero_le_mean {xs : List Float} (h : ∀ x ∈ xs, Scalar.zero ≤ x) (hne : xs ≠ [])
    (hlt : xs.length < 2 ^ 53) : Scalar.zero ≤ Scalar.mean xs :=
  zero_le_div_ofNat (zero_le_sum h) (List.length_pos_iff.2 hne) hlt

end Concord.Number
