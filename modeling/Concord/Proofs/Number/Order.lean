import Mathlib
import Concord.Number.Scalar

/-!
# Concord.Proofs.Number.Order

The order of floating-point numbers.  Every float but the one that is no number has a *place* in a
linear order, and two floats compare as their places do:

* `float_le_trans` — the order is transitive;
* `float_le_or_lt` — of two numbers, the first is not above the second or the second is below it;
* `float_lt_iff` — between numbers, to be below is not to reach.

A float is a number exactly if it is not above itself (`IsNumber`).
-/

namespace Concord

/-- What compares with itself: every element but the float that is no number. -/
def Scalar.IsNumber {α : Type} [Scalar α] (a : α) : Prop := a ≤ a

namespace Number

open Float.Model (UnpackedFloat)

/-! ## Places -/

/-- Where a number stands among all numbers: its kind, from the negative infinity to the positive
one, and among finite numbers of one sign the exponent and then the mantissa. -/
def place? : UnpackedFloat → Option (ℤ ×ₗ ℤ ×ₗ ℤ)
  | .notANumber => none
  | .infinity .negative => some (toLex (-2, toLex (0, 0)))
  | .finite .negative m e _ => some (toLex (-1, toLex (-e, -m)))
  | .zero _ => some (toLex (0, toLex (0, 0)))
  | .finite .positive m e _ => some (toLex (1, toLex (e, m)))
  | .infinity .positive => some (toLex (2, toLex (0, 0)))

/-- The place of zero. -/
def origin : ℤ ×ₗ ℤ ×ₗ ℤ := toLex (0, toLex (0, 0))

/-- Triples compare by their parts, one after the other. -/
theorem compare_toLex (a b c a' b' c' : ℤ) :
    compare (toLex (a, toLex (b, c))) (toLex (a', toLex (b', c'))) =
      (compare a a').then ((compare b b').then (compare c c')) := rfl

/-- Natural numbers are compared as integers are. -/
theorem compare_natCast (m n : Nat) : compare (m : ℤ) (n : ℤ) = compare m n := by
  rcases lt_trichotomy m n with h | h | h
  · rw [compare_lt_iff_lt.2 h, compare_lt_iff_lt.2 (by omega)]
  · subst h; simp
  · rw [compare_gt_iff_gt.2 h, compare_gt_iff_gt.2 (by omega)]

/-- Negation turns a comparison round. -/
theorem compare_neg_neg (a b : ℤ) : compare (-a) (-b) = (compare a b).swap := by
  rcases lt_trichotomy a b with h | h | h
  · rw [compare_lt_iff_lt.2 h, compare_gt_iff_gt.2 (by omega), Ordering.swap_lt]
  · subst h; simp
  · rw [compare_gt_iff_gt.2 h, compare_lt_iff_lt.2 (by omega), Ordering.swap_gt]

/-- **Two numbers compare as their places do.** -/
theorem compare_eq_of_place {u v : UnpackedFloat} {a b : ℤ ×ₗ ℤ ×ₗ ℤ} (hu : place? u = some a)
    (hv : place? v = some b) : u.compare v = some (compare a b) := by
  -- One case for each pair of kinds; only two finite numbers of one sign need more than computing.
  rcases u with (_ | _) | _ | _ | ⟨_ | _, m, e, _⟩ <;>
    rcases v with (_ | _) | _ | _ | ⟨_ | _, n, d, _⟩ <;>
    simp only [place?, Option.some.injEq, reduceCtorEq] at hu hv <;> subst hu <;> subst hv <;>
    simp only [compare_toLex]
  all_goals try rfl
  all_goals simp only [UnpackedFloat.compare, compare_natCast, compare_neg_neg, Ordering.swap_then]
  all_goals rfl

/-- What has no place compares with nothing. -/
theorem compare_of_place_eq_none {u v : UnpackedFloat} (h : place? u = none ∨ place? v = none) :
    u.compare v = none := by
  have no_number : ∀ w : UnpackedFloat, place? w = none → w = .notANumber := by
    rintro ((_ | _) | _ | _ | ⟨_ | _, _, _, _⟩) hw <;> simp_all [place?]
  rcases h with h | h
  · rw [no_number u h]; rfl
  · rw [no_number v h]; cases u <;> rfl

/-! ## Floats -/

/-- The place of a float. -/
def placeOf? (x : Float) : Option (ℤ ×ₗ ℤ ×ₗ ℤ) := place? x.toModel.unpack

/-- Floats are in order exactly if their places are. -/
theorem float_le_iff_place {x y : Float} :
    x ≤ y ↔ ∃ a b, placeOf? x = some a ∧ placeOf? y = some b ∧ a ≤ b := by
  have unfolded : x ≤ y ↔ (x.toModel.unpack.compare y.toModel.unpack).any (·.isLE) = true := by
    change (decide (x.toModel.unpack.le y.toModel.unpack = true)) = true ↔ _
    rw [decide_eq_true_iff]; rfl
  rw [unfolded]
  cases hx : placeOf? x with
  | none => simp [compare_of_place_eq_none (Or.inl hx)]
  | some a =>
      cases hy : placeOf? y with
      | none => simp [compare_of_place_eq_none (Or.inr hy)]
      | some b =>
          have isLE : (compare a b).isLE = true ↔ a ≤ b := by
            rw [← not_lt, ← compare_gt_iff_gt]
            cases compare a b <;> simp
          simp [compare_eq_of_place hx hy, isLE]

/-- Floats are in strict order exactly if their places are. -/
theorem float_lt_iff_place {x y : Float} :
    x < y ↔ ∃ a b, placeOf? x = some a ∧ placeOf? y = some b ∧ a < b := by
  have unfolded : x < y ↔ x.toModel.unpack.compare y.toModel.unpack = some .lt := by
    change (decide (x.toModel.unpack.lt y.toModel.unpack = true)) = true ↔ _
    rw [decide_eq_true_iff, UnpackedFloat.lt]
    exact beq_iff_eq
  rw [unfolded]
  cases hx : placeOf? x with
  | none => simp [compare_of_place_eq_none (Or.inl hx)]
  | some a =>
      cases hy : placeOf? y with
      | none => simp [compare_of_place_eq_none (Or.inr hy)]
      | some b => simp [compare_eq_of_place hx hy, compare_lt_iff_lt]

theorem float_le_of_lt {x y : Float} (h : x < y) : x ≤ y := by
  obtain ⟨a, b, ha, hb, hab⟩ := float_lt_iff_place.1 h
  exact float_le_iff_place.2 ⟨a, b, ha, hb, hab.le⟩

/-- A float is a number exactly if it has a place. -/
theorem isNumber_iff_place {x : Float} : Scalar.IsNumber x ↔ ∃ a, placeOf? x = some a := by
  rw [Scalar.IsNumber, float_le_iff_place]
  constructor
  · rintro ⟨a, _, ha, _⟩
    exact ⟨a, ha⟩
  · rintro ⟨a, ha⟩
    exact ⟨a, a, ha, ha, le_refl a⟩

/-- The order of floats is transitive. -/
theorem float_le_trans {x y z : Float} (hxy : x ≤ y) (hyz : y ≤ z) : x ≤ z := by
  obtain ⟨a, b, ha, hb, hab⟩ := float_le_iff_place.1 hxy
  obtain ⟨b', c, hb', hc, hbc⟩ := float_le_iff_place.1 hyz
  obtain rfl : b = b' := Option.some.inj (hb.symm.trans hb')
  exact float_le_iff_place.2 ⟨a, c, ha, hc, hab.trans hbc⟩

/-- Of two numbers one is before the other. -/
theorem float_le_or_lt {x y : Float} (hx : Scalar.IsNumber x) (hy : Scalar.IsNumber y) :
    x ≤ y ∨ y < x := by
  obtain ⟨a, ha⟩ := isNumber_iff_place.1 hx
  obtain ⟨b, hb⟩ := isNumber_iff_place.1 hy
  rcases le_or_gt a b with h | h
  · exact Or.inl (float_le_iff_place.2 ⟨a, b, ha, hb, h⟩)
  · exact Or.inr (float_lt_iff_place.2 ⟨b, a, hb, ha, h⟩)

/-- Among numbers the strict order is what the order leaves. -/
theorem float_lt_iff {x y : Float} (hx : Scalar.IsNumber x) (hy : Scalar.IsNumber y) :
    x < y ↔ ¬ y ≤ x := by
  obtain ⟨a, ha⟩ := isNumber_iff_place.1 hx
  obtain ⟨b, hb⟩ := isNumber_iff_place.1 hy
  rw [float_lt_iff_place, float_le_iff_place]
  simp [ha, hb]

/-- What is not below some float is a number, and so is what is not above one. -/
theorem isNumber_of_le {x y : Float} (h : x ≤ y) : Scalar.IsNumber x ∧ Scalar.IsNumber y := by
  obtain ⟨a, b, ha, hb, _⟩ := float_le_iff_place.1 h
  exact ⟨isNumber_iff_place.2 ⟨a, ha⟩, isNumber_iff_place.2 ⟨b, hb⟩⟩

end Number
end Concord
