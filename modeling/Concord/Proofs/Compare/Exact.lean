import Mathlib.Algebra.Order.BigOperators.Group.List
import Mathlib.Algebra.Order.Field.Rat
import Mathlib.Tactic.GCongr
import Mathlib.Tactic.Positivity
import Concord.Proofs.Settings.Bounds

/-!
# Concord.Proofs.Compare.Exact

Scores in exact arithmetic.  Over the rational numbers the operations of `Scalar` are the usual
ones, so the formulas of scores are read as they are written:

* `matchScore_eq` — the share of what was found less half the share of what differs, not below zero;
* `weighted_eq` — the weighted sum, between zero and one;
* `sum_eq`, `mean_eq` — sums and means of lists.

Where weights are not negative, no score rises if those it is made of do not (`weighted_le`,
`mean_isAtMost`).
-/

namespace Concord

/-! ## Arithmetic -/

namespace Scalar

/-- In exact arithmetic the larger is the maximum. -/
theorem larger_eq (a b : Rat) : larger a b = max a b := by
  change (if a < b then b else a) = max a b
  rcases lt_or_ge a b with h | h
  · rw [if_pos h, max_eq_right h.le]
  · rw [if_neg h.not_gt, max_eq_left h]

/-- In exact arithmetic the smaller is the minimum. -/
theorem smaller_eq (a b : Rat) : smaller a b = min a b := by
  change (if b < a then b else a) = min a b
  rcases lt_or_ge b a with h | h
  · rw [if_pos h, min_eq_right h.le]
  · rw [if_neg h.not_gt, min_eq_left h]

theorem sum_eq (xs : List Rat) : sum xs = xs.sum := by
  change xs.foldl (· + ·) 0 = xs.sum
  rw [List.sum_eq_foldl]

theorem mean_eq (xs : List Rat) : mean xs = xs.sum / xs.length := by
  rw [← sum_eq]
  rfl

/-- The mean of smaller numbers is smaller. -/
theorem mean_le {xs ys : List Rat} (h : List.Forall₂ (· ≤ ·) xs ys) : mean xs ≤ mean ys := by
  rw [mean_eq, mean_eq, h.length_eq]
  have sums : xs.sum ≤ ys.sum := h.sum_le_sum
  gcongr

end Scalar

/-! ## Scores -/

namespace Compare

/-- The match score written out. -/
theorem matchScore_eq (total found differing : Nat) :
    (matchScore total found differing : Rat) =
      if total = 0 then 1
      else max 0 ((found : Rat) / total - 1 / 2 * ((differing : Rat) / total)) := by
  unfold matchScore
  rw [Scalar.larger_eq]
  rfl

/-- The more items differ, the lower is the score. -/
theorem matchScore_le {differing differing' : Nat} (h : differing ≤ differing')
    (total found : Nat) :
    (matchScore total found differing' : Rat) ≤ matchScore total found differing := by
  rw [matchScore_eq, matchScore_eq]
  by_cases none : total = 0
  · rw [if_pos none, if_pos none]
  · rw [if_neg none, if_neg none]
    gcongr

end Compare

namespace ByDimension

/-- Whether scores are at most others, dimension by dimension. -/
structure IsAtMost (a b : ByDimension Rat) : Prop where
  structural : a.structural ≤ b.structural
  type : a.type ≤ b.type
  behavioral : a.behavioral ≤ b.behavioral
  test : a.test ≤ b.test
  idiomatic : a.idiomatic ≤ b.idiomatic

/-- The weighted score written out: the weighted sum, kept from zero to one. -/
theorem weighted_eq (scores weights : ByDimension Rat) :
    scores.weighted weights =
      min 1 (max 0 (scores.structural * weights.structural + scores.type * weights.type +
        scores.behavioral * weights.behavioral + scores.test * weights.test +
        scores.idiomatic * weights.idiomatic)) := by
  unfold weighted
  rw [Scalar.smaller_eq, Scalar.larger_eq]
  rfl

/-- **The weighted sum does not rise if no score does.** -/
theorem weighted_le {a b weights : ByDimension Rat} (nonneg : weights.IsNonneg)
    (h : a.IsAtMost b) : a.weighted weights ≤ b.weighted weights := by
  obtain ⟨h₁, h₂, h₃, h₄, h₅⟩ := h
  obtain ⟨w₁, w₂, w₃, w₄, w₅⟩ := nonneg
  rw [weighted_eq, weighted_eq]
  gcongr

/-- The means do not rise if no score does. -/
theorem mean_isAtMost {as bs : List (ByDimension Rat)} (h : List.Forall₂ IsAtMost as bs) :
    (mean as).IsAtMost (mean bs) := by
  have means (score : ByDimension Rat → Rat) (hscore : ∀ a b, a.IsAtMost b → score a ≤ score b) :
      Scalar.mean (as.map score) ≤ Scalar.mean (bs.map score) := by
    have scores : List.Forall₂ (fun a b => score a ≤ score b) as bs := h.imp hscore
    exact Scalar.mean_le (List.forall₂_map_left_iff.2 (List.forall₂_map_right_iff.2 scores))
  cases h with
  | nil => exact ⟨le_refl _, le_refl _, le_refl _, le_refl _, le_refl _⟩
  | cons _ _ =>
    exact ⟨means (·.structural) fun _ _ h => h.structural, means (·.type) fun _ _ h => h.type,
      means (·.behavioral) fun _ _ h => h.behavioral, means (·.test) fun _ _ h => h.test,
      means (·.idiomatic) fun _ _ h => h.idiomatic⟩

end ByDimension
end Concord
