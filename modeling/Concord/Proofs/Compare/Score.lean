import Concord.Compare.Agreement
import Concord.Proofs.Number.Bound

/-!
# Concord.Proofs.Compare.Score

Overall scores are numbers.  Whatever the weights are, the weighted sum of one implementation is
kept between zero and one, and so is the mean over all implementations, in spite of rounding:
`zero_le_overall` and `overall_le_one`.
-/

namespace Concord.Compare

variable (settings : ComparisonSettings Float) (scorers : Scorers Float) (reference : Outline)

/-- A weighted score is never below zero. -/
theorem zero_le_weighted (scores weights : ByDimension Float) :
    Scalar.zero ≤ scores.weighted weights := by
  have zero_le_zero : (Scalar.zero : Float) ≤ Scalar.zero := by decide
  have zero_le_larger (x : Float) : Scalar.zero ≤ Scalar.larger Scalar.zero x := by
    unfold Scalar.larger
    split
    · next h => exact Number.float_le_of_lt h
    · exact zero_le_zero
  unfold ByDimension.weighted Scalar.smaller
  dsimp only
  split
  · exact zero_le_larger _
  · decide

/-- A weighted score is never above one. -/
theorem weighted_le_one (scores weights : ByDimension Float) :
    scores.weighted weights ≤ Scalar.one := by
  unfold ByDimension.weighted Scalar.smaller
  dsimp only
  split
  · next h => exact Number.float_le_of_lt h
  · decide

/-- **The overall score of a comparison is not below zero, however the dimensions are weighted.** -/
theorem zero_le_overall (targets : List (String × Outline)) (h : targets.length < 2 ^ 53) :
    Scalar.zero ≤ (compare settings scorers reference targets).overall := by
  unfold compare
  dsimp only
  split
  · decide
  · next hne =>
    apply Number.zero_le_mean
    · intro x hx
      simp only [List.map_map, List.mem_map, Function.comp_apply] at hx
      obtain ⟨target, -, rfl⟩ := hx
      exact zero_le_weighted _ _
    · simpa [List.isEmpty_iff] using hne
    · simpa [sortTargets] using h

/-- **The overall score of a comparison is not above one.** -/
theorem overall_le_one (targets : List (String × Outline)) (h : targets.length < 2 ^ 53) :
    (compare settings scorers reference targets).overall ≤ Scalar.one := by
  have oneFits : 1 < 2 ^ 53 := by norm_num
  unfold compare
  dsimp only
  split
  · decide
  · next hne =>
    refine ((Number.isUpTo_unpack_iff Nat.one_pos oneFits).1 (Number.mean_isUpTo_one ?_ ?_ ?_)).2
    · intro x hx
      simp only [List.map_map, List.mem_map, Function.comp_apply] at hx
      obtain ⟨target, -, rfl⟩ := hx
      exact (Number.isUpTo_unpack_iff Nat.one_pos oneFits).2
        ⟨zero_le_weighted _ _, weighted_le_one _ _⟩
    · simpa [List.isEmpty_iff] using hne
    · simpa [sortTargets] using h

end Concord.Compare
