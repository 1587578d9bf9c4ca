import Mathlib.Tactic.FieldSimp
import Mathlib.Tactic.Linarith
import Concord.Proofs.Compare.Independent
import Concord.Proofs.Compare.Score
import Concord.Proofs.Compare.Strict

/-!
# Concord.Proofs.Compare.Credit

Scores are credit.  An item of the reference earns full credit where it matches its counterpart,
half of it where it differs, and none where it is missing; the score of types, and that of
functions, is the mean credit of the items that count, and full if there are none:

```
score = (n - m - k / 2) / n      n items, m of them missing, k of them differing
```

The law of a score is `IsMeanCredit`.  It rests on the books of a comparison: no item is both
missing and differing (`Ledger.Account.counts`), so that the credit is never below zero and the
floor at zero has nothing to do (`quotients_eq_credit`).  `compare_isMeanCredit` states it of a
whole comparison, in exact arithmetic, together with the bounds of the scores that are made of
these: whatever the weights are, nothing leaves the range from zero to one.  Floats keep the range
as well (`rounded_isPortion`).
-/

namespace Concord.Compare

/-! ## Credit -/

/-- Whether a score lies between zero and one. -/
structure IsPortion {α : Type} [Scalar α] (score : α) : Prop where
  nonneg : Scalar.zero ≤ score
  le_one : score ≤ Scalar.one

theorem isPortion_iff {score : Rat} : IsPortion score ↔ 0 ≤ score ∧ score ≤ 1 :=
  ⟨fun h => ⟨h.nonneg, h.le_one⟩, fun h => ⟨h.1, h.2⟩⟩

section Credit

variable {n m k : Nat}

/-- The credit of items, some missing and some differing, is a portion. -/
theorem credit_isPortion (h : m + k ≤ n) : IsPortion (((n : Rat) - m - k / 2) / n) := by
  have enough : (m : Rat) + k ≤ n := by exact_mod_cast h
  have hm : (0 : Rat) ≤ m := Nat.cast_nonneg m
  have hk : (0 : Rat) ≤ k := Nat.cast_nonneg k
  constructor
  · exact div_nonneg (by linarith) (by linarith)
  · exact div_le_one_of_le₀ (by linarith) (by linarith)

/-- The credit is full only where nothing is missing and nothing differs. -/
theorem credit_eq_one_iff (pos : 0 < n) :
    ((n : Rat) - m - k / 2) / n = 1 ↔ m = 0 ∧ k = 0 := by
  have hn : (n : Rat) ≠ 0 := by exact_mod_cast pos.ne'
  have hm : (0 : Rat) ≤ m := Nat.cast_nonneg m
  have hk : (0 : Rat) ≤ k := Nat.cast_nonneg k
  rw [div_eq_one_iff_eq hn]
  constructor
  · intro h
    constructor
    · exact_mod_cast (by linarith : (m : Rat) = 0)
    · exact_mod_cast (by linarith : (k : Rat) = 0)
  · rintro ⟨rfl, rfl⟩
    simp

/-- There is no credit only where everything is missing: what differs earns half of it. -/
theorem credit_eq_zero_iff (pos : 0 < n) (h : m + k ≤ n) :
    ((n : Rat) - m - k / 2) / n = 0 ↔ m = n := by
  have hn : (n : Rat) ≠ 0 := by exact_mod_cast pos.ne'
  have enough : (m : Rat) + k ≤ n := by exact_mod_cast h
  have hk : (0 : Rat) ≤ k := Nat.cast_nonneg k
  rw [div_eq_zero_iff, or_iff_left hn]
  constructor
  · intro h
    exact_mod_cast (by linarith : (m : Rat) = n)
  · rintro rfl
    have none : (k : Rat) = 0 := by linarith
    simp [none]

/-- The share of what was found less half the share of what differs. -/
theorem quotients_eq_credit (pos : 0 < n) (h : m + k ≤ n) :
    ((n - m : Nat) : Rat) / n - 1 / 2 * (k / n) = ((n : Rat) - m - k / 2) / n := by
  have hn : (n : Rat) ≠ 0 := by exact_mod_cast pos.ne'
  rw [Nat.cast_sub (by omega)]
  field_simp

/-- The match score is the credit: all but the missing, and half for the differing. -/
theorem matchScore_eq_credit (h : m + k ≤ n) :
    (matchScore n (n - m) k : Rat) =
      if n = 0 then 1 else ((n : Rat) - m - k / 2) / n := by
  rw [matchScore_eq]
  by_cases none : n = 0
  · rw [if_pos none, if_pos none]
  · rw [if_neg none, if_neg none, quotients_eq_credit (Nat.pos_of_ne_zero none) h,
      max_eq_right (isPortion_iff.1 (credit_isPortion h)).1]

end Credit

/-! ## Scores of items -/

/-- Whether a score in exact arithmetic is the mean credit of the items of a reference, of which
some are missing among others and some differ. -/
structure IsMeanCredit {ι ρ : Type} (name : ι → String) (others items : List ι)
    (missing : List String) (differing : List ρ) (gaps : List Gap) (score : Rat) : Prop where
  counts : missing.length + differing.length ≤ items.length
  eq_credit : score =
    if items.length = 0 then 1
    else ((items.length : Rat) - missing.length - differing.length / 2) / items.length
  /-- The score is what it would be without a floor at zero. -/
  not_floored : items.length ≠ 0 → score =
    Scalar.quotient (items.length - missing.length : Nat) items.length -
      Scalar.quotient 1 2 * Scalar.quotient differing.length items.length
  isPortion : IsPortion score
  eq_one_iff : score = 1 ↔ gaps = []
  eq_zero_iff : items.length ≠ 0 → (score = 0 ↔ ∀ i ∈ items, IsMissing name others i)

/-- **The score that goes with a report is the mean credit of the items.** -/
theorem Ledger.Account.isMeanCredit {ι ρ : Type} {ledger : Ledger ι ρ} {others items : List ι}
    {names : List String} {entries : List ρ} {gaps : List Gap}
    (h : ledger.Account others items names entries gaps) :
    IsMeanCredit ledger.name others items names entries gaps
      (matchScore items.length (items.length - names.length) entries.length) := by
  have counts := h.counts
  have perGap := h.length_gaps
  have score := matchScore_eq_credit counts
  by_cases none : items.length = 0
  · rw [if_pos none] at score
    have noGap : gaps = [] := List.eq_nil_of_length_eq_zero (by omega)
    exact
      { counts
        eq_credit := by rw [if_pos none, score]
        not_floored := fun some => absurd none some
        isPortion := by rw [score]; exact ⟨zero_le_one, le_refl 1⟩
        eq_one_iff := iff_of_true score noGap
        eq_zero_iff := fun some => absurd none some }
  · have pos := Nat.pos_of_ne_zero none
    rw [if_neg none] at score
    exact
      { counts
        eq_credit := by rw [if_neg none, score]
        not_floored := fun _ => score.trans (quotients_eq_credit pos counts).symm
        isPortion := score ▸ credit_isPortion counts
        eq_one_iff := by
          rw [score, credit_eq_one_iff pos, ← List.length_eq_zero_iff (l := gaps), perGap]
          omega
        eq_zero_iff := fun _ => by
          rw [score, credit_eq_zero_iff pos counts, h.length_names_eq_iff] }

/-! ## Scores made of scores -/

/-- The mean of portions is a portion. -/
theorem mean_isPortion {scores : List Rat} (h : ∀ s ∈ scores, IsPortion s) :
    IsPortion (Scalar.mean scores) := by
  have lower : 0 ≤ scores.sum := List.sum_nonneg fun s hs => (h s hs).nonneg
  have upper : scores.sum ≤ scores.length := by
    simpa using List.sum_le_card_nsmul scores 1 fun s hs => (h s hs).le_one
  rw [Scalar.mean_eq]
  exact ⟨by positivity, div_le_one_of_le₀ upper (by positivity)⟩

/-- Half of two portions together is a portion. -/
theorem half_isPortion {a b : Rat} (ha : IsPortion a) (hb : IsPortion b) :
    IsPortion ((a + b) / (2 : Nat)) := by
  obtain ⟨a_nonneg, a_le_one⟩ := isPortion_iff.1 ha
  obtain ⟨b_nonneg, b_le_one⟩ := isPortion_iff.1 hb
  exact ⟨by positivity, div_le_one_of_le₀ (by push_cast; linarith) (by positivity)⟩

theorem weighted_isPortion (scores weights : ByDimension Rat) :
    IsPortion (scores.weighted weights) := by
  rw [ByDimension.weighted_eq]
  exact ⟨le_min zero_le_one (le_max_left _ _), min_le_left _ _⟩

/-- The similarity of two counts is a portion. -/
theorem countSimilarity_isPortion (a b : Nat) : IsPortion (countSimilarity a b : Rat) := by
  have lower : (0 : Rat) ≤ b / a := by positivity
  unfold countSimilarity
  split
  · exact ⟨zero_le_one, le_refl 1⟩
  · split
    · exact isPortion_iff.2 ⟨le_refl 0, zero_le_one⟩
    · change IsPortion (if (1 : Rat) < b / a then 1 / (b / a) else b / a : Rat)
      split
      · next large => exact ⟨by positivity, (div_le_one (by linarith)).2 large.le⟩
      · next small => exact ⟨lower, not_lt.1 small⟩

/-! ## Comparisons -/

section Comparisons

variable (settings : ComparisonSettings Rat) (scorers : Scorers Rat) (reference : Outline)

/-- Whether the scores of one implementation are those of its report, the gaps of types and those of
functions told apart by their dimension. -/
structure IsScored (settings : ComparisonSettings Rat) (scorers : Scorers Rat)
    (reference target : Outline) (own : LanguageAgreement Rat) (gaps : List Gap) : Prop where
  types : IsMeanCredit (·.name) (countedTypes settings target) (countedTypes settings reference)
    own.missingTypes own.typeMismatches (gaps.filter fun gap => gap.dimension = .type)
    own.byDimension.type
  functions : IsMeanCredit (·.name) (countedFunctions settings target)
    (countedFunctions settings reference) own.missingFunctions own.functionMismatches
    (gaps.filter fun gap => gap.dimension = .behavioral) own.byDimension.behavioral
  structural : IsPortion own.byDimension.structural
  test : IsPortion (scorers.test reference target) → IsPortion own.byDimension.test
  idiomatic : IsPortion (scorers.idiomatic reference target) → IsPortion own.byDimension.idiomatic
  overall : IsPortion own.overall

/-- The gaps of a language by dimension are those of its functions and those of its types. -/
theorem filter_dimension_gaps (language : String) (target : Outline) :
    let share := shareOf settings scorers reference language target
    ((share.functionGaps ++ share.typeGaps).filter fun gap => gap.dimension = .type) =
        share.typeGaps ∧
      ((share.functionGaps ++ share.typeGaps).filter fun gap => gap.dimension = .behavioral) =
        share.functionGaps := by
  intro share
  have accounted := shareOf_isAccounted settings scorers reference language target
  have ofFunctions : ∀ gap ∈ share.functionGaps, gap.dimension = .behavioral := fun gap h => by
    rcases accounted.functions.of_mem_gaps gap h with ⟨_, isGap⟩ | ⟨_, _, _, isGap⟩
    · exact isGap.dimension
    · exact isGap.dimension
  have ofTypes : ∀ gap ∈ share.typeGaps, gap.dimension = .type := fun gap h => by
    rcases accounted.types.of_mem_gaps gap h with ⟨_, isGap⟩ | ⟨_, _, _, isGap⟩
    · exact isGap.dimension
    · exact isGap.dimension
  constructor
  · rw [List.filter_append, List.filter_eq_nil_iff.2, List.filter_eq_self.2, List.nil_append]
    · exact fun gap h => by simp [ofTypes gap h]
    · exact fun gap h => by simp [ofFunctions gap h]
  · rw [List.filter_append, List.filter_eq_self.2, List.filter_eq_nil_iff.2, List.append_nil]
    · exact fun gap h => by simp [ofTypes gap h]
    · exact fun gap h => by simp [ofFunctions gap h]

/-- Each language is scored by its own gaps, in exact arithmetic. -/
theorem compareLanguage_isScored (language : String) (target : Outline) :
    IsScored settings scorers reference target
      (compareLanguage settings scorers reference language target).1
      (compareLanguage settings scorers reference language target).2 := by
  have accounted := shareOf_isAccounted settings scorers reference language target
  obtain ⟨ofTypes, ofFunctions⟩ :=
    filter_dimension_gaps settings scorers reference language target
  constructor
  · rw [gaps_shareOf, ofTypes]
    exact accounted.types.isMeanCredit
  · rw [gaps_shareOf, ofFunctions]
    exact accounted.functions.isMeanCredit
  · have functions := countSimilarity_isPortion (countedFunctions settings reference).length
      (countedFunctions settings target).length
    have types := countSimilarity_isPortion (countedTypes settings reference).length
      (countedTypes settings target).length
    exact half_isPortion functions types
  · exact id
  · exact id
  · exact weighted_isPortion _ _

/-- The overall score of a comparison is a portion. -/
theorem overall_isPortion (targets : List (String × Outline)) :
    IsPortion (compare settings scorers reference targets).overall := by
  rw [overall_compare]
  split
  · exact ⟨le_refl 0, zero_le_one⟩
  · apply mean_isPortion
    intro score hscore
    obtain ⟨t, -, rfl⟩ := List.mem_map.1 hscore
    exact (compareLanguage_isScored settings scorers reference t.1 t.2).overall

/-- Rounding takes no overall score out of its range. -/
theorem rounded_isPortion (settings : ComparisonSettings Float) (scorers : Scorers Float)
    (reference : Outline) (targets : List (String × Outline)) :
    let agreement := compare settings scorers reference targets
    (∀ entry ∈ agreement.byLanguage, IsPortion entry.2.overall) ∧
      (targets.length < 2 ^ 53 → IsPortion agreement.overall) := by
  intro agreement
  constructor
  · intro entry there
    rw [byLanguage_compare] at there
    obtain ⟨t, -, rfl⟩ := List.mem_map.1 there
    exact ⟨zero_le_weighted _ _, weighted_le_one _ _⟩
  · exact fun few =>
      ⟨zero_le_overall settings scorers reference targets few,
        overall_le_one settings scorers reference targets few⟩

/-- **The scores of types and functions are mean credits, and no score leaves its range.**  The
credit is told in exact arithmetic; the range of the overall scores is kept by floats as well. -/
theorem compare_isMeanCredit {targets : List (String × Outline)}
    (distinct : (targets.map (·.1)).Nodup) :
    let agreement := compare settings scorers reference targets
    (IsPortion agreement.overall ∧
      ∀ language target, targets.lookup language = some target → ∃ own,
        agreement.byLanguage.lookup language = some own ∧
          IsScored settings scorers reference target own
            (agreement.gaps.filter fun gap => gap.language = language)) ∧
      ∀ (settings : ComparisonSettings Float) (scorers : Scorers Float),
        let agreement := compare settings scorers reference targets
        (∀ entry ∈ agreement.byLanguage, IsPortion entry.2.overall) ∧
          (targets.length < 2 ^ 53 → IsPortion agreement.overall) := by
  intro agreement
  refine ⟨?_, fun settings scorers => rounded_isPortion settings scorers reference targets⟩
  constructor
  · exact overall_isPortion settings scorers reference targets
  · intro language target found
    refine ⟨(compareLanguage settings scorers reference language target).1, ?_, ?_⟩
    · rw [lookup_byLanguage settings scorers reference distinct, found, Option.map_some]
    · rw [filter_gaps_compare settings scorers reference distinct found]
      exact compareLanguage_isScored settings scorers reference language target

end Comparisons

/-- Of four functions that count one matches, two differ and one is missing, and of three types one
each: both earn half of all credit. -/
theorem compare_isMeanCredit_half :
    let agreement := compare exactSettings .full shop [("rust", shopInRust)]
    (([("rust", shopInRust)] : List (String × Outline)).map (·.1)).Nodup ∧
      IsPortion agreement.overall ∧ ∃ own, agreement.byLanguage.lookup "rust" = some own ∧
        IsScored exactSettings .full shop shopInRust own
          (agreement.gaps.filter fun gap => gap.language = "rust") ∧
        (countedFunctions exactSettings shop).length = 4 ∧
        (countedTypes exactSettings shop).length = 3 ∧
        own.byDimension.behavioral = 1 / 2 ∧ own.byDimension.type = 1 / 2 := by
  intro agreement
  have distinct : (([("rust", shopInRust)] : List (String × Outline)).map (·.1)).Nodup := by decide
  obtain ⟨⟨overall, entries⟩, -⟩ := compare_isMeanCredit exactSettings .full shop distinct
  obtain ⟨own, found, isScored⟩ := entries "rust" shopInRust rfl
  have scores : (agreement.byLanguage.lookup "rust").map (fun own =>
      (own.byDimension.behavioral, own.byDimension.type)) = some (1 / 2, 1 / 2) := by
    decide +kernel
  rw [found] at scores
  obtain ⟨behavioral, type⟩ := Prod.mk.inj (Option.some.inj scores)
  exact ⟨distinct, overall, own, found, isScored, by decide, by decide, behavioral, type⟩

end Concord.Compare
