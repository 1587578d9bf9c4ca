import Concord.Proofs.Compare.Account
import Concord.Proofs.Compare.Congruence

/-!
# Concord.Proofs.Compare.Order

The order in which a reference lists its declarations makes no difference to a comparison.  Every
item is held against the other implementation by itself, so what is reported of the items of a
rearranged reference is the same, rearranged; and scores look at no more than how many there are.

* `compareLanguage_isRearrangement` — what is said of one implementation is rearranged;
* `compare_isRearrangement` — so is what is said of all of them, language by language.

This holds of items with equal names as well.  Which of the *other* items of a name is held against
an item depends on the order there, but it is the same one for every item of the reference.
-/

namespace Concord

/-- Whether two outlines declare the same types and functions, each in some order. -/
structure Outline.IsRearrangement (a b : Outline) : Prop where
  language : a.language = b.language
  types : a.types.Perm b.types
  functions : a.functions.Perm b.functions

section Agreements

variable {α : Type}

/-- Whether the same is said of one implementation, each list in some order. -/
structure LanguageAgreement.IsRearrangement (a b : LanguageAgreement α) : Prop where
  language : a.language = b.language
  overall : a.overall = b.overall
  byDimension : a.byDimension = b.byDimension
  missingTypes : a.missingTypes.Perm b.missingTypes
  missingFunctions : a.missingFunctions.Perm b.missingFunctions
  typeMismatches : a.typeMismatches.Perm b.typeMismatches
  functionMismatches : a.functionMismatches.Perm b.functionMismatches

/-- Whether the same is said of all implementations, the gaps of each language in some order. -/
structure Agreement.IsRearrangement (a b : Agreement α) : Prop where
  overall : a.overall = b.overall
  hasConverged : a.hasConverged = b.hasConverged
  byDimension : a.byDimension = b.byDimension
  byLanguage : List.Forall₂ (fun x y => x.1 = y.1 ∧ x.2.IsRearrangement y.2)
    a.byLanguage b.byLanguage
  gaps : ∀ language, (a.gaps.filter fun gap => gap.language = language).Perm
    (b.gaps.filter fun gap => gap.language = language)

end Agreements

namespace Compare

/-! ## Items -/

theorem neutralTypes_perm (ignoresPrivate : Bool) {types types' : List TypeDecl}
    (h : types.Perm types') :
    (neutralTypes ignoresPrivate types).Perm (neutralTypes ignoresPrivate types') :=
  (h.filter _).map _

theorem neutralFunctions_perm (ignoresPrivate : Bool) {functions functions' : List FunctionDecl}
    (h : functions.Perm functions') :
    (neutralFunctions ignoresPrivate functions).Perm
      (neutralFunctions ignoresPrivate functions') :=
  (h.filter _).map _

/-- What is reported item by item is rearranged with the items. -/
theorem reports_perm {ι δ ρ : Type} (find : ι → Finding ι δ) (report : ι → Finding ι δ → Option ρ)
    {items items' : List ι} (h : items.Perm items') :
    ((items.map fun i => (i, find i)).filterMap fun (i, f) => report i f).Perm
      ((items'.map fun i => (i, find i)).filterMap fun (i, f) => report i f) :=
  (h.map _).filterMap _

/-! ## Comparisons -/

variable {α : Type} [Scalar α] (settings : ComparisonSettings α) (scorers : Scorers α)
  {reference reference' : Outline}

/-- **What is said of one implementation is rearranged with the reference.** -/
theorem compareLanguage_isRearrangement (same : reference.IsRearrangement reference')
    (language : String) {target : Outline}
    (scores : scorers.Agree reference target reference' target) :
    let own := compareLanguage settings scorers reference language target
    let own' := compareLanguage settings scorers reference' language target
    own.1.IsRearrangement own'.1 ∧ own.2.Perm own'.2 := by
  intro own own'
  have types := neutralTypes_perm settings.ignoresPrivate same.types
  have functions := neutralFunctions_perm settings.ignoresPrivate same.functions
  have onTypes {ρ : Type} := reports_perm (ρ := ρ) (findType settings.isStrict
    (neutralTypes settings.ignoresPrivate target.types))
  have onFunctions {ρ : Type} := reports_perm (ρ := ρ) (findFunction settings.isStrict
    (neutralFunctions settings.ignoresPrivate target.functions))
  have missingTypes : own.1.missingTypes.Perm own'.1.missingTypes :=
    onTypes (fun t f => missingName? t.name f) types
  have missingFunctions : own.1.missingFunctions.Perm own'.1.missingFunctions :=
    onFunctions (fun g f => missingName? g.name f) functions
  have typeMismatches : own.1.typeMismatches.Perm own'.1.typeMismatches :=
    onTypes typeMismatch? types
  have functionMismatches : own.1.functionMismatches.Perm own'.1.functionMismatches :=
    onFunctions functionMismatch? functions
  have byDimension : own.1.byDimension = own'.1.byDimension := by
    rw [byDimension_compareLanguage, byDimension_compareLanguage, missingTypes.length_eq,
      missingFunctions.length_eq, typeMismatches.length_eq, functionMismatches.length_eq,
      types.length_eq, functions.length_eq, scores.test, scores.idiomatic]
  have overall : own.1.overall = own'.1.overall := by
    rw [overall_compareLanguage, overall_compareLanguage, byDimension]
  have gaps : own.2.Perm own'.2 := by
    have functionGaps := onFunctions (functionGap? reference.language.tag language) functions
    have typeGaps := onTypes (typeGap? reference.language.tag language) types
    simp only [own, own', compareLanguage, ← same.language]
    exact functionGaps.append typeGaps
  exact ⟨⟨rfl, overall, byDimension, missingTypes, missingFunctions, typeMismatches,
    functionMismatches⟩, gaps⟩

/-- A comparison converges by its overall score. -/
theorem hasConverged_compare (targets : List (String × Outline)) :
    let agreement := compare settings scorers reference targets
    agreement.hasConverged =
      (!(sortTargets targets).isEmpty && decide (settings.threshold ≤ agreement.overall)) := by
  simp only [compare, List.isEmpty_map]

/-- References in another order give rearranged comparisons, where the scorers agree on them. -/
theorem compare_isRearrangement_of_agree (same : reference.IsRearrangement reference')
    {targets : List (String × Outline)}
    (scores : ∀ target ∈ targets, scorers.Agree reference target.2 reference' target.2) :
    (compare settings scorers reference targets).IsRearrangement
      (compare settings scorers reference' targets) := by
  have each (t : String × Outline) (h : t ∈ sortTargets targets) :=
    compareLanguage_isRearrangement settings scorers same t.1
      (scores t ((perm_sortTargets targets).mem_iff.1 h))
  have overall : (compare settings scorers reference targets).overall =
      (compare settings scorers reference' targets).overall := by
    rw [overall_compare, overall_compare, List.map_congr_left fun t h => (each t h).1.overall]
  have gaps : (compare settings scorers reference targets).gaps.Perm
      (compare settings scorers reference' targets).gaps := by
    rw [gaps_compare, gaps_compare]
    exact List.Perm.flatMap_left _ fun t h => (each t h).2
  constructor
  · exact overall
  · rw [hasConverged_compare, hasConverged_compare, overall]
  · rw [byDimension_compare, byDimension_compare,
      List.map_congr_left fun t h => (each t h).1.byDimension]
  · rw [byLanguage_compare, byLanguage_compare, List.forall₂_map_left_iff,
      List.forall₂_map_right_iff, List.forall₂_same]
    exact fun t h => ⟨rfl, (each t h).1⟩
  · exact fun language => gaps.filter _

/-- **What is said of all implementations is rearranged with the reference.**  This holds of the
full scorers, and of any others that do not tell the two references apart. -/
theorem compare_isRearrangement (same : reference.IsRearrangement reference')
    (targets : List (String × Outline)) :
    (compare settings .full reference targets).IsRearrangement
        (compare settings .full reference' targets) ∧
      ∀ scorers : Scorers α,
        (∀ target ∈ targets, scorers.Agree reference target.2 reference' target.2) →
        (compare settings scorers reference targets).IsRearrangement
          (compare settings scorers reference' targets) :=
  ⟨compare_isRearrangement_of_agree settings .full same fun _ _ => .of_full _ _ _ _,
    fun scorers scores => compare_isRearrangement_of_agree settings scorers same scores⟩

/-- Two functions of one name, both held against the first of that name, and one that is missing;
the scorer of tests looks at the target only. -/
theorem compare_isRearrangement_reversed :
    let reference : Outline :=
      { language := .go
        functions := [{ name := "Run" }, { name := "run", parameters := [{ name := "x" }] },
          { name := "Stop" }] }
    let reversed : Outline := { reference with functions := reference.functions.reverse }
    let target : Outline :=
      { language := .rust
        functions := [{ name := "run", parameters := [{ name := "x" }] }, { name := "Run" }] }
    let scorers : Scorers Float :=
      ⟨fun _ t => countSimilarity t.functions.length 4, fun _ _ => Scalar.one⟩
    let forth := compare Settings.usualComparison scorers reference [("rust", target)]
    let back := compare Settings.usualComparison scorers reversed [("rust", target)]
    reference.IsRearrangement reversed ∧ scorers.Agree reference target reversed target ∧
      forth.IsRearrangement back ∧
      forth.gaps.map (·.source.name) = ["Run", "Stop"] ∧
      back.gaps.map (·.source.name) = ["Stop", "Run"] := by
  intro reference reversed target scorers forth back
  have same : reference.IsRearrangement reversed :=
    ⟨rfl, .refl _, (List.reverse_perm _).symm⟩
  have agree : scorers.Agree reference target reversed target := ⟨rfl, rfl⟩
  have onTargets : ∀ t ∈ [("rust", target)], scorers.Agree reference t.2 reversed t.2 := by
    intro t h
    rw [List.mem_singleton.1 h]
    exact agree
  have rearranged := (compare_isRearrangement Settings.usualComparison same [("rust", target)]).2
    scorers onTargets
  exact ⟨same, agree, rearranged, by decide +kernel, by decide +kernel⟩

end Compare
end Concord
