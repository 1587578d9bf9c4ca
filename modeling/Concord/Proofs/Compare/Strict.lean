import Concord.Proofs.Compare.Account
import Concord.Proofs.Compare.Congruence
import Concord.Proofs.Compare.Exact

/-!
# Concord.Proofs.Compare.Strict

Strictness.  A strict comparison looks at pointers, asynchrony and the number of methods as well.
It says all that one that is not strict says, and perhaps more:

* what is found about an item is *tightened* (`Finding.Tightens`): missing items stay missing,
  differences stay where they are among others, and items that matched may differ;
* so are lists of differing items and gaps, item by item and in the same order
  (`compare_tightens`);
* in exact arithmetic no score rises (`compare_isAtMost`).
-/

namespace Concord

/-! ## Tighter reports -/

/-- Whether one finding may be replaced by the other where more is looked at. -/
inductive Finding.Tightens {ι δ : Type} : Finding ι δ → Finding ι δ → Prop where
  | missing : Tightens .missing .missing
  | matching : Tightens .matching .matching
  | revealing (c : ι) (ds : List δ) : Tightens .matching (.differing c ds)
  | differing (c : ι) {ds ds' : List δ} : ds.Sublist ds' →
      Tightens (.differing c ds) (.differing c ds')

/-- Whether an entry is about the same type, with more differences at most. -/
structure TypeMismatch.Tightens (loose strict : TypeMismatch) : Prop where
  name : strict.name = loose.name
  source : strict.source = loose.source
  counterpart : strict.counterpart = loose.counterpart
  differences : loose.differences.Sublist strict.differences

/-- Whether an entry is about the same function, with more differences at most. -/
structure FunctionMismatch.Tightens (loose strict : FunctionMismatch) : Prop where
  name : strict.name = loose.name
  source : strict.source = loose.source
  counterpart : strict.counterpart = loose.counterpart
  differences : loose.differences.Sublist strict.differences

/-- Whether two gaps are the same but for the text that lists the differences. -/
def Gap.Tightens (loose strict : Gap) : Prop :=
  strict = { loose with discrepancy := strict.discrepancy }

theorem Gap.Tightens.source {loose strict : Gap} (h : loose.Tightens strict) :
    strict.source = loose.source := by
  rw [h]

theorem Gap.Tightens.language {loose strict : Gap} (h : loose.Tightens strict) :
    strict.language = loose.language := by
  rw [h]

section Agreements

variable {α : Type}

/-- Whether nothing that is said of one implementation is lost. -/
structure LanguageAgreement.Tightens (loose strict : LanguageAgreement α) : Prop where
  language : strict.language = loose.language
  missingTypes : strict.missingTypes = loose.missingTypes
  missingFunctions : strict.missingFunctions = loose.missingFunctions
  typeMismatches :
    List.SublistForall₂ TypeMismatch.Tightens loose.typeMismatches strict.typeMismatches
  functionMismatches :
    List.SublistForall₂ FunctionMismatch.Tightens loose.functionMismatches strict.functionMismatches

/-- Whether nothing that is said of the implementations is lost. -/
structure Agreement.Tightens (loose strict : Agreement α) : Prop where
  byLanguage : List.Forall₂ (fun l s => s.1 = l.1 ∧ l.2.Tightens s.2)
    loose.byLanguage strict.byLanguage
  gaps : List.SublistForall₂ Gap.Tightens loose.gaps strict.gaps
  /-- The items that leave gaps keep their order, over all implementations … -/
  sources : (loose.gaps.map (·.source)).Sublist (strict.gaps.map (·.source))
  /-- … and in each of them. -/
  sourcesOf : ∀ language,
    ((loose.gaps.filter (·.language == language)).map (·.source)).Sublist
      ((strict.gaps.filter (·.language == language)).map (·.source))

/-- Whether no score is above another's, language by language and over all. -/
structure Agreement.IsAtMost (strict loose : Agreement Rat) : Prop where
  byLanguage : List.Forall₂ (fun s l => s.1 = l.1 ∧ s.2.byDimension.IsAtMost l.2.byDimension ∧
    s.2.overall ≤ l.2.overall) strict.byLanguage loose.byLanguage
  byDimension : strict.byDimension.IsAtMost loose.byDimension
  overall : strict.overall ≤ loose.overall

end Agreements

namespace Compare

/-! ## Differences -/

theorem parameterDifferences_sublist (a b : NeutralParameter) :
    (parameterDifferences false a b).Sublist (parameterDifferences true a b) := by
  simp [parameterDifferences]

/-- **A function has all its differences in strict mode as well, in the same order.** -/
theorem functionDifferences_sublist (a b : NeutralFunction) :
    (functionDifferences false a b).Sublist (functionDifferences true a b) := by
  unfold functionDifferences
  split
  · exact List.Sublist.refl _
  · have parameters := List.Sublist.flatMap_right (List.zip a.parameters b.parameters)
      fun pair _ => parameterDifferences_sublist pair.1 pair.2
    exact (((List.Sublist.refl _).append parameters).append (List.Sublist.refl _)).append
      (List.nil_sublist _)

/-- **A type has all its differences in strict mode as well, in the same order.** -/
theorem typeDifferences_sublist (a b : NeutralType) :
    (typeDifferences false a b).Sublist (typeDifferences true a b) := by
  unfold typeDifferences
  split
  · exact List.Sublist.refl _
  · exact (List.Sublist.refl _).append (List.nil_sublist _)

/-! ## Findings and what is read off them -/

section Findings

variable {ι δ ρ : Type} {name : ι → String} {differences differences' : ι → ι → List δ}

/-- What is found is tightened if differences are only added. -/
theorem findAmong_tightens (more : ∀ i c, (differences i c).Sublist (differences' i c))
    (others : List ι) (i : ι) :
    (findAmong name differences others i).Tightens (findAmong name differences' others i) := by
  unfold findAmong
  cases others.find? (name · == name i) with
  | none => exact .missing
  | some c =>
    have moreOfC := more i c
    dsimp only
    generalize differences i c = ds, differences' i c = ds' at moreOfC ⊢
    cases ds with
    | nil =>
      cases ds' with
      | nil => exact .matching
      | cons d' ds' => exact .revealing c (d' :: ds')
    | cons d ds =>
      cases ds' with
      | nil => contradiction
      | cons d' ds' => exact .differing c moreOfC

/-- What is read off lists item by item is related item by item, where there is more of it on the
right. -/
theorem sublistForall₂_filterMap {R : ρ → ρ → Prop} {report report' : ι → Option ρ}
    (kept : ∀ i r, report i = some r → ∃ r', report' i = some r' ∧ R r r') (items : List ι) :
    List.SublistForall₂ R (items.filterMap report) (items.filterMap report') := by
  induction items with
  | nil => exact .nil
  | cons i items ih =>
    cases hr : report i with
    | some r =>
      obtain ⟨r', hr', related⟩ := kept i r hr
      rw [List.filterMap_cons_some hr, List.filterMap_cons_some hr']
      exact .cons related ih
    | none =>
      rw [List.filterMap_cons_none hr]
      cases hr' : report' i with
      | none => rwa [List.filterMap_cons_none hr']
      | some r' =>
        rw [List.filterMap_cons_some hr']
        exact .cons_right ih

/-- Reports on tightened findings are related item by item if those on each finding are. -/
theorem reports_tighten (more : ∀ i c, (differences i c).Sublist (differences' i c))
    (report : ι → Finding ι δ → Option ρ) {R : ρ → ρ → Prop}
    (kept : ∀ i f f' r, Finding.Tightens f f' → report i f = some r →
      ∃ r', report i f' = some r' ∧ R r r')
    (others items : List ι) :
    List.SublistForall₂ R
      ((items.map fun i => (i, findAmong name differences others i)).filterMap
        fun (i, f) => report i f)
      ((items.map fun i => (i, findAmong name differences' others i)).filterMap
        fun (i, f) => report i f) := by
  rw [List.filterMap_map, List.filterMap_map]
  apply sublistForall₂_filterMap
  intro i r hr
  exact kept i _ _ r (findAmong_tightens more others i) hr

/-- A type that differs in the loose comparison differs in the strict one, in as many ways at
least. -/
theorem typeMismatch?_tightens (t : NeutralType) (f f' : Finding NeutralType TypeDifference)
    (entry : TypeMismatch) (h : f.Tightens f') (hentry : typeMismatch? t f = some entry) :
    ∃ entry', typeMismatch? t f' = some entry' ∧ entry.Tightens entry' := by
  cases h with
  | missing | matching | revealing => contradiction
  | differing c more =>
    obtain rfl := Option.some.inj hentry
    exact ⟨_, rfl, rfl, rfl, rfl, more.map _⟩

/-- A function that differs in the loose comparison differs in the strict one too. -/
theorem functionMismatch?_tightens (g : NeutralFunction)
    (f f' : Finding NeutralFunction FunctionDifference) (entry : FunctionMismatch)
    (h : f.Tightens f') (hentry : functionMismatch? g f = some entry) :
    ∃ entry', functionMismatch? g f' = some entry' ∧ entry.Tightens entry' := by
  cases h with
  | missing | matching | revealing => contradiction
  | differing c more =>
    obtain rfl := Option.some.inj hentry
    exact ⟨_, rfl, rfl, rfl, rfl, more.map _⟩

/-- A gap of a type in the loose comparison has its stricter counterpart. -/
theorem typeGap?_tightens (sourceLanguage language : String) (t : NeutralType)
    (f f' : Finding NeutralType TypeDifference) (gap : Gap) (h : f.Tightens f')
    (hgap : typeGap? sourceLanguage language t f = some gap) :
    ∃ gap', typeGap? sourceLanguage language t f' = some gap' ∧ gap.Tightens gap' := by
  cases h with
  | matching | revealing => contradiction
  | missing | differing =>
    obtain rfl := Option.some.inj hgap
    exact ⟨_, rfl, rfl⟩

/-- A gap of a function in the loose comparison has its stricter counterpart. -/
theorem functionGap?_tightens (sourceLanguage language : String) (g : NeutralFunction)
    (f f' : Finding NeutralFunction FunctionDifference) (gap : Gap) (h : f.Tightens f')
    (hgap : functionGap? sourceLanguage language g f = some gap) :
    ∃ gap', functionGap? sourceLanguage language g f' = some gap' ∧ gap.Tightens gap' := by
  cases h with
  | matching | revealing => contradiction
  | missing | differing =>
    obtain rfl := Option.some.inj hgap
    exact ⟨_, rfl, rfl⟩

end Findings

/-! ## Lists -/

section Lists

variable {ρ σ : Type} {R : ρ → ρ → Prop}

/-- The shorter of two lists so related is no longer than the other. -/
theorem length_le_of_sublistForall₂ {xs ys : List ρ} (h : List.SublistForall₂ R xs ys) :
    xs.length ≤ ys.length := by
  obtain ⟨zs, related, sub⟩ := List.sublistForall₂_iff.1 h
  rw [related.length_eq]
  exact sub.length_le

/-- Related lists stay related when related lists are appended. -/
theorem sublistForall₂_append {xs ys xs' ys' : List ρ} (h : List.SublistForall₂ R xs xs')
    (h' : List.SublistForall₂ R ys ys') : List.SublistForall₂ R (xs ++ ys) (xs' ++ ys') := by
  obtain ⟨zs, related, sub⟩ := List.sublistForall₂_iff.1 h
  obtain ⟨zs', related', sub'⟩ := List.sublistForall₂_iff.1 h'
  exact List.sublistForall₂_iff.2 ⟨zs ++ zs', List.rel_append related related', sub.append sub'⟩

/-- Related reports on each item are related reports on all of them. -/
theorem sublistForall₂_flatMap {ι : Type} {report report' : ι → List ρ}
    (h : ∀ i, List.SublistForall₂ R (report i) (report' i)) (items : List ι) :
    List.SublistForall₂ R (items.flatMap report) (items.flatMap report') := by
  induction items with
  | nil => exact .nil
  | cons i items ih => exact sublistForall₂_append (h i) ih

/-- Related lists stay related when they are filtered by what related members share. -/
theorem sublistForall₂_filter {p : ρ → Bool} (same : ∀ x y, R x y → p y = p x) {xs ys : List ρ}
    (h : List.SublistForall₂ R xs ys) : List.SublistForall₂ R (xs.filter p) (ys.filter p) := by
  obtain ⟨zs, related, sub⟩ := List.sublistForall₂_iff.1 h
  have passing : List.Forall₂ R (xs.filter p) (zs.filter p) :=
    List.rel_filter (fun x y hxy => Bool.eq_iff_iff.1 (same x y hxy).symm) related
  exact List.sublistForall₂_iff.2 ⟨zs.filter p, passing, sub.filter p⟩

/-- What is the same in related items stays in order. -/
theorem map_sublist_of_sublistForall₂ {view : ρ → σ} (same : ∀ x y, R x y → view y = view x)
    {xs ys : List ρ} (h : List.SublistForall₂ R xs ys) :
    (xs.map view).Sublist (ys.map view) := by
  induction h with
  | nil => exact List.nil_sublist _
  | cons related _ ih =>
    rw [List.map_cons, List.map_cons, same _ _ related]
    exact ih.cons_cons _
  | cons_right _ ih => exact ih.cons _

end Lists

/-! ## Comparisons -/

section Comparisons

variable {α : Type} [Scalar α] (settings : ComparisonSettings α) (scorers : Scorers α)
  (reference : Outline)

/-- Strictly compared, an implementation is said to lack the same and to differ at least as much. -/
theorem compareLanguage_tightens (language : String) (target : Outline) :
    let loose := compareLanguage { settings with isStrict := false } scorers reference language
      target
    let strict := compareLanguage { settings with isStrict := true } scorers reference language
      target
    loose.1.Tightens strict.1 ∧ List.SublistForall₂ Gap.Tightens loose.2 strict.2 := by
  constructor
  · constructor
    · rfl
    · exact missing_congr _ _ rfl rfl
    · exact missing_congr _ _ rfl rfl
    · exact reports_tighten typeDifferences_sublist typeMismatch? typeMismatch?_tightens _ _
    · exact reports_tighten functionDifferences_sublist functionMismatch?
        functionMismatch?_tightens _ _
  · exact sublistForall₂_append
      (reports_tighten functionDifferences_sublist (functionGap? reference.language.tag language)
        (functionGap?_tightens reference.language.tag language) _ _)
      (reports_tighten typeDifferences_sublist (typeGap? reference.language.tag language)
        (typeGap?_tightens reference.language.tag language) _ _)

/-- **A strict comparison says all that one that is not strict says.** -/
theorem compare_tightens (targets : List (String × Outline)) :
    (compare { settings with isStrict := false } scorers reference targets).Tightens
      (compare { settings with isStrict := true } scorers reference targets) := by
  have each (t : String × Outline) := compareLanguage_tightens settings scorers reference t.1 t.2
  have gaps : List.SublistForall₂ Gap.Tightens
      (compare { settings with isStrict := false } scorers reference targets).gaps
      (compare { settings with isStrict := true } scorers reference targets).gaps := by
    rw [gaps_compare, gaps_compare]
    exact sublistForall₂_flatMap (fun t => (each t).2) (sortTargets targets)
  constructor
  · rw [byLanguage_compare, byLanguage_compare, List.forall₂_map_left_iff,
      List.forall₂_map_right_iff, List.forall₂_same]
    exact fun t _ => ⟨rfl, (each t).1⟩
  · exact gaps
  · exact map_sublist_of_sublistForall₂ (fun _ _ h => Gap.Tightens.source h) gaps
  · intro language
    have own := sublistForall₂_filter (p := (·.language == language))
      (fun _ _ h => congrArg (· == language) (Gap.Tightens.language h)) gaps
    exact map_sublist_of_sublistForall₂ (fun _ _ h => Gap.Tightens.source h) own

end Comparisons

/-! ## Scores -/

section Scores

variable (settings : ComparisonSettings Rat) (scorers : Scorers Rat) (reference : Outline)

/-- No dimension of a language scores higher in the strict comparison. -/
theorem byDimension_isAtMost (language : String) (target : Outline) :
    let loose := compareLanguage { settings with isStrict := false } scorers reference language
      target
    let strict := compareLanguage { settings with isStrict := true } scorers reference language
      target
    strict.1.byDimension.IsAtMost loose.1.byDimension := by
  intro loose strict
  have tightens : loose.1.Tightens strict.1 :=
    (compareLanguage_tightens settings scorers reference language target).1
  have differingTypes := length_le_of_sublistForall₂ tightens.typeMismatches
  have differingFunctions := length_le_of_sublistForall₂ tightens.functionMismatches
  rw [byDimension_compareLanguage, byDimension_compareLanguage, tightens.missingTypes,
    tightens.missingFunctions]
  exact
    { structural := le_refl _
      type := matchScore_le differingTypes _ _
      behavioral := matchScore_le differingFunctions _ _
      test := le_refl _
      idiomatic := le_refl _ }

/-- So neither does the language, with weights that are not negative. -/
theorem overall_isAtMost (weights : settings.weights.IsNonneg) (language : String)
    (target : Outline) :
    let loose := compareLanguage { settings with isStrict := false } scorers reference language
      target
    let strict := compareLanguage { settings with isStrict := true } scorers reference language
      target
    strict.1.overall ≤ loose.1.overall := by
  intro loose strict
  rw [overall_compareLanguage, overall_compareLanguage]
  exact ByDimension.weighted_le weights
    (byDimension_isAtMost settings scorers reference language target)

/-- **In exact arithmetic no score of a strict comparison is above that of one that is not.** -/
theorem compare_isAtMost (weights : settings.weights.IsNonneg)
    (targets : List (String × Outline)) :
    (compare { settings with isStrict := true } scorers reference targets).IsAtMost
      (compare { settings with isStrict := false } scorers reference targets) := by
  have scores (t : String × Outline) := byDimension_isAtMost settings scorers reference t.1 t.2
  have overall (t : String × Outline) :=
    overall_isAtMost settings scorers reference weights t.1 t.2
  constructor
  · rw [byLanguage_compare, byLanguage_compare, List.forall₂_map_left_iff,
      List.forall₂_map_right_iff, List.forall₂_same]
    exact fun t _ => ⟨rfl, scores t, overall t⟩
  · rw [byDimension_compare, byDimension_compare]
    apply ByDimension.mean_isAtMost
    rw [List.forall₂_map_left_iff, List.forall₂_map_right_iff, List.forall₂_same]
    exact fun t _ => scores t
  · rw [overall_compare, overall_compare]
    split
    · exact le_refl _
    · apply Scalar.mean_le
      rw [List.forall₂_map_left_iff, List.forall₂_map_right_iff, List.forall₂_same]
      exact fun t _ => overall t

end Scores

/-- **Strictness only takes away.**  Whatever a comparison says that is not strict, the strict one
says as well, in the same order; and in exact arithmetic it gives no higher score, as long as no
weight is negative, which the check of settings sees to (`checkComparison_isNonneg`). -/
theorem strict_tightens_and_isAtMost :
    (∀ (α : Type) [Scalar α] (settings : ComparisonSettings α) (scorers : Scorers α)
      (reference : Outline) (targets : List (String × Outline)),
      (compare { settings with isStrict := false } scorers reference targets).Tightens
        (compare { settings with isStrict := true } scorers reference targets)) ∧
    ∀ (settings : ComparisonSettings Rat), settings.weights.IsNonneg →
      ∀ (scorers : Scorers Rat) (reference : Outline) (targets : List (String × Outline)),
      (compare { settings with isStrict := true } scorers reference targets).IsAtMost
        (compare { settings with isStrict := false } scorers reference targets) :=
  ⟨fun _ _ => compare_tightens, fun settings weights scorers reference =>
    compare_isAtMost settings scorers reference weights⟩

/-- The usual settings in exact arithmetic. -/
def exactSettings : ComparisonSettings Rat :=
  { weights := ⟨1 / 5, 1 / 4, 7 / 20, 3 / 20, 1 / 20⟩, threshold := 19 / 20
    isStrict := false, ignoresPrivate := true }

/-- An asynchronous function with a parameter, and another function. -/
def asynchronous : Outline :=
  { language := .python
    functions :=
      [{ name := "run", parameters := [{ name := "x" }], isAsync := true },
       { name := "stop", isAsync := true }] }

/-- The same functions, neither of them asynchronous, and the parameter left out. -/
def synchronous : Outline :=
  { language := .go, functions := [{ name := "Run" }, { name := "Stop" }] }

theorem exactSettings_isNonneg : exactSettings.weights.IsNonneg := by
  constructor <;> decide +kernel

/-- Between the two, strictness adds a difference and a gap, and takes away a quarter of the score
of functions. -/
theorem strict_tightens_asynchronous :
    let loose := compare { exactSettings with isStrict := false } .full asynchronous
      [("go", synchronous)]
    let strict := compare { exactSettings with isStrict := true } .full asynchronous
      [("go", synchronous)]
    loose.Tightens strict ∧ strict.IsAtMost loose ∧
      loose.gaps.map (·.discrepancy) = ["parameter count mismatch"] ∧
      strict.gaps.map (·.discrepancy) =
        ["parameter count mismatch; async mismatch", "async mismatch"] ∧
      loose.byDimension.behavioral = 3 / 4 ∧ strict.byDimension.behavioral = 1 / 2 := by
  refine ⟨?_, ?_, ?_, ?_, ?_, ?_⟩
  · exact strict_tightens_and_isAtMost.1 Rat exactSettings .full asynchronous [("go", synchronous)]
  · exact strict_tightens_and_isAtMost.2 exactSettings exactSettings_isNonneg .full asynchronous
      [("go", synchronous)]
  · decide +kernel
  · decide +kernel
  · decide +kernel
  · decide +kernel

end Compare
end Concord
