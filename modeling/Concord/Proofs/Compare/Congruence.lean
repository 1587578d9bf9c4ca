import Mathlib.Data.List.Forall2
import Concord.Compare.Agreement

/-!
# Concord.Proofs.Compare.Congruence

What a comparison overlooks.  A *blur* takes something from the declarations that are compared, and
from what is reported of them.  It is overlooked if reports on blurred declarations are the blurred
reports; then two comparisons of declarations that are equal when blurred are equal when blurred.

* `findAmong_map` — a finding about blurred items is the blurred finding;
* `compareLanguage_congr` — what is said of one implementation, and
* `compare_congr` — of all of them, depends on no more than the blurred declarations.
-/

namespace Concord

/-- A finding with its counterpart changed. -/
def Finding.map {ι δ : Type} (change : ι → ι) : Finding ι δ → Finding ι δ
  | .matching => .matching
  | .missing => .missing
  | .differing c ds => .differing (change c) ds

namespace Compare

/-! ## Items -/

section Items

variable {ι δ ρ σ : Type} {name : ι → String} {differences : ι → ι → List δ}
  {source counterpart : ι → ι}

/-- Whether neither names nor differences depend on what is changed in the items of the reference
and in those of the other implementation. -/
structure Overlooks (name : ι → String) (differences : ι → ι → List δ) (source counterpart : ι → ι) :
    Prop where
  name_source : ∀ i, name (source i) = name i
  name_counterpart : ∀ c, name (counterpart c) = name c
  differences : ∀ i c, differences (source i) (counterpart c) = differences i c

/-- An item is missing exactly if no item has its name. -/
theorem missingName?_findAmong (others : List ι) (i : ι) :
    missingName? (name i) (findAmong name differences others i) =
      if name i ∈ others.map name then none else some (name i) := by
  rw [findAmong]
  cases found : others.find? (name · == name i) with
  | none =>
    have absent : name i ∉ others.map name := by
      rintro h
      obtain ⟨c, hc, same⟩ := List.mem_map.1 h
      simpa [same] using List.find?_eq_none.1 found c hc
    rw [if_neg absent]
    rfl
  | some c =>
    have same : name c = name i := by simpa using List.find?_some found
    rw [if_pos (same ▸ List.mem_map_of_mem (List.mem_of_find?_eq_some found))]
    simp only
    cases differences i c <;> rfl

/-- **Missing are the items whose names are.** -/
theorem filterMap_missing (items others : List ι) :
    (items.map fun i => (i, findAmong name differences others i)).filterMap
        (fun (i, f) => missingName? (name i) f) =
      (items.map name).filter (· ∉ others.map name) := by
  induction items with
  | nil => rfl
  | cons i items ih =>
    simp only [List.map_cons, List.filterMap_cons, List.filter_cons, missingName?_findAmong, ih]
    by_cases present : name i ∈ others.map name <;> simp [present]

/-- The missing items depend on nothing but names. -/
theorem missing_congr (differences differences' : ι → ι → List δ)
    {items items' others others' : List ι}
    (hitems : items.map name = items'.map name) (hothers : others.map name = others'.map name) :
    (items.map fun i => (i, findAmong name differences others i)).filterMap
        (fun (i, f) => missingName? (name i) f) =
      (items'.map fun i => (i, findAmong name differences' others' i)).filterMap
        fun (i, f) => missingName? (name i) f := by
  rw [filterMap_missing, filterMap_missing, hitems, hothers]

namespace Overlooks

/-- Nothing is overlooked where nothing is changed. -/
theorem of_id : Overlooks name differences id id := ⟨fun _ => rfl, fun _ => rfl, fun _ _ => rfl⟩

variable (overlooks : Overlooks name differences source counterpart)
include overlooks

/-- **What is found about changed items is what was found, with the counterpart changed.** -/
theorem findAmong_map (others : List ι) (i : ι) :
    findAmong name differences (others.map counterpart) (source i) =
      (findAmong name differences others i).map counterpart := by
  have sameName : (name · == name i) ∘ counterpart = (name · == name i) :=
    funext fun c => congrArg (· == name i) (overlooks.name_counterpart c)
  rw [findAmong, findAmong, overlooks.name_source, List.find?_map, sameName]
  cases others.find? (name · == name i) with
  | none => rfl
  | some c =>
    simp only [Option.map_some, overlooks.differences]
    cases differences i c <;> rfl

/-- What is reported item by item does not depend on what is overlooked. -/
theorem reports_congr (report : ι → Finding ι δ → Option ρ) (view : ρ → σ)
    (sameReport : ∀ i f, (report (source i) (f.map counterpart)).map view = (report i f).map view)
    {items items' others others' : List ι} (hitems : items.map source = items'.map source)
    (hothers : others.map counterpart = others'.map counterpart) :
    ((items.map fun i => (i, findAmong name differences others i)).filterMap
        fun (i, f) => report i f).map view =
      ((items'.map fun i => (i, findAmong name differences others' i)).filterMap
        fun (i, f) => report i f).map view := by
  have changed (items others : List ι) :
      ((items.map fun i => (i, findAmong name differences others i)).filterMap
          fun (i, f) => report i f).map view =
        (((items.map source).map fun i =>
          (i, findAmong name differences (others.map counterpart) i)).filterMap
            fun (i, f) => report i f).map view := by
    rw [List.map_filterMap, List.map_filterMap, List.filterMap_map, List.filterMap_map,
      List.filterMap_map]
    refine congrArg (List.filterMap · items) (funext fun i => ?_)
    simp only [Function.comp_apply, overlooks.findAmong_map, sameReport]
  rw [changed, hitems, hothers, ← changed]

/-- The names of items do not depend on what is overlooked. -/
theorem names_eq {items items' others others' : List ι} (hitems : items.map source = items'.map source)
    (hothers : others.map counterpart = others'.map counterpart) :
    items.map name = items'.map name ∧ others.map name = others'.map name := by
  have source_eq : name ∘ source = name := funext overlooks.name_source
  have counterpart_eq : name ∘ counterpart = name := funext overlooks.name_counterpart
  rw [← source_eq, ← List.map_map, hitems, List.map_map]
  refine ⟨rfl, ?_⟩
  rw [source_eq, ← counterpart_eq, ← List.map_map, hothers, List.map_map]

end Overlooks
end Items

/-! ## Blurs -/

/-- What is taken from declarations before they are compared, and from what is reported of them. -/
structure Blur where
  sourceType : NeutralType → NeutralType := id
  counterpartFunction : NeutralFunction → NeutralFunction := id
  counterpartType : NeutralType → NeutralType := id
  entry : TypeMismatch → TypeMismatch := id
  gap : Gap → Gap := id

/-- Whether reports on blurred declarations are the blurred reports. -/
structure Blur.IsOverlooked (isStrict : Bool) (blur : Blur) : Prop where
  functions : Overlooks (·.name) (functionDifferences isStrict) id blur.counterpartFunction
  types : Overlooks (·.name) (typeDifferences isStrict) blur.sourceType blur.counterpartType
  functionEntry : ∀ f finding, functionMismatch? f (finding.map blur.counterpartFunction) =
    functionMismatch? f finding
  typeEntry : ∀ t finding,
    (typeMismatch? (blur.sourceType t) (finding.map blur.counterpartType)).map blur.entry =
      (typeMismatch? t finding).map blur.entry
  functionGap : ∀ sourceLanguage language f finding,
    (functionGap? sourceLanguage language f (finding.map blur.counterpartFunction)).map blur.gap =
      (functionGap? sourceLanguage language f finding).map blur.gap
  typeGap : ∀ sourceLanguage language t finding,
    (typeGap? sourceLanguage language (blur.sourceType t)
        (finding.map blur.counterpartType)).map blur.gap =
      (typeGap? sourceLanguage language t finding).map blur.gap

namespace Blur

variable {α : Type} (blur : Blur)

/-- What is said of one implementation, blurred. -/
def onLanguage (own : LanguageAgreement α) : LanguageAgreement α :=
  { own with typeMismatches := own.typeMismatches.map blur.entry }

/-- What is said of all implementations, blurred. -/
def onAgreement (agreement : Agreement α) : Agreement α :=
  { agreement with
    byLanguage := agreement.byLanguage.map fun (language, own) => (language, blur.onLanguage own)
    gaps := agreement.gaps.map blur.gap }

/-- Whether two references are the same, when blurred. -/
structure SameReference (ignoresPrivate : Bool) (r r' : Outline) : Prop where
  language : r.language = r'.language
  functions : neutralFunctions ignoresPrivate r.functions =
    neutralFunctions ignoresPrivate r'.functions
  types : (neutralTypes ignoresPrivate r.types).map blur.sourceType =
    (neutralTypes ignoresPrivate r'.types).map blur.sourceType

/-- Whether two other implementations are the same, when blurred. -/
structure SameTarget (ignoresPrivate : Bool) (t t' : Outline) : Prop where
  functions : (neutralFunctions ignoresPrivate t.functions).map blur.counterpartFunction =
    (neutralFunctions ignoresPrivate t'.functions).map blur.counterpartFunction
  types : (neutralTypes ignoresPrivate t.types).map blur.counterpartType =
    (neutralTypes ignoresPrivate t'.types).map blur.counterpartType

end Blur

/-- Whether scorers do not tell two pairs of a reference and another implementation apart. -/
structure Scorers.Agree {α : Type} (scorers : Scorers α) (r t r' t' : Outline) : Prop where
  test : scorers.test r t = scorers.test r' t'
  idiomatic : scorers.idiomatic r t = scorers.idiomatic r' t'

/-- Scorers that always give the full score tell nothing apart. -/
theorem Scorers.Agree.of_full {α : Type} [Scalar α] (r t r' t' : Outline) :
    Scorers.Agree (Scorers.full : Scorers α) r t r' t' := ⟨rfl, rfl⟩

/-! ## Comparisons -/

section Comparisons

variable {α : Type} [Scalar α] {settings : ComparisonSettings α} {scorers : Scorers α} {blur : Blur}
  {r r' t t' : Outline}

/-- **What is said of one implementation depends on no more than what is not overlooked.** -/
theorem compareLanguage_congr (overlooked : blur.IsOverlooked settings.isStrict)
    (reference : blur.SameReference settings.ignoresPrivate r r')
    (target : blur.SameTarget settings.ignoresPrivate t t') (scores : scorers.Agree r t r' t')
    (language : String) :
    blur.onLanguage (compareLanguage settings scorers r language t).1 =
        blur.onLanguage (compareLanguage settings scorers r' language t').1 ∧
      (compareLanguage settings scorers r language t).2.map blur.gap =
        (compareLanguage settings scorers r' language t').2.map blur.gap := by
  have sourceFunctions : (neutralFunctions settings.ignoresPrivate r.functions).map id =
      (neutralFunctions settings.ignoresPrivate r'.functions).map id :=
    congrArg (List.map id) reference.functions
  have countFunctions := congrArg List.length reference.functions
  have countTypes := congrArg List.length reference.types
  have countOtherFunctions := congrArg List.length target.functions
  have countOtherTypes := congrArg List.length target.types
  -- Each part of the report is told by names and differences, which blurring leaves alone.
  have typeNames := overlooked.types.names_eq reference.types target.types
  have functionNames := overlooked.functions.names_eq sourceFunctions target.functions
  have missingTypes := missing_congr (typeDifferences settings.isStrict)
    (typeDifferences settings.isStrict) typeNames.1 typeNames.2
  have missingFunctions := missing_congr (functionDifferences settings.isStrict)
    (functionDifferences settings.isStrict) functionNames.1 functionNames.2
  have typeMismatches := overlooked.types.reports_congr typeMismatch? blur.entry
    overlooked.typeEntry reference.types target.types
  have functionMismatches := overlooked.functions.reports_congr functionMismatch? id
    (fun f finding => congrArg (Option.map id) (overlooked.functionEntry f finding))
    sourceFunctions target.functions
  have typeGaps := overlooked.types.reports_congr (typeGap? r.language.tag language) blur.gap
    (overlooked.typeGap r.language.tag language) reference.types target.types
  have functionGaps := overlooked.functions.reports_congr (functionGap? r.language.tag language)
    blur.gap (overlooked.functionGap r.language.tag language) sourceFunctions target.functions
  have countTypeMismatches := congrArg List.length typeMismatches
  rw [List.map_id, List.map_id] at functionMismatches
  simp only [List.length_map] at countTypes countOtherFunctions countOtherTypes countTypeMismatches
  constructor
  · simp only [Blur.onLanguage, compareLanguage, findType, findFunction, countFunctions, countTypes,
      countOtherFunctions, countOtherTypes, missingTypes, missingFunctions, typeMismatches,
      functionMismatches, countTypeMismatches, scores.test, scores.idiomatic]
  · simp only [compareLanguage, findType, findFunction, List.map_append, ← reference.language,
      typeGaps, functionGaps]

/-- Targets are put in order by their languages, whatever is made of them. -/
theorem sortTargets_map {β γ : Type} (make : String × β → γ) (targets : List (String × β)) :
    sortTargets (targets.map fun t => (t.1, make t)) =
      (sortTargets targets).map fun t => (t.1, make t) :=
  Eq.symm <| List.map_mergeSort (f := fun t => (t.1, make t)) (s := fun a b => a.1 ≤ b.1)
    fun _ _ _ _ => rfl

/-- What is made of the targets is the same, in order, if it is the same of each. -/
theorem map_sortTargets_congr {β γ : Type} (make make' : String × β → γ)
    {targets targets' : List (String × β)}
    (same : List.Forall₂ (fun t t' => t.1 = t'.1 ∧ make t = make' t') targets targets') :
    (sortTargets targets).map (fun t => (t.1, make t)) =
      (sortTargets targets').map fun t => (t.1, make' t) := by
  have made : targets.map (fun t => (t.1, make t)) = targets'.map fun t => (t.1, make' t) := by
    induction same with
    | nil => rfl
    | cons h _ ih => rw [List.map_cons, List.map_cons, ih, h.1, h.2]
  rw [← sortTargets_map, ← sortTargets_map, made]

/-- **What is said of all implementations depends on no more than what is not overlooked.** -/
theorem compare_congr (overlooked : blur.IsOverlooked settings.isStrict)
    (reference : blur.SameReference settings.ignoresPrivate r r')
    {targets targets' : List (String × Outline)}
    (target : List.Forall₂ (fun t t' => t.1 = t'.1 ∧
      blur.SameTarget settings.ignoresPrivate t.2 t'.2 ∧ scorers.Agree r t.2 r' t'.2)
      targets targets') :
    blur.onAgreement (compare settings scorers r targets) =
      blur.onAgreement (compare settings scorers r' targets') := by
  let result (r : Outline) (t : String × Outline) :=
    let own := compareLanguage settings scorers r t.1 t.2
    (blur.onLanguage own.1, own.2.map blur.gap)
  have same : List.Forall₂ (fun t t' => t.1 = t'.1 ∧ result r t = result r' t') targets targets' := by
    refine target.imp fun t t' ⟨language, same, scores⟩ => ⟨language, ?_⟩
    have own := compareLanguage_congr overlooked reference same scores t'.1
    simp only [result, language, own]
  have results := map_sortTargets_congr (result r) (result r') same
  have isEmpty := congrArg List.isEmpty results
  have overall := congrArg (List.map (·.2.1.overall)) results
  have byDimension := congrArg (List.map (·.2.1.byDimension)) results
  have byLanguage := congrArg (List.map fun x => (x.1, x.2.1)) results
  have gaps := congrArg (List.flatMap (·.2.2)) results
  simp only [List.isEmpty_map, List.map_map, List.flatMap_map, Function.comp_def, result,
    Blur.onLanguage] at isEmpty overall byDimension byLanguage gaps
  simp only [Blur.onAgreement, Blur.onLanguage, compare, List.isEmpty_map, List.map_map,
    List.flatMap_map, List.map_flatMap, Function.comp_def, reference.language, isEmpty, overall,
    byDimension, byLanguage, gaps]

end Comparisons
end Compare
end Concord
