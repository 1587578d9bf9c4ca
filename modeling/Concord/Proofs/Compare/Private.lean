import Concord.Proofs.Compare.Congruence
import Concord.Proofs.Outline.Private

/-!
# Concord.Proofs.Compare.Private

What a comparison that leaves out private declarations shows of them.  A private method joins the
type that it belongs to like any other, so an exported type can show it: by the number of its methods
in strict mode, by its methods in the list of types that differ, and by its kind, where it is the
first method of an interface with fields.

`compare_private` states that this is all, for any number of private declarations in the files of
the reference and of other implementations: nothing changes if no private method brings a new name to
an exported type; nothing but the methods of types that differ if no number of methods changes that
counts; and in any case nothing besides the comparison of types.
-/

namespace Concord

open Outline

/-! ## Outlines with more private declarations -/

/-- Whether an outline is that of the files of another one with some more private declarations. -/
def Outline.Extends (Allowed : List FileOutline → List FunctionDecl → FunctionDecl → Prop)
    (o p : Outline) : Prop :=
  ∃ language files files' name root localPrefixes,
    Relation.ReflTransGen (AddsPrivate Allowed) files files' ∧
      o = merge language files name root localPrefixes ∧
      p = merge language files' name root localPrefixes

/-- Whether a function brings no new method to an exported type: its name is known already from the
declaration of the type or from the functions ahead. -/
def BringsNothing (files : List FileOutline) (ahead : List FunctionDecl) (f : FunctionDecl) : Prop :=
  ∀ t ∈ firstDeclarations (files.flatMap (·.types)), t.isExported = true →
    f.receiver? = some t.name → f.name ∈ (withMethods ahead t).methods

/-- Whether a function changes no number of methods that counts: in strict mode every number does,
otherwise it only counts whether an interface with fields has methods. -/
def KeepsCounts (isStrict : Bool) (files : List FileOutline) (_ahead : List FunctionDecl)
    (f : FunctionDecl) : Prop :=
  ∀ t ∈ exportedTypes files, f.receiver? = some t.name →
    if isStrict then f.name ∈ t.methods
    else t.kind = .interface → t.fields ≠ [] → t.methods ≠ []

/-- Any function. -/
def Anything (_files : List FileOutline) (_ahead : List FunctionDecl) (_f : FunctionDecl) : Prop :=
  True

/-- A type without the names of its methods, of which strict mode keeps the number. -/
def NeutralType.withoutMethods (isStrict : Bool) (t : NeutralType) : NeutralType :=
  { t with methods := if isStrict then List.replicate t.methods.length "" else [] }

/-- A type in a list of differing types, without its methods. -/
def TypeSummary.withoutMethods (s : TypeSummary) : TypeSummary := { s with methods := [] }

/-- An entry for a type that differs, without methods. -/
def TypeMismatch.withoutMethods (m : TypeMismatch) : TypeMismatch :=
  { m with source := m.source.withoutMethods, counterpart := m.counterpart.withoutMethods }

/-- Without new methods, exported types stay as they are. -/
theorem hides_bringsNothing : Hides BringsNothing fun t => t.neutral := by
  intro files files' ahead f adds allowed t ht exported
  rw [adds.completed_eq_self (allowed t ht exported)]

/-- A type is of another kind by its methods only if it is an interface with fields, and has methods
now and had none before, or the other way round. -/
theorem neutralKind_eq (t : TypeDecl) (methods : List String)
    (same : t.kind = .interface → t.fields ≠ [] → (methods = [] ↔ t.methods = [])) :
    { t with methods := methods }.neutralKind = t.neutralKind := by
  rw [TypeDecl.neutralKind, TypeDecl.neutralKind]
  cases isKind : t.kind with
  | interface =>
    by_cases noFields : t.fields = []
    · simp [noFields]
    · simp [noFields, List.isEmpty_iff, same isKind noFields]
  | _ => rfl

/-- Where the numbers that count stay, exported types without their methods stay as they are. -/
theorem hides_keepsCounts (isStrict : Bool) :
    Hides (KeepsCounts isStrict) fun t => t.neutral.withoutMethods isStrict := by
  intro files files' ahead f adds allowed t ht exported
  by_cases own : f.receiver? = some t.name
  · have mem : completed files t ∈ exportedTypes files := by
      rw [exportedTypes_eq]
      exact List.mem_map_of_mem (List.mem_filter.2 ⟨ht, exported⟩)
    have counts := allowed _ mem (by rwa [completed_name])
    rw [adds.completed_eq t]
    cases isStrict with
    | true =>
      rw [if_pos rfl] at counts
      have perm := adds.methods_perm counts
      have kind := neutralKind_eq (completed files t) (completed files' t).methods fun _ _ =>
        ⟨fun h => (h ▸ perm).nil_eq.symm, fun h => (h ▸ perm).eq_nil⟩
      simp only [TypeDecl.neutral, NeutralType.withoutMethods, kind, List.length_map, perm.length_eq]
    | false =>
      rw [if_neg Bool.false_ne_true] at counts
      have kind := neutralKind_eq (completed files t) (completed files' t).methods
        fun interface fields => iff_of_false
          (fun h => counts interface fields (List.subset_nil.1 (h ▸ adds.methods_subset t)))
          (counts interface fields)
      simp only [TypeDecl.neutral, NeutralType.withoutMethods, kind, Bool.false_eq_true, if_false]
  · rw [adds.completed_eq_self fun h => absurd h own]

/-- The names of exported types stay in any case. -/
theorem hides_anything : Hides Anything fun t => t.neutral.name := by
  intro files files' ahead f adds _ t _ _
  simp only [TypeDecl.neutral, completed_name]

/-! ## Comparisons -/

namespace Compare

/-- What a comparison overlooks: methods, in strict mode but for their number. -/
def Blur.methods (isStrict : Bool) : Blur where
  sourceType := NeutralType.withoutMethods isStrict
  counterpartType := NeutralType.withoutMethods isStrict
  entry := TypeMismatch.withoutMethods

/-- Methods that the comparison overlooks make no difference of types. -/
theorem typeDifferences_withoutMethods (isStrict : Bool) (a b : NeutralType) :
    typeDifferences isStrict (a.withoutMethods isStrict) (b.withoutMethods isStrict) =
      typeDifferences isStrict a b := by
  cases isStrict with
  | true =>
    simp only [typeDifferences, NeutralType.withoutMethods, if_true, List.length_replicate]
  | false => rfl

/-- The comparison overlooks the methods that were blurred. -/
theorem Blur.methods_isOverlooked (isStrict : Bool) : (methods isStrict).IsOverlooked isStrict where
  functions := .of_id
  types := ⟨fun _ => rfl, fun _ => rfl, typeDifferences_withoutMethods isStrict⟩
  functionEntry _ finding := by cases finding <;> rfl
  typeEntry _ finding := by cases finding <;> rfl
  functionGap _ _ _ finding := by cases finding <;> rfl
  typeGap _ _ _ finding := by cases finding <;> rfl

/-- Nothing is overlooked where nothing is blurred. -/
theorem Blur.IsOverlooked.of_id (isStrict : Bool) : Blur.IsOverlooked isStrict {} where
  functions := .of_id
  types := .of_id
  functionEntry _ finding := by cases finding <;> rfl
  typeEntry _ finding := by cases finding <;> rfl
  functionGap _ _ _ finding := by cases finding <;> rfl
  typeGap _ _ _ finding := by cases finding <;> rfl

theorem neutralFunctions_merge (language : Language) (files : List FileOutline)
    (name : Document.Value) (root : String) (localPrefixes : List String) :
    neutralFunctions true (merge language files name root localPrefixes).functions =
      (exportedFunctions files).map (·.neutral) := by
  simp [neutralFunctions, merge, exportedFunctions]

theorem neutralTypes_merge (language : Language) (files : List FileOutline)
    (name : Document.Value) (root : String) (localPrefixes : List String) :
    neutralTypes true (merge language files name root localPrefixes).types =
      (exportedTypes files).map (·.neutral) := by
  simp [neutralTypes, merge, exportedTypes]

/-- What a comparison sees of an outline with more private declarations. -/
theorem neutral_eq_of_extends {σ : Type}
    {Allowed : List FileOutline → List FunctionDecl → FunctionDecl → Prop} {view : NeutralType → σ}
    (hides : Hides Allowed fun t => view t.neutral) {o p : Outline} (h : o.Extends Allowed p) :
    o.language = p.language ∧
      neutralFunctions true o.functions = neutralFunctions true p.functions ∧
      (neutralTypes true o.types).map view = (neutralTypes true p.types).map view := by
  obtain ⟨language, files, files', name, root, localPrefixes, adds, rfl, rfl⟩ := h
  obtain ⟨functions, types⟩ := exported_eq_of_reflTransGen hides adds
  refine ⟨rfl, ?_, ?_⟩
  · rw [neutralFunctions_merge, neutralFunctions_merge, functions]
  · rw [neutralTypes_merge, neutralTypes_merge, List.map_map, List.map_map]
    exact types.symm

variable {α : Type}

/-- The gaps of functions. -/
def functionGaps (gaps : List Gap) : List Gap := gaps.filter (·.dimension == .behavioral)

/-- What is said of one implementation, without the methods of types that differ. -/
def withoutMethods (own : LanguageAgreement α) : LanguageAgreement α :=
  { own with typeMismatches := own.typeMismatches.map (·.withoutMethods) }

/-- Whether two agreements say the same, but for the methods of types that differ. -/
structure SameButMethods (a b : Agreement α) : Prop where
  overall : a.overall = b.overall
  hasConverged : a.hasConverged = b.hasConverged
  byDimension : a.byDimension = b.byDimension
  byLanguage : a.byLanguage.map (fun e => (e.1, withoutMethods e.2)) =
    b.byLanguage.map fun e => (e.1, withoutMethods e.2)
  gaps : a.gaps = b.gaps
  threshold : a.threshold = b.threshold
  sourceLanguage : a.sourceLanguage = b.sourceLanguage

/-- Agreements that are the same without methods are the same but for methods. -/
theorem SameButMethods.of_onAgreement {a b : Agreement α} {isStrict : Bool}
    (h : (Blur.methods isStrict).onAgreement a = (Blur.methods isStrict).onAgreement b) :
    SameButMethods a b where
  overall := congrArg (·.overall) h
  hasConverged := congrArg (·.hasConverged) h
  byDimension := congrArg (·.byDimension) h
  byLanguage := congrArg (·.byLanguage) h
  gaps := by
    have := congrArg (·.gaps) h
    simpa only [Blur.onAgreement, Blur.methods, List.map_id] using this
  threshold := congrArg (·.threshold) h
  sourceLanguage := congrArg (·.sourceLanguage) h

variable [Scalar α]

/-- The scores but that of types. -/
def withoutType (scores : ByDimension α) : ByDimension α := { scores with type := Scalar.zero }

/-- What is said of one implementation besides the comparison of types: the score of types and the
overall score, to which it contributes, are left out, and so are the types that differ. -/
def besidesTypes (own : LanguageAgreement α) : LanguageAgreement α :=
  { own with
    overall := Scalar.zero
    byDimension := withoutType own.byDimension
    typeMismatches := [] }

/-- Whether two agreements say the same besides the comparison of types. -/
structure SameBesidesTypes (a b : Agreement α) : Prop where
  byLanguage : a.byLanguage.map (fun e => (e.1, besidesTypes e.2)) =
    b.byLanguage.map fun e => (e.1, besidesTypes e.2)
  byDimension : withoutType a.byDimension = withoutType b.byDimension
  gaps : functionGaps a.gaps = functionGaps b.gaps
  threshold : a.threshold = b.threshold
  sourceLanguage : a.sourceLanguage = b.sourceLanguage

variable {settings : ComparisonSettings α} {scorers : Scorers α} {r r' t t' : Outline}

theorem typeGap?_dimension {sourceLanguage language : String} {u : NeutralType}
    {finding : Finding NeutralType TypeDifference} {g : Gap}
    (h : typeGap? sourceLanguage language u finding = some g) : g.dimension = .type := by
  cases finding <;> cases h <;> rfl

/-- Types leave no gaps of functions. -/
theorem functionGaps_compareLanguage (settings : ComparisonSettings α) (scorers : Scorers α)
    (r t : Outline) (name : String) :
    functionGaps (compareLanguage settings scorers r name t).2 =
      functionGaps (((neutralFunctions settings.ignoresPrivate r.functions).map fun f =>
        (f, findFunction settings.isStrict
          (neutralFunctions settings.ignoresPrivate t.functions) f)).filterMap
        fun x => functionGap? r.language.tag name x.1 x.2) := by
  have noTypeGaps : functionGaps (((neutralTypes settings.ignoresPrivate r.types).map fun u =>
      (u, findType settings.isStrict (neutralTypes settings.ignoresPrivate t.types) u)).filterMap
      fun x => typeGap? r.language.tag name x.1 x.2) = [] := by
    refine List.filter_eq_nil_iff.2 fun g hg => ?_
    obtain ⟨⟨u, finding⟩, -, hg⟩ := List.mem_filterMap.1 hg
    rw [typeGap?_dimension hg]
    decide
  rw [compareLanguage, functionGaps, List.filter_append, ← functionGaps, ← functionGaps, noTypeGaps,
    List.append_nil]

/-- **Besides the comparison of types, the functions and the names of the types tell everything.** -/
theorem besidesTypes_congr (settings : ComparisonSettings α) (language : r.language = r'.language)
    (functions : neutralFunctions settings.ignoresPrivate r.functions =
      neutralFunctions settings.ignoresPrivate r'.functions)
    (otherFunctions : neutralFunctions settings.ignoresPrivate t.functions =
      neutralFunctions settings.ignoresPrivate t'.functions)
    (types : (neutralTypes settings.ignoresPrivate r.types).map (·.name) =
      (neutralTypes settings.ignoresPrivate r'.types).map (·.name))
    (otherTypes : (neutralTypes settings.ignoresPrivate t.types).map (·.name) =
      (neutralTypes settings.ignoresPrivate t'.types).map (·.name))
    (scores : scorers.Agree r t r' t') (name : String) :
    besidesTypes (compareLanguage settings scorers r name t).1 =
        besidesTypes (compareLanguage settings scorers r' name t').1 ∧
      functionGaps (compareLanguage settings scorers r name t).2 =
        functionGaps (compareLanguage settings scorers r' name t').2 := by
  have countTypes := congrArg List.length types
  have countOtherTypes := congrArg List.length otherTypes
  have missingTypes := missing_congr (typeDifferences settings.isStrict)
    (typeDifferences settings.isStrict) types otherTypes
  simp only [List.length_map] at countTypes countOtherTypes
  constructor
  · simp only [besidesTypes, withoutType, compareLanguage, functions, otherFunctions, countTypes,
      countOtherTypes, scores.test, scores.idiomatic, findType, missingTypes]
  · rw [functionGaps_compareLanguage, functionGaps_compareLanguage, functions, otherFunctions,
      language]

/-- Means are taken dimension by dimension. -/
theorem withoutType_mean (scores : List (ByDimension α)) :
    withoutType (.mean scores) = withoutType (.mean (scores.map withoutType)) := by
  rw [ByDimension.mean, ByDimension.mean, List.isEmpty_map]
  split
  · rfl
  · simp only [withoutType, List.map_map, Function.comp_def]

theorem withoutType_mean_congr {scores scores' : List (ByDimension α)}
    (same : scores.map withoutType = scores'.map withoutType) :
    withoutType (.mean scores) = withoutType (.mean scores') := by
  rw [withoutType_mean, same, ← withoutType_mean]

/-! ## Private declarations -/

/-- Whether a reference and other implementations are others with more private declarations, which
the scorers do not see. -/
structure ExtendAll (Allowed : List FileOutline → List FunctionDecl → FunctionDecl → Prop)
    (scorers : Scorers α) (r r' : Outline) (targets targets' : List (String × Outline)) : Prop where
  reference : r.Extends Allowed r'
  targets : List.Forall₂ (fun t t' => t.1 = t'.1 ∧ t.2.Extends Allowed t'.2 ∧
    scorers.Agree r t.2 r' t'.2) targets targets'

variable {targets targets' : List (String × Outline)}

/-- A comparison that overlooks what private declarations change says the same. -/
theorem onAgreement_eq_of_extendAll {blur : Blur}
    {Allowed : List FileOutline → List FunctionDecl → FunctionDecl → Prop}
    (overlooked : blur.IsOverlooked settings.isStrict)
    (ignoresPrivate : settings.ignoresPrivate = true)
    (source : Hides Allowed fun t => blur.sourceType t.neutral)
    (counterpart : Hides Allowed fun t => blur.counterpartType t.neutral)
    (h : ExtendAll Allowed scorers r r' targets targets') :
    blur.onAgreement (compare settings scorers r targets) =
      blur.onAgreement (compare settings scorers r' targets') := by
  obtain ⟨language, functions, types⟩ := neutral_eq_of_extends source h.reference
  refine compare_congr overlooked ⟨language, by rwa [ignoresPrivate], by rwa [ignoresPrivate]⟩ ?_
  refine h.targets.imp fun t t' ⟨sameName, extended, scores⟩ => ⟨sameName, ⟨?_, ?_⟩, scores⟩
  · rw [ignoresPrivate, (neutral_eq_of_extends counterpart extended).2.1]
  · rw [ignoresPrivate, (neutral_eq_of_extends counterpart extended).2.2]

/-- Where no private method brings a new name to an exported type, nothing changes. -/
theorem compare_eq_of_bringsNothing (ignoresPrivate : settings.ignoresPrivate = true)
    (h : ExtendAll BringsNothing scorers r r' targets targets') :
    compare settings scorers r targets = compare settings scorers r' targets' := by
  have whole (a : Agreement α) : Blur.onAgreement {} a = a := by
    simp [Blur.onAgreement, Blur.onLanguage]
  have same := onAgreement_eq_of_extendAll (.of_id settings.isStrict) ignoresPrivate
    hides_bringsNothing hides_bringsNothing h
  rwa [whole, whole] at same

/-- Where no private method changes a number of methods that counts, methods of types that differ are
all that changes. -/
theorem sameButMethods_of_keepsCounts (ignoresPrivate : settings.ignoresPrivate = true)
    (h : ExtendAll (KeepsCounts settings.isStrict) scorers r r' targets targets') :
    SameButMethods (compare settings scorers r targets) (compare settings scorers r' targets') :=
  .of_onAgreement <| onAgreement_eq_of_extendAll (Blur.methods_isOverlooked settings.isStrict)
    ignoresPrivate (hides_keepsCounts _) (hides_keepsCounts _) h

/-- Private declarations change nothing besides the comparison of types. -/
theorem sameBesidesTypes_of_extendAll (ignoresPrivate : settings.ignoresPrivate = true)
    (h : ExtendAll Anything scorers r r' targets targets') :
    SameBesidesTypes (compare settings scorers r targets) (compare settings scorers r' targets') := by
  obtain ⟨language, functions, types⟩ := neutral_eq_of_extends hides_anything h.reference
  let result (r : Outline) (t : String × Outline) :=
    let own := compareLanguage settings scorers r t.1 t.2
    (besidesTypes own.1, functionGaps own.2)
  have same : List.Forall₂ (fun t t' => t.1 = t'.1 ∧ result r t = result r' t') targets targets' := by
    refine h.targets.imp fun t t' ⟨sameName, extended, scores⟩ => ⟨sameName, ?_⟩
    obtain ⟨-, otherFunctions, otherTypes⟩ := neutral_eq_of_extends hides_anything extended
    have own := besidesTypes_congr settings language (by rwa [ignoresPrivate])
      (by rwa [ignoresPrivate]) (by rwa [ignoresPrivate]) (by rwa [ignoresPrivate]) scores t'.1
    simp only [result, sameName, own]
  have results := map_sortTargets_congr (result r) (result r') same
  have byLanguage := congrArg (List.map fun x => (x.1, x.2.1)) results
  have byDimension := congrArg (List.map (·.2.1.byDimension)) results
  have gaps := congrArg (List.flatMap (·.2.2)) results
  simp only [List.map_map, List.flatMap_map, Function.comp_def, result] at byLanguage byDimension gaps
  refine ⟨?_, withoutType_mean_congr ?_, ?_, rfl, congrArg Language.tag language⟩
  · simpa only [compare, List.map_map, Function.comp_def] using byLanguage
  · simpa only [besidesTypes, List.map_map, Function.comp_def] using byDimension
  · simpa only [compare, functionGaps, List.filter_flatMap, List.flatMap_map] using gaps

/-- **A comparison that leaves out private declarations shows of them at most methods.**  Nothing
changes where they bring no new method to an exported type; nothing but methods of types that differ
where they change no number of methods that counts; nothing besides the comparison of types in any
case. -/
theorem compare_private (settings : ComparisonSettings α)
    (ignoresPrivate : settings.ignoresPrivate = true) (scorers : Scorers α) (r r' : Outline)
    (targets targets' : List (String × Outline)) :
    (ExtendAll BringsNothing scorers r r' targets targets' →
      compare settings scorers r targets = compare settings scorers r' targets') ∧
    (ExtendAll (KeepsCounts settings.isStrict) scorers r r' targets targets' →
      SameButMethods (compare settings scorers r targets)
        (compare settings scorers r' targets')) ∧
    (ExtendAll Anything scorers r r' targets targets' →
      SameBesidesTypes (compare settings scorers r targets)
        (compare settings scorers r' targets')) :=
  ⟨compare_eq_of_bringsNothing ignoresPrivate, sameButMethods_of_keepsCounts ignoresPrivate,
    sameBesidesTypes_of_extendAll ignoresPrivate⟩

/-- A function without a receiver, and a method of a type that is no interface. -/
theorem compare_private_reset :
    let file : FileOutline :=
      { path := "t.go", language := .go, types := [{ name := "T", kind := .struct }] }
    let helper : FunctionDecl := { name := "helper", isExported := false }
    let reset : FunctionDecl := { name := "reset", receiver? := some "T", isExported := false }
    let project (functions : List FunctionDecl) : Outline := merge .go [{ file with functions }]
    let target : Outline := merge .go [file]
    compare Settings.usualComparison .full (project []) [("go", target)] =
        compare Settings.usualComparison .full (project [helper]) [("go", target)] ∧
      SameButMethods (compare Settings.usualComparison .full (project []) [("go", target)])
        (compare Settings.usualComparison .full (project [reset]) [("go", target)]) ∧
      SameBesidesTypes (compare Settings.usualComparison .full (project []) [("go", target)])
        (compare Settings.usualComparison .full (project [reset]) [("go", target)]) := by
  intro file helper reset project target
  have adds (f : FunctionDecl) : AddsFunction f [] [file] [{ file with functions := [f] }] :=
    ⟨[], file, [], [], [], rfl, rfl, rfl, rfl⟩
  have extendAll {Allowed} {f : FunctionDecl} (isPrivate : f.isExported = false)
      (allowed : Allowed [file] [] f) : ExtendAll Allowed (.full : Scorers Float) (project [])
        (project [f]) [("go", target)] [("go", target)] :=
    ⟨⟨.go, [file], _, _, _, _, .single (.function f [] isPrivate allowed (adds f)), rfl, rfl⟩,
      .cons ⟨rfl, ⟨.go, [file], [file], _, _, _, .refl, rfl, rfl⟩, .of_full _ _ _ _⟩ .nil⟩
  have noInterface : ∀ t ∈ exportedTypes [file], t.kind ≠ .interface := by decide +kernel
  have private_shown (f : FunctionDecl) :=
    compare_private Settings.usualComparison rfl .full (project []) (project [f])
      [("go", target)] [("go", target)]
  refine ⟨(private_shown helper).1 (extendAll rfl ?_), (private_shown reset).2.1 (extendAll rfl ?_),
    (private_shown reset).2.2 (extendAll rfl trivial)⟩
  · intro t _ _ own
    cases own
  · intro t ht _ interface
    exact absurd interface (noInterface t ht)

/-- A private method is counted among the methods of its type in strict mode.  In any mode it makes
an interface of a type that fields alone let stand for a structure. -/
theorem private_method_leaves_gap :
    let struct : FileOutline :=
      { path := "t.go", language := .go, types := [{ name := "T", kind := .struct }] }
    let interface : FileOutline :=
      { path := "t.ts", language := .typescript
        types := [{ name := "T", kind := .interface, fields := [{ name := "x" }] }] }
    let reset : FunctionDecl := { name := "reset", receiver? := some "T", isExported := false }
    let gaps (isStrict : Bool) (file : FileOutline) (functions : List FunctionDecl) : List Gap :=
      (compare { Settings.usualComparison with isStrict } .full
        (merge file.language [{ file with functions }])
        [(file.language.tag, merge file.language [file])]).gaps
    gaps true struct [] = [] ∧ gaps true struct [reset] ≠ [] ∧
      gaps false interface [] = [] ∧ gaps false interface [reset] ≠ [] := by
  decide +kernel

end Compare
end Concord
