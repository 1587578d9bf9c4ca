import Concord.Compare.Gap
import Concord.Compare.Match
import Concord.Outline.Basic
import Concord.Settings.Basic

/-!
# Concord.Compare.Agreement

How far the implementations of a project in other languages agree with the reference.

For every item of the reference the first item of its name in the other implementation is its
counterpart, and there is one *finding*: the item matches, is missing, or differs.  Scores, lists of
items and gaps are all read off the findings.
-/

namespace Concord

/-- What a comparison finds about one item of the reference. -/
inductive Finding (ι δ : Type) where
  | matching
  | missing
  | differing (counterpart : ι) (differences : List δ)
deriving Repr

/-- A type in a list of differing types. -/
structure TypeSummary where
  kind : TypeKind
  fieldCount : Nat := 0
  methods : List String := []
  implements : List String := []
deriving DecidableEq, Repr

/-- A type that differs from the reference. -/
structure TypeMismatch where
  name : String
  source : TypeSummary
  counterpart : TypeSummary
  differences : List String := []
deriving DecidableEq, Repr

/-- A function that differs from the reference. -/
structure FunctionMismatch where
  name : String
  source : String
  counterpart : String
  differences : List String := []
deriving DecidableEq, Repr

/-- How far one implementation agrees with the reference. -/
structure LanguageAgreement (α : Type) where
  language : String
  overall : α
  byDimension : ByDimension α
  missingTypes : List String := []
  missingFunctions : List String := []
  typeMismatches : List TypeMismatch := []
  functionMismatches : List FunctionMismatch := []

/-- How far all implementations agree with the reference. -/
structure Agreement (α : Type) where
  overall : α
  hasConverged : Bool := false
  byDimension : ByDimension α
  /-- The implementations in the order of their languages' names. -/
  byLanguage : List (String × LanguageAgreement α) := []
  gaps : List Gap := []
  threshold : α
  sourceLanguage : String := ""

namespace Compare

variable {α : Type} [Scalar α]

/-! ## Findings -/

/-- What is found about an item of the reference among the items of the other implementation. -/
def findAmong {ι δ : Type} (name : ι → String) (differences : ι → ι → List δ) (items : List ι)
    (i : ι) : Finding ι δ :=
  match items.find? (name · == name i) with
  | none => .missing
  | some c =>
    match differences i c with
    | [] => .matching
    | ds => .differing c ds

/-- What is found about a type of the reference among the types of the other implementation. -/
def findType (isStrict : Bool) :
    List NeutralType → NeutralType → Finding NeutralType TypeDifference :=
  findAmong (·.name) (typeDifferences isStrict)

/-- What is found about a function of the reference among the functions of the other
implementation. -/
def findFunction (isStrict : Bool) :
    List NeutralFunction → NeutralFunction → Finding NeutralFunction FunctionDifference :=
  findAmong (·.name) (functionDifferences isStrict)

/-- The name of an item that is missing. -/
def missingName? {ι δ : Type} (name : String) : Finding ι δ → Option String
  | .missing => some name
  | _ => none

/-- A type as it appears in a list of differing types. -/
def summary (t : NeutralType) : TypeSummary :=
  { kind := t.kind, fieldCount := t.fields.length, methods := t.methods, implements := t.implements }

/-- The entry for a type that differs. -/
def typeMismatch? (t : NeutralType) : Finding NeutralType TypeDifference → Option TypeMismatch
  | .differing c ds =>
    some { name := t.name, source := summary t, counterpart := summary c,
           differences := ds.map (·.text) }
  | _ => none

/-- The entry for a function that differs. -/
def functionMismatch? (f : NeutralFunction) :
    Finding NeutralFunction FunctionDifference → Option FunctionMismatch
  | .differing c ds =>
    some { name := f.name, source := f.describe, counterpart := c.describe,
           differences := ds.map (·.text) }
  | _ => none

/-! ## Gaps -/

/-- A type of the reference. -/
def typeItem (language : String) (t : NeutralType) : Item :=
  { kind := .type, name := t.declaredName, signature := t.describe, location := t.location,
    language }

/-- A function of the reference, with its declared signature. -/
def functionItem (language : String) (f : NeutralFunction) : Item :=
  { kind := .function, name := f.declaredName, signature := f.declaredSignature,
    location := f.location, language }

/-- The gap that a type leaves, if it does not match. -/
def typeGap? (sourceLanguage language : String) (t : NeutralType) :
    Finding NeutralType TypeDifference → Option Gap
  | .matching => none
  | .missing =>
    some
      { dimension := .type, severity := .high, kind := .missing
        source := typeItem sourceLanguage t
        discrepancy := "type missing in generated code"
        suggestedFix := "Implement type '" ++ t.declaredName ++ "' in " ++ language
        language }
  | .differing c ds =>
    some
      { dimension := .type, severity := .medium, kind := .mismatch
        source := typeItem sourceLanguage t
        counterpart? := some (typeItem language c)
        discrepancy := "; ".intercalate (ds.map (·.text))
        suggestedFix :=
          "Update type '" ++ t.name ++ "' in " ++ language ++ " to match source definition"
        language }

/-- The gap that a function leaves, if it does not match. -/
def functionGap? (sourceLanguage language : String) (f : NeutralFunction) :
    Finding NeutralFunction FunctionDifference → Option Gap
  | .matching => none
  | .missing =>
    some
      { dimension := .behavioral, severity := .high, kind := .missing
        source := functionItem sourceLanguage f
        discrepancy := "function missing in generated code"
        suggestedFix := "Implement function '" ++ f.declaredName ++ "' in " ++ language
        language }
  | .differing c ds =>
    some
      { dimension := .behavioral, severity := .high, kind := .mismatch
        source := functionItem sourceLanguage f
        counterpart? := some { functionItem language c with signature := c.describe }
        discrepancy := "; ".intercalate (ds.map (·.text))
        suggestedFix :=
          "Update function '" ++ f.name ++ "' in " ++ language ++ " to match source signature"
        language }

/-! ## One implementation -/

/-- The scores of the dimensions for which a comparison of declarations says nothing. -/
structure Scorers (α : Type) where
  test : Outline → Outline → α
  idiomatic : Outline → Outline → α

/-- Full scores for every project. -/
def Scorers.full : Scorers α := ⟨fun _ _ => Scalar.one, fun _ _ => Scalar.one⟩

/-- The agreement of one implementation with the reference, and its gaps: first those of functions,
then those of types. -/
def compareLanguage (settings : ComparisonSettings α) (scorers : Scorers α) (reference : Outline)
    (language : String) (target : Outline) : LanguageAgreement α × List Gap :=
  let functions := neutralFunctions settings.ignoresPrivate reference.functions
  let types := neutralTypes settings.ignoresPrivate reference.types
  let otherFunctions := neutralFunctions settings.ignoresPrivate target.functions
  let otherTypes := neutralTypes settings.ignoresPrivate target.types
  let onFunctions := functions.map fun f => (f, findFunction settings.isStrict otherFunctions f)
  let onTypes := types.map fun t => (t, findType settings.isStrict otherTypes t)
  let missingTypes := onTypes.filterMap fun (t, finding) => missingName? t.name finding
  let missingFunctions := onFunctions.filterMap fun (f, finding) => missingName? f.name finding
  let typeMismatches := onTypes.filterMap fun (t, finding) => typeMismatch? t finding
  let functionMismatches := onFunctions.filterMap fun (f, finding) => functionMismatch? f finding
  let byDimension : ByDimension α :=
    { structural :=
        (countSimilarity functions.length otherFunctions.length +
          countSimilarity types.length otherTypes.length) / Scalar.ofNat 2
      type := matchScore types.length (types.length - missingTypes.length) typeMismatches.length
      behavioral :=
        matchScore functions.length (functions.length - missingFunctions.length)
          functionMismatches.length
      test := scorers.test reference target
      idiomatic := scorers.idiomatic reference target }
  let source := reference.language.tag
  ({ language, overall := byDimension.weighted settings.weights, byDimension, missingTypes,
     missingFunctions, typeMismatches, functionMismatches },
   (onFunctions.filterMap fun (f, finding) => functionGap? source language f finding) ++
     onTypes.filterMap fun (t, finding) => typeGap? source language t finding)

/-! ## All implementations -/

/-- The targets in the order of their names. -/
def sortTargets {β : Type} (targets : List (String × β)) : List (String × β) :=
  targets.mergeSort fun a b => a.1 ≤ b.1

/-- The agreement of some implementations, each under the name of its language, with the
reference. -/
def compare (settings : ComparisonSettings α) (scorers : Scorers α) (reference : Outline)
    (targets : List (String × Outline)) : Agreement α :=
  let results := (sortTargets targets).map fun (language, target) =>
    (language, compareLanguage settings scorers reference language target)
  let scores := results.map fun r => r.2.1.overall
  let overall : α := if results.isEmpty then Scalar.zero else Scalar.mean scores
  { overall
    hasConverged := !results.isEmpty && settings.threshold ≤ overall
    byDimension := ByDimension.mean (results.map fun r => r.2.1.byDimension)
    byLanguage := results.map fun r => (r.1, r.2.1)
    gaps := results.flatMap fun r => r.2.2
    threshold := settings.threshold
    sourceLanguage := reference.language.tag }

end Compare
end Concord
