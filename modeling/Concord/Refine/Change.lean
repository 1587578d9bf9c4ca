import Concord.Compare.Agreement
import Concord.Compare.Fixes

/-!
# Concord.Refine.Change

What to change after a comparison: in the specification, in the code of each language, or in both.
Every gap in types, functions or structure gives one change.
-/

namespace Concord

/-- What the changes of a round are aimed at. -/
inductive Phase where
  | spec
  | code
  | both
deriving DecidableEq, Repr

namespace Phase

/-- All phases. -/
def all : List Phase := [spec, code, both]

/-- The word for a phase. -/
def word : Phase → String
  | spec => "spec"
  | code => "code"
  | both => "both"

/-- Whether the specification is changed. -/
def changesSpec : Phase → Bool
  | code => false
  | _ => true

/-- Whether code is changed. -/
def changesCode : Phase → Bool
  | spec => false
  | _ => true

end Phase

/-- A change of the specification. -/
structure SpecChange where
  sectionName : String
  action : String
  element : String
  description : String := ""
  suggestion : String := ""
deriving DecidableEq, Repr

/-- A change of code. -/
structure CodeChange where
  action : String
  elementType : String
  element : String
  description : String := ""
  source : String := ""
  file : String := ""
deriving DecidableEq, Repr

/-- The changes of a round. -/
structure Instructions where
  summary : String
  phase : Phase
  spec : List SpecChange := []
  /-- The changes of code under the names of their languages. -/
  code : List (String × List CodeChange) := []
deriving DecidableEq, Repr

namespace Instructions

-- Sums of naturals start from the core library's zero, whatever else is imported.
attribute [local instance (high)] Zero.ofOfNat0

/-- The number of changes of code. -/
def codeCount (i : Instructions) : Nat := (i.code.map (·.2.length)).sum

/-- The number of all changes. -/
def count (i : Instructions) : Nat := i.spec.length + i.codeCount

end Instructions

namespace Refine

/-- The phase of a round, which is counted from zero and may be any integer.  The adaptive strategy
takes more missing than differing items for a sign that the specification is incomplete. -/
def phaseOf (strategy : Strategy) (round : Int) (gaps : List Gap) : Phase :=
  match strategy with
  | .specFirst => if round < 2 then .spec else .code
  | .codeFirst => if round < 2 then .code else .spec
  | .balanced => if round % 2 = 0 then .spec else .code
  | .adaptive =>
    let missing := gaps.countP (·.kind == .missing)
    if gaps.length - missing < missing then .spec else .code

/-- The section of the specification that a dimension belongs to. -/
def sectionOf? : Dimension → Option String
  | .type => some "Types"
  | .behavioral => some "Functions"
  | .structural => some "Architecture"
  | _ => none

/-- What a gap in a dimension is about in code. -/
def elementTypeOf? : Dimension → Option String
  | .type => some "type"
  | .behavioral => some "function"
  | _ => none

/-- Missing items are added, all others are modified. -/
def actionFor (gap : Gap) : String := if gap.kind == .missing then "add" else "modify"

/-- The change of the specification for a gap. -/
def specChange? (gap : Gap) : Option SpecChange :=
  (sectionOf? gap.dimension).map fun name =>
    { sectionName := name
      action := if gap.dimension == .structural then "modify" else actionFor gap
      element := gap.source.name
      description := gap.discrepancy
      suggestion := gap.suggestedFix }

/-- The change of code for a gap, which needs a language. -/
def codeChange? (gap : Gap) : Option (String × CodeChange) :=
  if gap.language.isEmpty then none
  else (elementTypeOf? gap.dimension).map fun elementType =>
    (gap.language,
     { action := actionFor gap
       elementType
       element := gap.source.name
       description := gap.discrepancy
       source := gap.source.location
       file := (gap.counterpart?.map (·.location)).getD "" })

/-- Adds a change behind the others of its language. -/
def addChange (changes : List (String × List CodeChange)) (change : String × CodeChange) :
    List (String × List CodeChange) :=
  match changes with
  | [] => [(change.1, [change.2])]
  | (language, own) :: rest =>
    if language == change.1 then (language, own ++ [change.2]) :: rest
    else (language, own) :: addChange rest change

/-- The changes for some gaps in a phase. -/
def instructions (gaps : List Gap) (phase : Phase) : Instructions :=
  if gaps.isEmpty then { summary := "No refinements needed - parity achieved.", phase }
  else
    let spec := if phase.changesSpec then gaps.filterMap specChange? else []
    let code :=
      if phase.changesCode then (gaps.filterMap codeChange?).foldl addChange [] else []
    let made : Instructions := { summary := "", phase, spec, code }
    { made with
      summary := "Found " ++ toString gaps.length ++ " parity gaps. " ++ toString spec.length ++
        " spec changes, " ++ toString made.codeCount ++ " code changes needed" }

/-! ## Text -/

/-- The lines about a change of the specification. -/
def specLines (c : SpecChange) : List String :=
  ["### " ++ c.action ++ ": " ++ c.sectionName ++ " `" ++ c.element ++ "`", c.description] ++
    (if c.suggestion.isEmpty then [] else ["", "Suggested fix: " ++ c.suggestion]) ++ [""]

/-- The lines about a change of code. -/
def codeLines (c : CodeChange) : List String :=
  ["### " ++ c.action ++ " " ++ c.elementType ++ " `" ++ c.element ++ "`", c.description] ++
    (if c.source.isEmpty then [] else ["Reference: " ++ c.source]) ++ [""]

/-- The lines about the changes of code in one language. -/
def codeSection (entry : String × List CodeChange) : List String :=
  if entry.2.isEmpty then []
  else ["## " ++ Compare.capitals entry.1 ++ " Code Changes", ""] ++ entry.2.flatMap codeLines

/-- The instructions of a round as a text. -/
def render (i : Instructions) : String :=
  let lines :=
    ["# Refinement Instructions", "", i.summary, ""] ++
    (if i.spec.isEmpty then [] else ["## Spec Changes", ""] ++ i.spec.flatMap specLines) ++
    (Compare.sortTargets i.code).flatMap codeSection
  "\n".intercalate lines

end Refine
end Concord
