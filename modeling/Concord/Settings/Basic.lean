import Concord.Compare.Score
import Concord.Document.Value

/-!
# Concord.Settings.Basic

What a user can set: how projects are read, how they are compared, and when the refinement loop
ends.
-/

namespace Concord

/-- How the loop chooses what to refine next. -/
inductive Strategy where
  | specFirst
  | codeFirst
  | balanced
  | adaptive
deriving DecidableEq, Repr

namespace Strategy

/-- All strategies. -/
def all : List Strategy := [specFirst, codeFirst, balanced, adaptive]

/-- The word for a strategy. -/
def word : Strategy → String
  | specFirst => "spec-first"
  | codeFirst => "code-first"
  | balanced => "balanced"
  | adaptive => "adaptive"

/-- The strategy with this word. -/
def ofWord? (w : String) : Option Strategy := all.find? (·.word == w)

end Strategy

/-- How two implementations are compared. -/
structure ComparisonSettings (α : Type) where
  weights : ByDimension α
  threshold : α
  /-- Whether pointers, asynchrony and the number of methods count. -/
  isStrict : Bool
  /-- Whether private functions and types are left out. -/
  ignoresPrivate : Bool

/-- When the refinement loop ends. -/
structure LoopSettings (α : Type) where
  /-- The score at which the implementations agree well enough. -/
  threshold : α
  maxRounds : Nat
  /-- The loop is stuck when the score changed by less than this … -/
  stuckThreshold : α
  /-- … over so many rounds. -/
  stuckWindow : Nat
  strategy : Strategy

/-- All settings. -/
structure Settings (α : Type) where
  sourceLanguage? : Option String := none
  targetLanguages : List String := []
  /-- Names of directories that are never entered. -/
  ignoredNames : List String
  includesTests : Bool := false
  comparison : ComparisonSettings α
  loop : LoopSettings α
  /-- Entries that are not settings of this library; they are kept as they are. -/
  others : List (String × Document.Value) := []

namespace Settings

/-- Names of directories that are not entered unless other names are set. -/
def usualIgnoredNames : List String :=
  ["vendor", "node_modules", "target", "bin", "obj", "build", "dist", "__pycache__", "venv",
   ".venv", "env", "testdata"]

/-- The usual weights of the dimensions, which sum to one. -/
def usualWeights : ByDimension Float := ⟨0.20, 0.25, 0.35, 0.15, 0.05⟩

/-- The usual way to compare. -/
def usualComparison : ComparisonSettings Float :=
  { weights := usualWeights, threshold := 0.95, isStrict := false, ignoresPrivate := true }

/-- The usual end of the loop. -/
def usualLoop : LoopSettings Float :=
  { threshold := 0.95, maxRounds := 5, stuckThreshold := 0.02, stuckWindow := 3,
    strategy := .balanced }

/-- The settings where nothing is set. -/
def usual : Settings Float :=
  { ignoredNames := usualIgnoredNames, comparison := usualComparison, loop := usualLoop }

end Settings
end Concord
