import Concord.Refine.Change
import Concord.Refine.Progress

/-!
# Concord.Refine.Outcome

How a refinement loop went and how it ended, as a record and as a text.
-/

namespace Concord

/-- The ways in which the loop ends. -/
inductive Ending where
  | converged
  | stalled
  | exhausted
  | cancelled
deriving DecidableEq, Repr

namespace Ending

/-- All endings. -/
def all : List Ending := [converged, stalled, exhausted, cancelled]

/-- The word for an ending. -/
def word : Ending → String
  | converged => "converged"
  | stalled => "stalled"
  | exhausted => "exhausted"
  | cancelled => "cancelled"

end Ending

/-- One round of the loop. -/
structure Round (α : Type) where
  /-- Rounds count from one. -/
  number : Nat
  score : α
  phase : Phase
  /-- The change of the score since the round before. -/
  improvement : α
  gapCount : Nat := 0
  changeCount : Nat := 0
  agreement? : Option (Agreement α) := none
  instructions? : Option Instructions := none

/-- A loop that has ended. -/
structure Outcome (α : Type) where
  ending : Ending
  finalScore : α
  bestScore : α
  roundsUsed : Int := 0
  rounds : List (Round α) := []
  unresolved : List Gap := []
  stuckReason : String := ""
  summary : String := ""
  /-- The directories of the generated projects under their languages. -/
  projects : List (String × String) := []
  spec? : Option String := none
  lastInstructions? : Option Instructions := none

namespace Refine

variable {α : Type} [Scalar α]

/-- The number of unresolved gaps that a summary lists. -/
def listedGaps : Nat := 10

/-- The first line of a summary. -/
def endingLine (o : Outcome α) : String :=
  let rounds := toString o.roundsUsed ++ " iteration(s)"
  let final := Scalar.percent o.finalScore
  match o.ending with
  | .converged => "✓ Converged after " ++ rounds ++ " with " ++ final ++ " parity."
  | .stalled =>
    "✗ Stalled after " ++ rounds ++ ": " ++ o.stuckReason ++ ". Final score: " ++ final ++
      " (best " ++ Scalar.percent o.bestScore ++ ")"
  | .cancelled => "✗ Cancelled after " ++ rounds ++ ". Final score: " ++ final
  | .exhausted => "✗ Did not converge after " ++ rounds ++ ". Final score: " ++ final

/-- The scores of all rounds, if there is more than one. -/
def progressionLines (o : Outcome α) : List String :=
  if o.rounds.length ≤ 1 then []
  else
    ["", "Score progression: " ++
      " → ".intercalate (o.rounds.map fun r => Scalar.percent r.score)]

/-- The unresolved gaps, the gravest first. -/
def bySeverity (gaps : List Gap) : List Gap :=
  gaps.mergeSort fun a b => a.severity.rank ≤ b.severity.rank

/-- The gravest unresolved gaps and the number of those not listed. -/
def unresolvedLines (o : Outcome α) : List String :=
  if o.unresolved.isEmpty then []
  else
    let gaps := bySeverity o.unresolved
    ["", toString gaps.length ++ " unresolved gap(s):"] ++
      (gaps.take listedGaps).map (fun g =>
        "  - [" ++ g.severity.word ++ "] " ++ g.source.name ++ ": " ++ g.discrepancy) ++
      (if listedGaps < gaps.length then
        ["  ... and " ++ toString (gaps.length - listedGaps) ++ " more"] else [])

/-- How the loop ended, in a few lines. -/
def summarize (o : Outcome α) : String :=
  "\n".intercalate (endingLine o :: (progressionLines o ++ unresolvedLines o)) ++ "\n"

end Refine
end Concord
