import Concord.Failure
import Concord.Settings.Basic

/-!
# Concord.Refine.Progress

The scores of the rounds so far, and what they say: whether the goal is reached, whether the loop is
stuck, and how many more rounds it may take.
-/

namespace Concord

/-- Why the loop is stuck. -/
inductive StuckReason where
  | noImprovement
  | smallImprovement
deriving DecidableEq, Repr

/-- The text of a reason. -/
def StuckReason.text : StuckReason → String
  | noImprovement => "no improvement in recent iterations"
  | smallImprovement => "improvement below threshold"

namespace Refine

variable {α : Type} [Scalar α]

/-- The number of scores over which the trend is taken. -/
def trendWindow : Nat := 3

/-- The last `n` scores. -/
def recent (n : Nat) (scores : List α) : List α := scores.drop (scores.length - n)

/-- The change from the first to the last of some scores. -/
def change (scores : List α) : α :=
  match scores.head?, scores.getLast? with
  | some first, some last => last - first
  | _, _ => Scalar.zero

/-- The change over the last scores; zero if there are fewer than two. -/
def trend (scores : List α) : α :=
  if scores.length < 2 then Scalar.zero else change (recent trendWindow scores)

/-- Why the loop is stuck, if it is: there are enough scores, and over the last of them the score
changed by less than the threshold. -/
def stuck? (settings : LoopSettings α) (scores : List α) : Option StuckReason :=
  if scores.length < settings.stuckWindow then none
  else
    let improvement := change (recent settings.stuckWindow scores)
    if Scalar.abs improvement < settings.stuckThreshold then
      some (if improvement ≤ Scalar.zero then .noImprovement else .smallImprovement)
    else none

/-- Whether the last score reaches the threshold. -/
def hasConverged (settings : LoopSettings α) (scores : List α) : Bool :=
  scores.getLast?.any fun last => settings.threshold ≤ last

/-- The best score; zero if there is none. -/
def best (scores : List α) : α :=
  match scores with
  | [] => Scalar.zero
  | s :: rest => rest.foldl Scalar.larger s

/-- The number of further rounds that reach the threshold at the present trend: zero if the trend
is not upwards or the threshold is reached, and none if no integer is large enough. -/
def roundsLeft? (settings : LoopSettings α) (scores : List α) : Option Int :=
  match scores.getLast? with
  | none => some 0
  | some last =>
    let remaining := settings.threshold - last
    if Scalar.zero < trend scores && Scalar.zero < remaining then
      Scalar.ceiling? (remaining / trend scores)
    else some 0

/-- What the scores so far say, when the threshold is not reached. -/
structure Progress (α : Type) where
  trend : α
  stuckReason? : Option StuckReason
  roundsLeft : Int

/-- Measures the progress.  There is no measure at all where the estimate of the rounds left is
infinite. -/
def measure (settings : LoopSettings α) (scores : List α) : Except Failure (Progress α) :=
  match roundsLeft? settings scores with
  | none => .error .infiniteEstimate
  | some roundsLeft =>
    .ok { trend := trend scores, stuckReason? := stuck? settings scores, roundsLeft }

end Refine
end Concord
