import Concord.Refine.Outcome

/-!
# Concord.Refine.Loop

The refinement loop.  Every round compares the implementations with the reference and gives
instructions, upon which the implementations may change.  The loop ends when the score reaches the
threshold, when it is stuck, when the rounds are used up, or when it is cancelled, which is asked
before each round.

What the loop works on, and how it is compared, is left open: `σ` is the state of the world, and `κ`
is what comparisons keep for later ones.
-/

namespace Concord.Refine

/-- What happens around the loop. -/
structure Surroundings (σ : Type) where
  /-- Whether the loop is cancelled when it asks for the `n`-th time; `n` counts from one. -/
  isCancelled : Nat → Bool := fun _ => false
  /-- What the instructions of a round make of the world, if anything is done about them. -/
  regenerate? : Option (Instructions → Nat → σ → σ) := none

/-- A loop that goes on: the world, what comparisons have kept of what they read, the rounds so far,
the gaps and the instructions of the last of them, why the loop is stuck, the instructions handed
out so far with the numbers of their rounds, and the warnings so far. -/
structure Run (σ κ α : Type) where
  world : σ
  cache : κ
  rounds : List (Round α) := []
  gaps : List Gap := []
  lastInstructions? : Option Instructions := none
  stuckReason? : Option StuckReason := none
  handedOut : List (Instructions × Nat) := []
  warnings : List String := []

/-- How the implementations are compared with the reference. -/
structure Assessor (σ κ α : Type) where
  /-- A comparison in the present world, with the warnings on the way.  It may use what earlier
  comparisons have kept, and leaves what later ones may use. -/
  assess : σ → κ → Except Failure (Agreement α × List String × κ)
  /-- What is left of the cache when the implementations may change. -/
  clear : κ → κ

variable {σ κ α : Type} [Scalar α]

/-! ## Rounds -/

/-- The change of the score in a round behind all rounds so far; zero in the first round. -/
def improvementTo (rounds : List (Round α)) (score : α) : α :=
  match rounds.getLast? with
  | some previous => score - previous.score
  | none => Scalar.zero

/-- The instructions upon a comparison behind so many rounds. -/
def instructionsFor (strategy : Strategy) (rounds : Nat) (agreement : Agreement α) : Instructions :=
  instructions agreement.gaps (phaseOf strategy rounds agreement.gaps)

/-- The round behind some rounds in which a comparison was made. -/
def roundBehind (strategy : Strategy) (rounds : List (Round α)) (agreement : Agreement α) :
    Round α :=
  let made := instructionsFor strategy rounds.length agreement
  { number := rounds.length + 1
    score := agreement.overall
    phase := phaseOf strategy rounds.length agreement.gaps
    improvement := improvementTo rounds agreement.overall
    gapCount := agreement.gaps.length
    changeCount := made.count
    agreement? := some agreement
    instructions? := some made }

namespace Run

/-- The scores of the rounds so far. -/
def scores (r : Run σ κ α) : List α := r.rounds.map (·.score)

/-- Adds the round in which a comparison was made. -/
def record (strategy : Strategy) (agreement : Agreement α) (warnings : List String) (cache : κ)
    (r : Run σ κ α) : Run σ κ α :=
  { r with
    cache
    rounds := r.rounds ++ [roundBehind strategy r.rounds agreement]
    gaps := agreement.gaps
    lastInstructions? := some (instructionsFor strategy r.rounds.length agreement)
    warnings := r.warnings ++ warnings }

/-- Hands out the instructions of the last round, if anything is done about them. -/
def handOut (around : Surroundings σ) (made : Instructions) (r : Run σ κ α) : Run σ κ α :=
  match around.regenerate? with
  | some regenerate =>
    { r with
      world := regenerate made r.rounds.length r.world
      handedOut := r.handedOut ++ [(made, r.rounds.length)] }
  | none => r

/-- Goes on behind a round that does not end the loop: the cache is cleared, and the instructions
of the round are handed out if a further round may follow. -/
def goOn (maxRounds : Nat) (around : Surroundings σ) (clear : κ → κ) (made : Instructions)
    (r : Run σ κ α) : Run σ κ α :=
  let r := { r with cache := clear r.cache }
  if r.rounds.length < maxRounds then r.handOut around made else r

end Run

/-! ## Turns -/

/-- One turn of the loop, with the way in which the loop ends there, if it does.  Behind a
comparison the threshold comes first, then being stuck; the progress is measured in between, which
can fail. -/
def turn (settings : LoopSettings α) (around : Surroundings σ) (assessor : Assessor σ κ α)
    (r : Run σ κ α) : Except Failure (Option Ending × Run σ κ α) :=
  if around.isCancelled (r.rounds.length + 1) then .ok (some .cancelled, r)
  else do
    let (agreement, warnings, cache) ← assessor.assess r.world r.cache
    let made := instructionsFor settings.strategy r.rounds.length agreement
    let r := r.record settings.strategy agreement warnings cache
    if hasConverged settings r.scores then return (some .converged, { r with gaps := [] })
    else
      let progress ← measure settings r.scores
      match progress.stuckReason? with
      | some reason => return (some .stalled, { r with stuckReason? := some reason })
      | none => return (none, r.goOn settings.maxRounds around assessor.clear made)

/-- Runs the loop for at most so many further turns. -/
def runFor (settings : LoopSettings α) (around : Surroundings σ) (assessor : Assessor σ κ α) :
    Nat → Run σ κ α → Except Failure (Ending × Run σ κ α)
  | 0, r => .ok (.exhausted, r)
  | turns + 1, r => do
    match ← turn settings around assessor r with
    | (some ending, r) => return (ending, r)
    | (none, r) => runFor settings around assessor turns r

/-- The record of a loop that has ended. -/
def outcomeOf (projects : List (String × String)) (spec? : Option String) (ending : Ending)
    (r : Run σ κ α) : Outcome α :=
  let o : Outcome α :=
    { ending
      finalScore := (r.rounds.getLast?.map (·.score)).getD Scalar.zero
      bestScore := best r.scores
      roundsUsed := r.rounds.length
      rounds := r.rounds
      unresolved := r.gaps
      stuckReason := (r.stuckReason?.map (·.text)).getD ""
      projects := if r.rounds.isEmpty then [] else projects
      spec?
      lastInstructions? := r.lastInstructions? }
  { o with summary := summarize o }

end Concord.Refine
