import Concord.Proofs.Refine.Task

/-!
# Concord.Proofs.Refine.Bookkeeping

What the report of a refinement loop says of its rounds, whichever way the loop ended:

* rounds are numbered from one, and each tells the change of the score since the one before it;
* the best score is the highest (`best_isGreatest`), and the final one is the last;
* the gaps of the last round are unresolved, unless the loop has converged;
* the instructions handed out are those of all rounds but the last, and of the last as well if the
  loop was cancelled behind it;
* each round compares what the instructions handed out before it have made of the world.

`run_isBookkept` states this of every run that returns.
-/

namespace Concord.Refine

/-- What the report of a loop says of its rounds. -/
structure IsBookkept (settings : Settings Float) (around : Surroundings Folder) (f : Folder)
    (task : Task) (report : Report Float) : Prop where
  number : ∀ i round, report.outcome.rounds[i]? = some round → round.number = i + 1
  firstImprovement : ∀ round, report.outcome.rounds[0]? = some round →
    round.improvement = Scalar.zero
  improvement : ∀ i previous round, report.outcome.rounds[i]? = some previous →
    report.outcome.rounds[i + 1]? = some round → round.improvement = round.score - previous.score
  contents : ∀ round ∈ report.outcome.rounds, ∃ agreement made,
    round.agreement? = some agreement ∧ round.instructions? = some made ∧
      round.score = agreement.overall ∧ round.gapCount = agreement.gaps.length
  roundsUsed : report.outcome.roundsUsed = report.outcome.rounds.length
  finalScore : report.outcome.finalScore =
    (report.outcome.rounds.getLast?.map (·.score)).getD Scalar.zero
  bestOfNone : report.outcome.rounds = [] → report.outcome.bestScore = Scalar.zero
  bestScore : report.outcome.rounds ≠ [] →
    (∃ round ∈ report.outcome.rounds, round.score = report.outcome.bestScore) ∧
      ∀ round ∈ report.outcome.rounds, round.score ≤ report.outcome.bestScore
  unresolved : report.outcome.unresolved =
    if report.outcome.ending = .converged then [] else lastGaps report.outcome.rounds
  lastInstructions : report.outcome.lastInstructions? =
    report.outcome.rounds.getLast?.bind (·.instructions?)
  handedOut : around.regenerate?.isSome = true → report.handedOut.map some =
    (report.outcome.rounds.take (if report.outcome.ending = .cancelled
      then report.outcome.rounds.length else report.outcome.rounds.length - 1)).map call?
  untouched : around.regenerate? = none → report.handedOut = []
  compared : ∃ languages reference warnings,
    IsSetUp settings f task languages reference warnings ∧
      ∀ i round, report.outcome.rounds[i]? = some round → ∃ agreement,
        round.agreement? = some agreement ∧ IsComparison settings task languages reference
          (worldAfter around f (report.handedOut.take i)) agreement

/-! ## The best score -/

/-- The largest of scores is one of them, and none is larger. -/
theorem foldl_larger (scores : List Float) (first : Float)
    (numbers : ∀ s ∈ first :: scores, Scalar.IsNumber s) :
    scores.foldl Scalar.larger first ∈ first :: scores ∧
      ∀ s ∈ first :: scores, s ≤ scores.foldl Scalar.larger first := by
  induction scores generalizing first with
  | nil =>
      refine ⟨List.mem_singleton_self first, fun s hs => ?_⟩
      obtain rfl := List.mem_singleton.1 hs
      exact numbers s hs
  | cons second rest ih =>
      have hfirst := numbers first List.mem_cons_self
      have hsecond := numbers second (List.mem_cons_of_mem first List.mem_cons_self)
      have hrest : ∀ s ∈ rest, Scalar.IsNumber s := fun s hs =>
        numbers s (List.mem_cons_of_mem first (List.mem_cons_of_mem second hs))
      rw [List.foldl_cons]
      by_cases hlt : first < second
      · rw [show Scalar.larger first second = second from if_pos hlt]
        obtain ⟨hmem, hle⟩ := ih second (List.forall_mem_cons.2 ⟨hsecond, hrest⟩)
        refine ⟨List.mem_cons_of_mem first hmem, List.forall_mem_cons.2 ⟨?_, hle⟩⟩
        exact Number.float_le_trans (Number.float_le_of_lt hlt) (hle second List.mem_cons_self)
      · rw [show Scalar.larger first second = first from if_neg hlt]
        have hge : second ≤ first := by
          rcases Number.float_le_or_lt hsecond hfirst with hle | habove
          · exact hle
          · exact absurd habove hlt
        obtain ⟨hmem, hle⟩ := ih first (List.forall_mem_cons.2 ⟨hfirst, hrest⟩)
        obtain ⟨hself, hothers⟩ := List.forall_mem_cons.1 hle
        refine ⟨?_, ?_⟩
        · rcases List.mem_cons.1 hmem with heq | hin
          · rw [heq]
            exact List.mem_cons_self
          · exact List.mem_cons_of_mem first (List.mem_cons_of_mem second hin)
        · exact List.forall_mem_cons.2 ⟨hself, List.forall_mem_cons.2
            ⟨Number.float_le_trans hge hself, hothers⟩⟩

/-- **The best of some scores is one of them, and none is higher.** -/
theorem best_isGreatest {scores : List Float} (numbers : ∀ s ∈ scores, Scalar.IsNumber s)
    (some_score : scores ≠ []) :
    best scores ∈ scores ∧ ∀ s ∈ scores, s ≤ best scores := by
  cases scores with
  | nil => contradiction
  | cons first rest => exact foldl_larger rest first numbers

/-! ## Reports -/

section Reports

variable {settings : Settings Float} {around : Surroundings Folder} {f : Folder} {task : Task}
  {languages : List Language} {reference : Outline}

/-- The change of the score in a round is told from the round before it. -/
theorem improvementTo_take {rounds : List (Round Float)} {i : Nat} {previous : Round Float}
    (h : rounds[i]? = some previous) (score : Float) :
    improvementTo (rounds.take (i + 1)) score = score - previous.score := by
  unfold improvementTo
  rw [List.getLast?_take, if_neg (Nat.succ_ne_zero i), Nat.add_sub_cancel, h, Option.some_or]

/-- An ended run is kept in the books, whatever ended it. -/
theorem EndsBy.isBookkept {ending : Ending} {r : Run Folder Cache Float}
    (h : EndsBy settings.loop around f (IsComparison settings task languages reference) ending r)
    {warnings : List String} (setUp : IsSetUp settings f task languages reference warnings)
    (projects : List (String × String)) (spec? : Option String) :
    IsBookkept settings around f task ⟨outcomeOf projects spec? ending r, r.handedOut, r.warnings⟩ := by
  -- The ending changes gaps and reason only; all else is told by the record `r₀` in front of it.
  obtain ⟨r₀, kept, hrounds, hhanded, hlast, hgaps⟩ := h.kept
  have numbers : ∀ s ∈ r.scores, Scalar.IsNumber s := by
    intro s hs
    rw [Run.scores, hrounds] at hs
    exact kept.isNumber_scores s hs
  have history : ∀ i round, r.rounds[i]? = some round → ∃ agreement,
      round = roundBehind settings.loop.strategy (r.rounds.take i) agreement := by
    intro i round hi
    rw [hrounds] at hi ⊢
    obtain ⟨agreement, -, heq⟩ := kept.history i round hi
    exact ⟨agreement, heq⟩
  refine
    { number := ?_, firstImprovement := ?_, improvement := ?_, contents := ?_, roundsUsed := rfl
      finalScore := rfl, bestOfNone := ?_, bestScore := ?_, unresolved := ?_
      lastInstructions := ?_, handedOut := ?_, untouched := ?_
      compared := ⟨languages, reference, warnings, setUp, h.comparisons⟩ }
  · intro i round hi
    obtain ⟨agreement, rfl⟩ := history i round hi
    have hlt : i < r.rounds.length := (List.getElem?_eq_some_iff.1 hi).1
    change (r.rounds.take i).length + 1 = i + 1
    rw [List.length_take, Nat.min_eq_left hlt.le]
  · intro round hi
    obtain ⟨agreement, rfl⟩ := history 0 round hi
    rfl
  · intro i previous round hprevious hi
    obtain ⟨agreement, rfl⟩ := history (i + 1) round hi
    exact improvementTo_take hprevious _
  · intro round hround
    obtain ⟨i, hi, rfl⟩ := List.mem_iff_getElem.1 hround
    obtain ⟨agreement, heq⟩ := history i _ (List.getElem?_eq_getElem hi)
    rw [heq]
    exact ⟨agreement, _, rfl, rfl, rfl, rfl⟩
  · intro hnil
    change best (r.rounds.map (·.score)) = Scalar.zero
    rw [show r.rounds = [] from hnil]
    rfl
  · intro hne
    have hscores : r.scores ≠ [] := fun hnil => hne (List.map_eq_nil_iff.1 hnil)
    obtain ⟨hmem, hle⟩ := best_isGreatest numbers hscores
    exact ⟨List.mem_map.1 hmem, fun round hround => hle _ (List.mem_map_of_mem hround)⟩
  · change r.gaps = if ending = .converged then [] else lastGaps r.rounds
    rw [hgaps, kept.gaps, hrounds]
  · change r.lastInstructions? = r.rounds.getLast?.bind (·.instructions?)
    rw [hlast, kept.lastInstructions, hrounds]
  · intro given
    change r.handedOut.map some = (r.rounds.take (if ending = .cancelled then r.rounds.length
      else r.rounds.length - 1)).map call?
    rw [hhanded, kept.handedOut given, hrounds]
  · intro none_given
    change r.handedOut = []
    rw [hhanded, kept.untouched none_given]

end Reports

/-- **The report of every run that returns keeps the books of its rounds.** -/
theorem run_isBookkept (settings : Settings Float) (around : Surroundings Folder) (f : Folder)
    (task : Task) (report : Report Float) (h : run settings around f task = .ok report) :
    IsBookkept settings around f task report := by
  obtain ⟨languages, reference, warnings, ending, r, setUp, ended, rfl⟩ := run_ok h
  exact ended.isBookkept setUp _ _

/-- Where the implementation is made a copy of the reference, instructions are handed out once, and
behind the second round no gap is left. -/
theorem run_isBookkept_copying : ∃ report,
    run Settings.usual { regenerate? := some copying } referenceAlone smallTask = .ok report ∧
      report.handedOut.length = 1 ∧ report.outcome.rounds.length = 2 ∧
      report.outcome.unresolved = [] ∧
      IsBookkept Settings.usual { regenerate? := some copying } referenceAlone smallTask report := by
  have evaluated : ((run Settings.usual { regenerate? := some copying } referenceAlone
      smallTask).toOption.map fun report =>
        (report.handedOut.length, report.outcome.rounds.length, report.outcome.ending)) =
      some (1, 2, .converged) := by decide +kernel
  obtain ⟨report, h, told⟩ := ok_of_toOption_map evaluated
  obtain ⟨handed, rounds, converged⟩ : _ ∧ _ ∧ _ := by simpa using told
  have kept := run_isBookkept Settings.usual _ referenceAlone smallTask report h
  refine ⟨report, h, handed, rounds, ?_, kept⟩
  rw [kept.unresolved, if_pos converged]

end Concord.Refine
