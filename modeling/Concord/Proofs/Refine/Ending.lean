import Concord.Proofs.Refine.Task
import Concord.Proofs.Settings.Bounds

/-!
# Concord.Proofs.Refine.Ending

How a refinement loop ends is told by its scores, by the number of its rounds, and by whether it was
cancelled:

* it has converged if the last score reaches the threshold;
* it has stalled if the last score does not, and the loop is stuck;
* otherwise it was cancelled if rounds were left, and is exhausted if not.

No round but the last reaches the threshold or leaves the loop stuck.  But a loop whose scores rise
by next to nothing may not end at all: the estimate of the rounds left, which nothing depends on, is
infinite then and makes the run fail.  `run_endsLawfully` says both.
-/

namespace Concord

theorem StuckReason.text_ne_empty (reason : StuckReason) : reason.text ≠ "" := by
  cases reason <;> decide

namespace Refine

/-- Whether the loop is stuck: from the first to the last of the latest scores, as many as the
window holds, the score changed by less than the threshold. -/
def IsStuck (settings : LoopSettings Float) (scores : List Float) : Prop :=
  settings.stuckWindow ≤ scores.length ∧ ∃ first last,
    scores[scores.length - settings.stuckWindow]? = some first ∧ scores.getLast? = some last ∧
      Scalar.abs (last - first) < settings.stuckThreshold

/-- Whether the last score reaches the threshold. -/
def Reaches (settings : LoopSettings Float) (scores : List Float) : Prop :=
  ∃ last, scores.getLast? = some last ∧ settings.threshold ≤ last

/-- Whether the last score is below the threshold and the loop is stuck. -/
def Stalls (settings : LoopSettings Float) (scores : List Float) : Prop :=
  (∃ last, scores.getLast? = some last ∧ last < settings.threshold) ∧ IsStuck settings scores

/-- Whether the estimate of the rounds left is infinite: the distance from the last score to the
threshold, divided by the rise over the last three scores, or over both if there are but two. -/
def HasInfiniteEstimate (settings : LoopSettings Float) (scores : List Float) : Prop :=
  2 ≤ scores.length ∧ ∃ first last,
    scores[scores.length - 3]? = some first ∧ scores.getLast? = some last ∧
      Scalar.zero < last - first ∧ Scalar.zero < settings.threshold - last ∧
      Number.Binary.ofFloat? ((settings.threshold - last) / (last - first)) = none

/-- The scores of an outcome. -/
def scoresOf (o : Outcome Float) : List Float := o.rounds.map (·.score)

/-- How a loop ends, told by its scores, their number and the cancellation. -/
structure EndsLawfully {σ : Type} (settings : LoopSettings Float) (around : Surroundings σ)
    (o : Outcome Float) : Prop where
  bounded : o.rounds.length ≤ settings.maxRounds
  below : ∀ i s, i + 1 < o.rounds.length → (scoresOf o)[i]? = some s → s < settings.threshold
  moving : ∀ i, 0 < i → i < o.rounds.length → ¬ IsStuck settings ((scoresOf o).take i)
  estimated : ∀ i, 0 < i → i ≤ o.rounds.length → ¬ Reaches settings ((scoresOf o).take i) →
    ¬ HasInfiniteEstimate settings ((scoresOf o).take i)
  converged : o.ending = .converged ↔ Reaches settings (scoresOf o)
  stalled : o.ending = .stalled ↔ Stalls settings (scoresOf o)
  cancelled : o.ending = .cancelled ↔
    ¬ Reaches settings (scoresOf o) ∧ ¬ Stalls settings (scoresOf o) ∧
      o.rounds.length < settings.maxRounds ∧ around.isCancelled (o.rounds.length + 1) = true
  exhausted : o.ending = .exhausted ↔
    ¬ Reaches settings (scoresOf o) ∧ ¬ Stalls settings (scoresOf o) ∧
      o.rounds.length = settings.maxRounds
  stuckReason : o.stuckReason ≠ "" ↔ o.ending = .stalled

/-- How a loop fails behind its last round, told by its scores: the estimate of the rounds left is
infinite there, for the first time. -/
structure FailsLawfully (settings : LoopSettings Float) (scores : List Float) : Prop where
  bounded : scores.length ≤ settings.maxRounds
  below : ∀ s ∈ scores, s < settings.threshold
  moving : ∀ i, 0 < i → i < scores.length → ¬ IsStuck settings (scores.take i)
  estimated : ∀ i, 0 < i → i < scores.length → ¬ HasInfiniteEstimate settings (scores.take i)
  infinite : HasInfiniteEstimate settings scores

/-! ## Scores -/

/-- A run has converged exactly if its scores reach the threshold. -/
theorem hasConverged_iff (settings : LoopSettings Float) (scores : List Float) :
    hasConverged settings scores = true ↔ Reaches settings scores := by
  unfold hasConverged Reaches
  cases scores.getLast? with
  | none => simp
  | some last => simp

/-- The change over the last scores is that from the first of them to the last. -/
theorem change_recent {n : Nat} {scores : List Float} {first last : Float}
    (hfirst : scores[scores.length - n]? = some first) (hlast : scores.getLast? = some last) :
    change (recent n scores) = last - first := by
  have hlt : scores.length - n < scores.length := (List.getElem?_eq_some_iff.1 hfirst).1
  unfold change recent
  rw [List.head?_drop, List.getLast?_drop, if_neg (by omega), hfirst, hlast]

/-- Of scores that are not empty there are a last one and a first one of the last few. -/
theorem exists_first_last (n : Nat) (scores : List Float) (positive : 0 < scores.length)
    (hn : 0 < n) : ∃ first last, scores[scores.length - n]? = some first ∧
      scores.getLast? = some last := by
  have hlast : ∃ last, scores.getLast? = some last := by
    cases h : scores.getLast? with
    | none => rw [List.getLast?_eq_none_iff] at h; subst h; simp at positive
    | some last => exact ⟨last, rfl⟩
  obtain ⟨last, hlast⟩ := hlast
  exact ⟨_, last, List.getElem?_eq_getElem (by omega), hlast⟩

/-- There is no reason to be stuck exactly if the scores are not stuck. -/
theorem stuck?_eq_none_iff {settings : LoopSettings Float} (window : 1 ≤ settings.stuckWindow)
    (scores : List Float) : stuck? settings scores = none ↔ ¬ IsStuck settings scores := by
  unfold stuck? IsStuck
  by_cases few : scores.length < settings.stuckWindow
  · rw [if_pos few]
    exact iff_of_true rfl fun h => absurd h.1 (by omega)
  · rw [if_neg few]
    obtain ⟨first, last, hfirst, hlast⟩ :=
      exists_first_last settings.stuckWindow scores (by omega) window
    dsimp only
    rw [change_recent hfirst hlast, hfirst, hlast]
    by_cases small : Scalar.abs (last - first) < settings.stuckThreshold
    · rw [if_pos small]
      refine iff_of_false (Option.some_ne_none _) fun h => h ⟨by omega, _, _, rfl, rfl, small⟩
    · rw [if_neg small]
      refine iff_of_true rfl ?_
      rintro ⟨-, first', last', hf, hl, hsmall⟩
      obtain rfl := Option.some.inj hf
      obtain rfl := Option.some.inj hl
      exact small hsmall

/-- The rounds left cannot be counted exactly if their estimate is infinite. -/
theorem roundsLeft?_eq_none_iff (settings : LoopSettings Float) (scores : List Float) :
    roundsLeft? settings scores = none ↔ HasInfiniteEstimate settings scores := by
  unfold roundsLeft? HasInfiniteEstimate
  by_cases few : scores.length < 2
  -- With fewer than two scores there is no trend, and the estimate is zero.
  · refine iff_of_false ?_ fun h => absurd h.1 (by omega)
    have flat : trend scores = Scalar.zero := by rw [trend, if_pos few]
    cases scores.getLast? with
    | none => nofun
    | some last =>
        dsimp only
        rw [flat, if_neg (by simp [show ¬ (Scalar.zero : Float) < Scalar.zero by decide])]
        nofun
  · obtain ⟨first, last, hfirst, hlast⟩ :=
      exists_first_last trendWindow scores (by omega) (by decide)
    have rise : trend scores = last - first := by
      rw [trend, if_neg few, change_recent hfirst hlast]
    rw [hlast]
    dsimp only
    rw [rise]
    constructor
    · intro h
      split at h
      · next upwards =>
        obtain ⟨rising, short⟩ := Bool.and_eq_true_iff.1 upwards
        refine ⟨by omega, first, last, hfirst, rfl, of_decide_eq_true rising,
          of_decide_eq_true short, ?_⟩
        exact Option.map_eq_none_iff.1 h
      · contradiction
    · rintro ⟨-, first', last', hf, hl, rising, short, infinite⟩
      obtain rfl := Option.some.inj (hfirst.symm.trans hf)
      obtain rfl := Option.some.inj hl
      rw [if_pos (by simp [rising, short])]
      exact Option.map_eq_none_iff.2 infinite

/-- The progress has no measure exactly if the estimate of the rounds left is infinite. -/
theorem measure_eq_error_iff {settings : LoopSettings Float} {scores : List Float}
    {failure : Failure} : measure settings scores = .error failure ↔
      failure = .infiniteEstimate ∧ HasInfiniteEstimate settings scores := by
  unfold measure
  rw [← roundsLeft?_eq_none_iff]
  cases roundsLeft? settings scores with
  | none => simp [eq_comm]
  | some n => simp

/-- If it has one, the estimate is finite, and the measure tells whether the loop is stuck. -/
theorem measure_eq_ok {settings : LoopSettings Float} {scores : List Float}
    {progress : Progress Float} (h : measure settings scores = .ok progress) :
    ¬ HasInfiniteEstimate settings scores ∧ progress.stuckReason? = stuck? settings scores := by
  unfold measure at h
  rw [← roundsLeft?_eq_none_iff]
  cases left : roundsLeft? settings scores with
  | none => rw [left] at h; contradiction
  | some n =>
      rw [left] at h
      obtain rfl := Except.ok.inj h
      exact ⟨nofun, rfl⟩

section Scores

variable {settings : LoopSettings Float} {scores : List Float}

/-- Between numbers, not to reach the threshold is to be below it. -/
theorem lt_threshold (valid : settings.IsValid) {s : Float} (number : Scalar.IsNumber s)
    (h : ¬ settings.threshold ≤ s) : s < settings.threshold :=
  (Number.float_lt_iff number (Number.isNumber_of_le valid.threshold.1).2).2 h

/-- The last score is below the threshold if the loop has not converged. -/
theorem last_lt_threshold (valid : settings.IsValid) (numbers : ∀ s ∈ scores, Scalar.IsNumber s)
    (short : hasConverged settings scores = false) {last : Float}
    (hlast : scores.getLast? = some last) : last < settings.threshold := by
  refine lt_threshold valid (numbers last (List.mem_of_getLast? hlast)) fun reaches => ?_
  rw [(hasConverged_iff settings scores).2 ⟨last, hlast, reaches⟩] at short
  contradiction

/-- Behind all its scores the loop went on: it has not converged, is not stuck, and the estimate of
the rounds left is finite. -/
structure WentOn (settings : LoopSettings Float) (scores : List Float) : Prop where
  short : ¬ Reaches settings scores
  moving : ¬ IsStuck settings scores
  estimated : ¬ HasInfiniteEstimate settings scores

/-- So a loop that is open up to some round went on behind the scores up to there. -/
theorem OpenUpTo.wentOn (valid : settings.IsValid) {n i : Nat} (h : OpenUpTo settings scores n)
    (hpos : 0 < i) (hi : i ≤ n) : WentOn settings (scores.take i) := by
  obtain ⟨short, progress, measured, moving⟩ := h i hpos hi
  obtain ⟨estimated, told⟩ := measure_eq_ok measured
  have window : 1 ≤ settings.stuckWindow := Nat.le_of_succ_le valid.stuckWindow
  refine ⟨fun reaches => ?_, (stuck?_eq_none_iff window _).1 (told ▸ moving), estimated⟩
  rw [(hasConverged_iff settings _).2 reaches] at short
  contradiction

/-- What is said of a score at which the loop went on. -/
theorem OpenUpTo.below (valid : settings.IsValid) (numbers : ∀ s ∈ scores, Scalar.IsNumber s)
    {n i : Nat} (h : OpenUpTo settings scores n) (hi : i + 1 ≤ n) {s : Float}
    (hs : scores[i]? = some s) : s < settings.threshold := by
  have last : (scores.take (i + 1)).getLast? = some s := by
    rw [List.getLast?_take, if_neg (Nat.succ_ne_zero i), Nat.add_sub_cancel, hs, Option.some_or]
  refine last_lt_threshold valid (fun t ht => numbers t (List.mem_of_mem_take ht))
    (h (i + 1) (Nat.succ_pos i) hi).1 last

/-- A loop without scores has not converged and is not stuck. -/
theorem wentOn_nil (valid : settings.IsValid) : WentOn settings [] where
  short := by rintro ⟨last, hlast, -⟩; contradiction
  moving h := absurd (Nat.le_trans valid.stuckWindow h.1) (by decide)
  estimated h := absurd h.1 (by decide)

/-- A loop that is open up to its last round went on behind all its scores. -/
theorem OpenUpTo.behindAll (valid : settings.IsValid)
    (h : OpenUpTo settings scores scores.length) : WentOn settings scores := by
  rcases Nat.eq_zero_or_pos scores.length with none | positive
  · rw [List.eq_nil_of_length_eq_zero none]
    exact wentOn_nil valid
  · have wentOn := h.wentOn valid positive le_rfl
    rwa [List.take_length] at wentOn

/-- Then it has not stalled. -/
theorem WentOn.not_stalls (h : WentOn settings scores) : ¬ Stalls settings scores :=
  fun stalls => h.moving stalls.2

/-- A score that reaches the threshold is not below it. -/
theorem not_stalls_of_reaches (numbers : ∀ s ∈ scores, Scalar.IsNumber s)
    (h : Reaches settings scores) : ¬ Stalls settings scores := by
  obtain ⟨last, hlast, reaches⟩ := h
  rintro ⟨⟨last', hlast', below⟩, -⟩
  rw [hlast] at hlast'
  obtain rfl := Option.some.inj hlast'
  have number := numbers last (List.mem_of_getLast? hlast)
  exact (Number.float_lt_iff number (Number.isNumber_of_le reaches).1).1 below reaches

end Scores

/-! ## Loops -/

section Loops

variable {settings : Settings Float} {around : Surroundings Folder} {f : Folder} {task : Task}
  {languages : List Language} {reference : Outline}

/-- What is said of the rounds before the last, of which there are `n`. -/
structure BeforeLast (settings : LoopSettings Float) (scores : List Float) (n : Nat) : Prop where
  below : ∀ i s, i + 1 < n → scores[i]? = some s → s < settings.threshold
  moving : ∀ i, 0 < i → i < n → ¬ IsStuck settings (scores.take i)
  estimated : ∀ i, 0 < i → i < n → ¬ HasInfiniteEstimate settings (scores.take i)

/-- A record that is kept tells of the rounds before the last, as the loop went on behind each of
them. -/
theorem Kept.beforeLast (valid : settings.loop.IsValid) {handed : Nat} {r : Run Folder Cache Float}
    (h : Kept settings.loop around f (IsComparison settings task languages reference) handed r)
    (wentOn : OpenUpTo settings.loop r.scores (r.rounds.length - 1)) :
    BeforeLast settings.loop r.scores r.rounds.length where
  below _ _ hi hs := wentOn.below valid h.isNumber_scores (by omega) hs
  moving i hpos hi := (wentOn.wentOn valid hpos (by omega)).moving
  estimated i hpos hi := (wentOn.wentOn valid hpos (by omega)).estimated

/-- The estimate is finite behind every round at which the threshold is not reached, if it is so
behind the last. -/
theorem BeforeLast.estimated_all {r : Run Folder Cache Float}
    (before : BeforeLast settings.loop r.scores r.rounds.length)
    (atLast : ¬ Reaches settings.loop r.scores → ¬ HasInfiniteEstimate settings.loop r.scores) :
    ∀ i, 0 < i → i ≤ r.rounds.length → ¬ Reaches settings.loop (r.scores.take i) →
      ¬ HasInfiniteEstimate settings.loop (r.scores.take i) := by
  intro i hpos hi short
  rcases Nat.lt_or_eq_of_le hi with hlt | rfl
  · exact before.estimated i hpos hlt
  · have whole : r.scores.take r.rounds.length = r.scores :=
      List.take_of_length_le (List.length_map _).le
    rw [whole] at short ⊢
    exact atLast short

/-- A loop that went on behind all its rounds has neither converged nor stalled. -/
theorem OpenUpTo.behindRounds (valid : settings.loop.IsValid) {r : Run Folder Cache Float}
    (wentOn : OpenUpTo settings.loop r.scores r.rounds.length) : WentOn settings.loop r.scores :=
  OpenUpTo.behindAll valid (by rw [Run.scores, List.length_map]; exact wentOn)

/-- **However a loop ends, its scores tell how.** -/
theorem EndsBy.endsLawfully (valid : settings.loop.IsValid) {ending : Ending}
    {r : Run Folder Cache Float}
    (h : EndsBy settings.loop around f (IsComparison settings task languages reference) ending r)
    (projects : List (String × String)) (spec? : Option String) :
    EndsLawfully settings.loop around (outcomeOf projects spec? ending r) := by
  cases h with
  | exhausted length kept wentOn =>
      have before := kept.beforeLast valid fun i hpos hi => wentOn i hpos (by omega)
      have behind := wentOn.behindRounds valid
      exact
        { bounded := length.le
          below := before.below
          moving := before.moving
          estimated := before.estimated_all fun _ => behind.estimated
          converged := iff_of_false nofun behind.short
          stalled := iff_of_false nofun behind.not_stalls
          cancelled := iff_of_false nofun fun h => absurd h.2.2.1 length.not_lt
          exhausted := iff_of_true rfl ⟨behind.short, behind.not_stalls, length⟩
          stuckReason := iff_of_false (by simp [outcomeOf, kept.unstuck]) nofun }
  | cancelled room asked kept wentOn =>
      have before := kept.beforeLast valid fun i hpos hi => wentOn i hpos (by omega)
      have behind := wentOn.behindRounds valid
      exact
        { bounded := room.le
          below := before.below
          moving := before.moving
          estimated := before.estimated_all fun _ => behind.estimated
          converged := iff_of_false nofun behind.short
          stalled := iff_of_false nofun behind.not_stalls
          cancelled := iff_of_true rfl ⟨behind.short, behind.not_stalls, room, asked⟩
          exhausted := iff_of_false nofun fun h => absurd h.2.2 room.ne
          stuckReason := iff_of_false (by simp [outcomeOf, kept.unstuck]) nofun }
  | @converged r positive bounded kept wentOn reached =>
      have before := kept.beforeLast valid wentOn
      have reaches := (hasConverged_iff settings.loop r.scores).1 reached
      have unstuck : ¬ Stalls settings.loop r.scores :=
        not_stalls_of_reaches kept.isNumber_scores reaches
      exact
        { bounded
          below := before.below
          moving := before.moving
          estimated := before.estimated_all fun short => absurd reaches short
          converged := iff_of_true rfl reaches
          stalled := iff_of_false nofun unstuck
          cancelled := iff_of_false nofun fun h => h.1 reaches
          exhausted := iff_of_false nofun fun h => h.1 reaches
          stuckReason := iff_of_false (by simp [outcomeOf, kept.unstuck]) nofun }
  | @stalled r progress reason positive bounded kept wentOn short measured stuck =>
      have before := kept.beforeLast valid wentOn
      obtain ⟨estimated, told⟩ := measure_eq_ok measured
      have notReached : ¬ Reaches settings.loop r.scores := fun reaches => by
        rw [(hasConverged_iff settings.loop r.scores).2 reaches] at short
        contradiction
      have stuckThere : IsStuck settings.loop r.scores := by
        by_contra hne
        rw [told, (stuck?_eq_none_iff (Nat.le_of_succ_le valid.stuckWindow) r.scores).2 hne] at stuck
        contradiction
      have stalls : Stalls settings.loop r.scores := by
        have ⟨_, first, last, _, hlast, _⟩ := stuckThere
        exact ⟨⟨last, hlast, last_lt_threshold valid kept.isNumber_scores short hlast⟩, stuckThere⟩
      exact
        { bounded
          below := before.below
          moving := before.moving
          estimated := before.estimated_all fun _ => estimated
          converged := iff_of_false nofun notReached
          stalled := iff_of_true rfl stalls
          cancelled := iff_of_false nofun fun h => h.2.1 stalls
          exhausted := iff_of_false nofun fun h => h.2.1 stalls
          stuckReason := iff_of_true (by simpa [outcomeOf] using reason.text_ne_empty) rfl }

/-- **And if a loop fails behind a round, its scores tell why.** -/
theorem FailsBehind.failsLawfully (valid : settings.loop.IsValid) {failure : Failure}
    {r : Run Folder Cache Float} (h : FailsBehind settings.loop around f
      (IsComparison settings task languages reference) failure r) :
    failure = .infiniteEstimate ∧ FailsLawfully settings.loop r.scores := by
  have before := h.kept.beforeLast valid h.wentOn
  have length : r.scores.length = r.rounds.length := List.length_map _
  obtain ⟨rfl, infinite⟩ := measure_eq_error_iff.1 h.unmeasured
  refine ⟨rfl, ⟨length ▸ h.bounded, fun s hs => ?_, length ▸ before.moving,
    length ▸ before.estimated, infinite⟩⟩
  obtain ⟨i, hi, rfl⟩ := List.mem_iff_getElem.1 hs
  have here := List.getElem?_eq_getElem hi
  rcases Nat.lt_or_ge (i + 1) r.rounds.length with hlt | hge
  · exact before.below i _ hlt here
  · refine last_lt_threshold valid h.kept.isNumber_scores h.short ?_
    rw [List.getLast?_eq_getElem?, show r.scores.length - 1 = i by omega, here]

/-- **A run with valid settings that returns ends as its scores tell.**  It fails only in setting
itself up, on a file that is no text, or behind rounds that a returning run could have had as well,
where the estimate of the rounds left is infinite. -/
theorem run_endsLawfully (settings : Settings Float) (valid : settings.loop.IsValid)
    (around : Surroundings Folder) (f : Folder) (task : Task) :
    (∀ report, run settings around f task = .ok report →
      EndsLawfully settings.loop around report.outcome) ∧
    ∀ failure, run settings around f task = .error failure →
      (¬ ∃ languages reference warnings, IsSetUp settings f task languages reference warnings) ∨
      failure = .malformedText ∨
      ∃ languages reference warnings, ∃ r : Run Folder Cache Float,
        IsSetUp settings f task languages reference warnings ∧ failure = .infiniteEstimate ∧
        Kept settings.loop around f (IsComparison settings task languages reference)
          (r.rounds.length - 1) r ∧
        FailsLawfully settings.loop r.scores := by
  constructor
  · intro report h
    obtain ⟨languages, reference, warnings, ending, r, -, ended, rfl⟩ := run_ok h
    exact ended.endsLawfully valid _ _
  · intro failure h
    rcases run_error h with unset | malformed | ⟨languages, reference, warnings, setUp, r, behind⟩
    · exact .inl unset
    · exact .inr (.inl malformed)
    · obtain ⟨infinite, fails⟩ := behind.failsLawfully valid
      exact .inr (.inr ⟨languages, reference, warnings, r, setUp, infinite, behind.kept, fails⟩)

/-- Where nothing is done about the instructions, the score stays where it is and the loop stalls. -/
theorem run_endsLawfully_untouched : ∃ report,
    run Settings.usual {} referenceAlone smallTask = .ok report ∧
      report.outcome.ending = .stalled ∧ Stalls Settings.usual.loop (scoresOf report.outcome) := by
  have evaluated : ((run Settings.usual {} referenceAlone smallTask).toOption.map
      (·.outcome.ending)) = some .stalled := by decide +kernel
  obtain ⟨report, h, stalled⟩ := ok_of_toOption_map evaluated
  have checked : Settings.checkLoop .lax [] = .valid Settings.usual.loop := rfl
  have valid := Settings.checkLoop_isValid checked
  have law := (run_endsLawfully Settings.usual valid {} referenceAlone smallTask).1 report h
  exact ⟨report, h, stalled, law.stalled.1 stalled⟩

/-- A document that gives types the smallest positive weight, and all else none. -/
def faintDocument : List (String × Document.Value) :=
  [("comparison", .table [("weights", .table [("structural", .int 0),
      ("type", .float (Float.ofBits 1)), ("behavioral", .int 0), ("test", .int 0),
      ("idiomatic", .int 0)])]),
   ("loop", .table [("max_iterations", .int 2)])]

/-- The settings in this document. -/
def faintSettings : Settings Float :=
  { Settings.usual with
    comparison := { Settings.usualComparison with
      weights := ⟨Scalar.zero, Float.ofBits 1, Scalar.zero, Scalar.zero, Scalar.zero⟩ }
    loop := { Settings.usual.loop with maxRounds := 2 } }

/-- A run need not end at all: the second of two rounds, behind which the loop should be exhausted,
makes it fail instead, since the score has risen by the smallest positive number. -/
theorem run_fails_of_faintRise :
    Settings.check .lax faintDocument = .valid faintSettings ∧ faintSettings.loop.IsValid ∧
    (∃ languages reference warnings,
      IsSetUp faintSettings referenceAlone smallTask languages reference warnings) ∧
    run faintSettings { regenerate? := some copying } referenceAlone smallTask =
      .error .infiniteEstimate := by
  have fails : (match run faintSettings { regenerate? := some copying } referenceAlone smallTask with
      | .ok _ => none
      | .error failure => some failure) = some .infiniteEstimate := by decide +kernel
  refine ⟨rfl, ⟨by decide +kernel, by decide, by decide +kernel, by decide⟩, ?_, ?_⟩
  · have evaluated : ((referenceAlone.analyze (readOptions faintSettings) smallTask.source
        (some "go") none).toOption.map fun _ => ()) = some () := by decide +kernel
    obtain ⟨⟨reference, warnings⟩, h, -⟩ := ok_of_toOption_map evaluated
    exact ⟨[.go], reference, warnings, by decide +kernel, .go, by decide +kernel, h⟩
  · generalize run faintSettings { regenerate? := some copying } referenceAlone smallTask = result
      at fails
    cases result with
    | ok report => contradiction
    | error failure => rw [Option.some.inj fails]

end Loops

end Refine
end Concord
