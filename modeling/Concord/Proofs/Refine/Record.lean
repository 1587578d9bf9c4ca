import Concord.Proofs.Refine.Turns

/-!
# Concord.Proofs.Refine.Record

What the record of a refinement loop holds at every turn, and what is left of it at the end.

* `Kept` — each round is the one behind those in front of it, upon a comparison in the world as the
  instructions handed out before have made it; the instructions handed out are those of the first
  rounds;
* `Kept.record`, `Kept.goOn` — both halves of a turn keep the record;
* `runFor_ended` — a loop ends in one of four ways, each with a record that was kept;
* `runFor_failed` — a loop fails in a comparison, or with a record that was kept and behind which the
  progress has no measure.
-/

namespace Concord.Refine

variable {σ κ α : Type} {around : Surroundings σ}

/-- Going on records no round. -/
theorem rounds_goOn (maxRounds : Nat) (r : Run σ κ α) (clear : κ → κ) (made : Instructions) :
    (r.goOn maxRounds around clear made).rounds = r.rounds := by
  unfold Run.goOn Run.handOut
  dsimp only
  split
  · split <;> rfl
  · rfl

/-- Going on clears the cache. -/
theorem cache_goOn (maxRounds : Nat) (r : Run σ κ α) (clear : κ → κ) (made : Instructions) :
    (r.goOn maxRounds around clear made).cache = clear r.cache := by
  unfold Run.goOn Run.handOut
  dsimp only
  split
  · split <;> rfl
  · rfl

variable [Scalar α] {settings : LoopSettings α} {assessor : Assessor σ κ α} {f : σ}
  {Meets : σ → Agreement α → Prop}

/-! ## The record -/

/-- What becomes of a world when instructions are handed out one after the other. -/
def worldAfter (around : Surroundings σ) (f : σ) (calls : List (Instructions × Nat)) : σ :=
  match around.regenerate? with
  | some regenerate => calls.foldl (fun f call => regenerate call.1 call.2 f) f
  | none => f

/-- The instructions of a round with its number. -/
def call? (round : Round α) : Option (Instructions × Nat) :=
  round.instructions?.map (·, round.number)

/-- The gaps of the last of some rounds. -/
def lastGaps (rounds : List (Round α)) : List Gap :=
  ((rounds.getLast?.bind (·.agreement?)).map (·.gaps)).getD []

/-- The record of a loop that began in the world `f`, where the instructions of the first rounds, in
number `handed`, have been handed out.  `Meets` relates a world to a comparison in it. -/
structure Kept (settings : LoopSettings α) (around : Surroundings σ) (f : σ)
    (Meets : σ → Agreement α → Prop) (handed : Nat) (r : Run σ κ α) : Prop where
  bounds : handed ≤ r.rounds.length ∧ r.rounds.length ≤ handed + 1
  history : ∀ i round, r.rounds[i]? = some round → ∃ agreement,
    Meets (worldAfter around f (r.handedOut.take i)) agreement ∧
      round = roundBehind settings.strategy (r.rounds.take i) agreement
  gaps : r.gaps = lastGaps r.rounds
  lastInstructions : r.lastInstructions? = r.rounds.getLast?.bind (·.instructions?)
  unstuck : r.stuckReason? = none
  handedOut : around.regenerate?.isSome = true →
    r.handedOut.map some = (r.rounds.take handed).map call?
  untouched : around.regenerate? = none → r.handedOut = []
  world : r.world = worldAfter around f r.handedOut

/-- A comparison is faithful if it meets the world whenever what earlier comparisons have left is
fresh, and if it leaves something fresh, once that is cleared. -/
structure Assessor.IsFaithful (assessor : Assessor σ κ α) (Fresh : κ → Prop)
    (Meets : σ → Agreement α → Prop) : Prop where
  meets : ∀ {f cache agreement warnings cache'}, Fresh cache →
    assessor.assess f cache = .ok (agreement, warnings, cache') → Meets f agreement
  clear : ∀ {f cache agreement warnings cache'}, Fresh cache →
    assessor.assess f cache = .ok (agreement, warnings, cache') → Fresh (assessor.clear cache')

theorem worldAfter_nil : worldAfter around f [] = f := by
  unfold worldAfter
  cases around.regenerate? <;> rfl

theorem worldAfter_append (calls : List (Instructions × Nat)) (call : Instructions × Nat)
    {regenerate : Instructions → Nat → σ → σ} (h : around.regenerate? = some regenerate) :
    worldAfter around f (calls ++ [call]) =
      regenerate call.1 call.2 (worldAfter around f calls) := by
  simp only [worldAfter, h, List.foldl_append, List.foldl_cons, List.foldl_nil]

/-- The empty record. -/
theorem Kept.start (cache : κ) (warnings : List String) :
    Kept settings around f Meets 0 { world := f, cache, warnings } where
  bounds := ⟨Nat.le_refl 0, Nat.zero_le 1⟩
  history i round h := by simp at h
  gaps := rfl
  lastInstructions := rfl
  unstuck := rfl
  handedOut _ := rfl
  untouched _ := rfl
  world := worldAfter_nil.symm

/-- A run is handed out no more often than it has turned. -/
theorem Kept.length_handedOut_le {handed : Nat} {r : Run σ κ α}
    (h : Kept settings around f Meets handed r) : r.handedOut.length ≤ handed := by
  cases given : around.regenerate? with
  | none => rw [h.untouched given]; exact Nat.zero_le handed
  | some regenerate =>
      have := congrArg List.length (h.handedOut (by rw [given]; rfl))
      simp only [List.length_map, List.length_take] at this
      omega

/-! ## One turn -/

/-- A further round keeps the record. -/
theorem Kept.record {r : Run σ κ α} (h : Kept settings around f Meets r.rounds.length r)
    {agreement : Agreement α} (meets : Meets r.world agreement) (warnings : List String)
    (cache : κ) :
    Kept settings around f Meets r.rounds.length
      (r.record settings.strategy agreement warnings cache) where
  bounds := by simp [Run.record]
  history := by
    intro i round hi
    simp only [Run.record] at hi ⊢
    -- Only the last round is new, and it was compared in the world of all calls so far.
    rcases Nat.lt_trichotomy i r.rounds.length with hlt | rfl | hgt
    · rw [List.getElem?_append_left hlt] at hi
      rw [List.take_append_of_le_length (Nat.le_of_lt hlt)]
      exact h.history i round hi
    · rw [List.getElem?_concat_length] at hi
      refine ⟨agreement, ?_, ?_⟩
      · rw [List.take_of_length_le h.length_handedOut_le, ← h.world]
        exact meets
      · rw [List.take_left]
        exact (Option.some.inj hi).symm
    · rw [List.getElem?_eq_none (by rw [List.length_append, List.length_singleton]; omega)] at hi
      contradiction
  gaps := by simp [Run.record, lastGaps, roundBehind]
  lastInstructions := by simp [Run.record, roundBehind]
  unstuck := h.unstuck
  handedOut given := by
    have := h.handedOut given
    rw [List.take_length] at this
    simpa [Run.record] using this
  untouched := h.untouched
  world := h.world

/-- Handing out the instructions of the last round keeps the record. -/
theorem Kept.handOut {handed : Nat} {r : Run σ κ α} (h : Kept settings around f Meets handed r)
    {front : List (Round α)} {round : Round α} (hrounds : r.rounds = front ++ [round])
    (hfront : front.length = handed) {made : Instructions}
    (hcall : call? round = some (made, r.rounds.length)) :
    Kept settings around f Meets (handed + 1) (r.handOut around made) := by
  have hlength : r.rounds.length = handed + 1 := by rw [hrounds]; simp [hfront]
  cases given : around.regenerate? with
  | none =>
      have same : r.handOut around made = r := by rw [Run.handOut, given]
      rw [same]
      exact { h with
        bounds := by omega
        handedOut := fun some_given => by rw [given] at some_given; contradiction }
  | some regenerate =>
      have hcalls := h.handedOut (by rw [given]; rfl)
      have hcount : r.handedOut.length = handed := by
        have := congrArg List.length hcalls
        simp only [List.length_map, List.length_take] at this
        omega
      have changed : r.handOut around made =
          { r with
            world := regenerate made r.rounds.length r.world
            handedOut := r.handedOut ++ [(made, r.rounds.length)] } := by rw [Run.handOut, given]
      rw [changed]
      refine { h with bounds := ?_, history := ?_, handedOut := ?_, untouched := ?_, world := ?_ }
      · exact ⟨Nat.le_of_eq hlength.symm, Nat.le_succ_of_le (Nat.le_of_eq hlength)⟩
      -- The call that is added stands behind those that the recorded rounds were compared after.
      · intro i own hi
        have hlt : i < r.rounds.length := (List.getElem?_eq_some_iff.1 hi).1
        rw [List.take_append_of_le_length (by omega)]
        exact h.history i own hi
      · intro _
        rw [List.map_append, hcalls, hrounds, ← hfront, List.take_left, List.take_of_length_le
          (by simp), List.map_append, List.map_singleton, List.map_singleton, hcall]
        simp [hrounds]
      · intro none_given
        rw [given] at none_given
        contradiction
      · rw [worldAfter_append _ _ given, ← h.world]

/-- Behind a round that does not end the loop its instructions are handed out, unless it is the last
round there is. -/
theorem Kept.goOn {r : Run σ κ α} (h : Kept settings around f Meets r.rounds.length r)
    {agreement : Agreement α} (meets : Meets r.world agreement) (warnings : List String)
    (cache : κ) (clear : κ → κ) (room : r.rounds.length < settings.maxRounds) :
    Kept settings around f Meets (min (r.rounds.length + 1) (settings.maxRounds - 1))
      ((r.record settings.strategy agreement warnings cache).goOn settings.maxRounds around clear
        (instructionsFor settings.strategy r.rounds.length agreement)) := by
  have recorded := h.record meets warnings cache
  have cleared : Kept settings around f Meets r.rounds.length
      { r.record settings.strategy agreement warnings cache with cache := clear cache } :=
    { recorded with }
  have hlength : (r.record settings.strategy agreement warnings cache).rounds.length =
      r.rounds.length + 1 := by simp [Run.record]
  unfold Run.goOn
  dsimp only
  by_cases further : r.rounds.length + 1 < settings.maxRounds
  · rw [if_pos (by rw [hlength]; exact further), Nat.min_eq_left (by omega)]
    refine cleared.handOut rfl rfl ?_
    simp [call?, roundBehind, Run.record]
  · rw [if_neg (by rw [hlength]; exact further), Nat.min_eq_right (by omega)]
    have : settings.maxRounds - 1 = r.rounds.length := by omega
    rw [this]
    exact cleared

/-! ## All turns -/

/-- Whether the loop went on behind each of the first `n` scores. -/
def OpenUpTo (settings : LoopSettings α) (scores : List α) (n : Nat) : Prop :=
  ∀ i, 0 < i → i ≤ n →
    hasConverged settings (scores.take i) = false ∧
      ∃ progress, measure settings (scores.take i) = .ok progress ∧ progress.stuckReason? = none

/-- Further scores leave open what was open. -/
theorem OpenUpTo.append {scores : List α} {n : Nat} (h : OpenUpTo settings scores n)
    (hn : n ≤ scores.length) (more : List α) : OpenUpTo settings (scores ++ more) n := by
  intro i hpos hi
  rw [List.take_append_of_le_length (Nat.le_trans hi hn)]
  exact h i hpos hi

/-- The state of a loop behind `n` turns that did not end it, as long as there are turns left. -/
structure Going (settings : LoopSettings α) (around : Surroundings σ) (f : σ) (Fresh : κ → Prop)
    (Meets : σ → Agreement α → Prop) (n : Nat) (r : Run σ κ α) : Prop where
  length : r.rounds.length = n
  kept : Kept settings around f Meets (min n (settings.maxRounds - 1)) r
  fresh : Fresh r.cache
  wentOn : OpenUpTo settings r.scores n

/-- How a loop ends, and with which record. -/
inductive EndsBy (settings : LoopSettings α) (around : Surroundings σ) (f : σ)
    (Meets : σ → Agreement α → Prop) : Ending → Run σ κ α → Prop where
  | exhausted {r} (length : r.rounds.length = settings.maxRounds)
      (kept : Kept settings around f Meets (r.rounds.length - 1) r)
      (wentOn : OpenUpTo settings r.scores r.rounds.length) :
      EndsBy settings around f Meets .exhausted r
  | cancelled {r} (room : r.rounds.length < settings.maxRounds)
      (asked : around.isCancelled (r.rounds.length + 1) = true)
      (kept : Kept settings around f Meets r.rounds.length r)
      (wentOn : OpenUpTo settings r.scores r.rounds.length) :
      EndsBy settings around f Meets .cancelled r
  | converged {r} (positive : 0 < r.rounds.length)
      (bounded : r.rounds.length ≤ settings.maxRounds)
      (kept : Kept settings around f Meets (r.rounds.length - 1) r)
      (wentOn : OpenUpTo settings r.scores (r.rounds.length - 1))
      (reached : hasConverged settings r.scores = true) :
      EndsBy settings around f Meets .converged { r with gaps := [] }
  | stalled {r progress reason} (positive : 0 < r.rounds.length)
      (bounded : r.rounds.length ≤ settings.maxRounds)
      (kept : Kept settings around f Meets (r.rounds.length - 1) r)
      (wentOn : OpenUpTo settings r.scores (r.rounds.length - 1))
      (short : hasConverged settings r.scores = false)
      (measured : measure settings r.scores = .ok progress)
      (stuck : progress.stuckReason? = some reason) :
      EndsBy settings around f Meets .stalled { r with stuckReason? := some reason }

/-- How a loop fails behind a round, and with which record. -/
structure FailsBehind (settings : LoopSettings α) (around : Surroundings σ) (f : σ)
    (Meets : σ → Agreement α → Prop) (failure : Failure) (r : Run σ κ α) : Prop where
  positive : 0 < r.rounds.length
  bounded : r.rounds.length ≤ settings.maxRounds
  kept : Kept settings around f Meets (r.rounds.length - 1) r
  wentOn : OpenUpTo settings r.scores (r.rounds.length - 1)
  short : hasConverged settings r.scores = false
  unmeasured : measure settings r.scores = .error failure

theorem scores_record (r : Run σ κ α) (strategy : Strategy) (agreement : Agreement α)
    (warnings : List String) (cache : κ) :
    (r.record strategy agreement warnings cache).scores = r.scores ++ [agreement.overall] := by
  simp [Run.scores, Run.record, roundBehind]

variable {Fresh : κ → Prop}

/-- What is recorded behind a comparison. -/
theorem Going.recorded (faithful : assessor.IsFaithful Fresh Meets) {n : Nat} {r r' : Run σ κ α}
    (room : n < settings.maxRounds) (h : Going settings around f Fresh Meets n r)
    {agreement : Agreement α} {warnings : List String} {cache : κ}
    (assessed : assessor.assess r.world r.cache = .ok (agreement, warnings, cache))
    (hr : r' = r.record settings.strategy agreement warnings cache) :
    r'.rounds.length = n + 1 ∧
      Kept settings around f Meets (r'.rounds.length - 1) r' ∧
      OpenUpTo settings r'.scores (r'.rounds.length - 1) := by
  obtain ⟨rfl, kept, fresh, wentOn⟩ := h
  rw [Nat.min_eq_left (by omega)] at kept
  subst hr
  have length : (r.record settings.strategy agreement warnings cache).rounds.length =
      r.rounds.length + 1 := by simp [Run.record]
  rw [length, Nat.add_sub_cancel, scores_record]
  exact ⟨rfl, kept.record (faithful.meets fresh assessed) _ _,
    wentOn.append (by simp [Run.scores]) _⟩

/-- A turn that does not end the loop leads from one such state to the next. -/
theorem Going.next (faithful : assessor.IsFaithful Fresh Meets) {n : Nat} {r r' : Run σ κ α}
    (room : n < settings.maxRounds) (h : Going settings around f Fresh Meets n r)
    (turned : TurnTo settings around assessor r none r') :
    Going settings around f Fresh Meets (n + 1) r' := by
  cases turned with
  | further assessed recorded short measured moving =>
      obtain ⟨length, -, stillOn⟩ := h.recorded faithful room assessed recorded
      obtain ⟨rfl, kept, fresh, -⟩ := h
      rw [Nat.min_eq_left (by omega)] at kept
      subst recorded
      refine ⟨?_, ?_, ?_, ?_⟩
      · rw [rounds_goOn, length]
      · exact kept.goOn (faithful.meets fresh assessed) _ _ _ room
      · rw [cache_goOn]
        exact faithful.clear fresh assessed
      · intro i hpos hi
        rw [Run.scores, rounds_goOn, ← Run.scores]
        rcases Nat.lt_or_eq_of_le hi with hlt | rfl
        · exact stillOn i hpos (by omega)
        · rw [List.take_of_length_le (Nat.le_of_eq (by rw [Run.scores, List.length_map, length]))]
          exact ⟨short, _, measured, moving⟩

/-- So many turns that do not end the loop lead to such a state. -/
theorem Turns.going (faithful : assessor.IsFaithful Fresh Meets) {cache : κ}
    (fresh : Fresh cache) {warnings : List String} {n : Nat} {s : Run σ κ α}
    (turns : Turns settings around assessor n { world := f, cache, warnings } s)
    (room : n ≤ settings.maxRounds) : Going settings around f Fresh Meets n s := by
  refine turns.invariant (fun n s => n ≤ settings.maxRounds →
    Going settings around f Fresh Meets n s) ?_ ?_ room
  · intro _
    refine ⟨rfl, ?_, fresh, fun i hpos hi => absurd hi (by omega)⟩
    rw [Nat.zero_min]
    exact Kept.start cache warnings
  · intro m s t ih turned hm
    exact (ih (by omega)).next faithful hm turned

/-- **A loop ends in one of four ways, with a record that was kept.** -/
theorem runFor_ended (faithful : assessor.IsFaithful Fresh Meets) {cache : κ}
    (fresh : Fresh cache) {warnings : List String} {r : Run σ κ α} {ending : Ending}
    (h : runFor settings around assessor settings.maxRounds { world := f, cache, warnings } =
      .ok (ending, r)) :
    EndsBy settings around f Meets ending r := by
  obtain ⟨n, s, turns, last⟩ := runFor_ok (.start _) h
  have going := turns.going faithful fresh
  rw [Nat.zero_add] at last
  rcases last with ⟨rfl, rfl, rfl⟩ | ⟨hlt, turned⟩
  · obtain ⟨length, kept, -, wentOn⟩ := going (Nat.le_refl _)
    rw [← length] at wentOn
    rw [Nat.min_eq_right (Nat.sub_le _ _), ← length] at kept
    exact .exhausted length kept wentOn
  · have here := going (Nat.le_of_lt hlt)
    cases turned with
    | cancelled asked =>
        obtain ⟨rfl, kept, -, wentOn⟩ := here
        rw [Nat.min_eq_left (by omega)] at kept
        exact .cancelled hlt asked kept wentOn
    | converged assessed recorded reached =>
        obtain ⟨length, kept, wentOn⟩ := here.recorded faithful hlt assessed recorded
        exact .converged (by omega) (by omega) kept wentOn reached
    | stalled assessed recorded short measured stuck =>
        obtain ⟨length, kept, wentOn⟩ := here.recorded faithful hlt assessed recorded
        exact .stalled (by omega) (by omega) kept wentOn short measured stuck

/-- **A loop fails in a comparison, or with a record that was kept and behind which the progress has
no measure.** -/
theorem runFor_failed (faithful : assessor.IsFaithful Fresh Meets) {cache : κ}
    (fresh : Fresh cache) {warnings : List String} {failure : Failure}
    (h : runFor settings around assessor settings.maxRounds { world := f, cache, warnings } =
      .error failure) :
    (∃ s : Run σ κ α, assessor.assess s.world s.cache = .error failure) ∨
      ∃ r : Run σ κ α, FailsBehind settings around f Meets failure r := by
  obtain ⟨n, s, hlt, turns, failed⟩ := runFor_error (.start _) h
  rw [Nat.zero_add] at hlt
  have here := turns.going faithful fresh (Nat.le_of_lt hlt)
  cases failed with
  | comparing failed => exact .inl ⟨s, failed⟩
  | measuring assessed recorded short unmeasured =>
      obtain ⟨length, kept, wentOn⟩ := here.recorded faithful hlt assessed recorded
      exact .inr ⟨_, by omega, by omega, kept, wentOn, short, unmeasured⟩

/-- Behind its end a loop has a record that was kept: of it, the gaps are dropped upon convergence
alone, and the instructions of the last round are handed out upon cancellation alone. -/
theorem EndsBy.kept {ending : Ending} {r : Run σ κ α}
    (h : EndsBy settings around f Meets ending r) :
    ∃ r₀ : Run σ κ α, Kept settings around f Meets
        (if ending = .cancelled then r.rounds.length else r.rounds.length - 1) r₀ ∧
      r.rounds = r₀.rounds ∧ r.handedOut = r₀.handedOut ∧
      r.lastInstructions? = r₀.lastInstructions? ∧
      r.gaps = if ending = .converged then [] else r₀.gaps := by
  cases h with
  | exhausted length kept wentOn => exact ⟨r, kept, rfl, rfl, rfl, rfl⟩
  | cancelled room asked kept wentOn => exact ⟨r, kept, rfl, rfl, rfl, rfl⟩
  | converged positive bounded kept wentOn reached => exact ⟨_, kept, rfl, rfl, rfl, rfl⟩
  | stalled positive bounded kept wentOn short measured stuck =>
      exact ⟨_, kept, rfl, rfl, rfl, rfl⟩

/-- Each of its rounds compares what the instructions handed out before have made of the world. -/
theorem EndsBy.comparisons {ending : Ending} {r : Run σ κ α}
    (h : EndsBy settings around f Meets ending r) :
    ∀ i round, r.rounds[i]? = some round → ∃ agreement, round.agreement? = some agreement ∧
      Meets (worldAfter around f (r.handedOut.take i)) agreement := by
  obtain ⟨r₀, kept, hrounds, hhanded, -, -⟩ := h.kept
  intro i round hi
  rw [hrounds] at hi
  obtain ⟨agreement, meets, rfl⟩ := kept.history i round hi
  rw [hhanded]
  exact ⟨agreement, rfl, meets⟩

end Concord.Refine
