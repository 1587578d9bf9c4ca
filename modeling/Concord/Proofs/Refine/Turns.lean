import Concord.Refine.Loop

/-!
# Concord.Proofs.Refine.Turns

The refinement loop as a sequence of turns.  `TurnTo` says what one turn can do, and `Turns` what
the turns can do that do not end the loop:

* `turn_spec` — a turn does no more than `TurnTo` says, or fails as `TurnFails` says;
* `runFor_ok` — a loop that ends does so by one turn behind some others, or for want of turns;
* `runFor_error` — a loop that fails does so in a comparison, or behind a round whose progress has no
  measure.

What holds throughout a loop is shown of its start and of one turn (`Turns.invariant`).
-/

namespace Concord.Refine

variable {σ κ α : Type} [Scalar α] {settings : LoopSettings α} {around : Surroundings σ}
  {assessor : Assessor σ κ α}

/-! ## One turn -/

/-- What one turn can do: where it leads, and how the loop ends there, if it does. -/
inductive TurnTo (settings : LoopSettings α) (around : Surroundings σ) (assessor : Assessor σ κ α)
    (r : Run σ κ α) : Option Ending → Run σ κ α → Prop where
  | cancelled (asked : around.isCancelled (r.rounds.length + 1) = true) :
      TurnTo settings around assessor r (some .cancelled) r
  | converged {agreement warnings cache r'}
      (assessed : assessor.assess r.world r.cache = .ok (agreement, warnings, cache))
      (recorded : r' = r.record settings.strategy agreement warnings cache)
      (reached : hasConverged settings r'.scores = true) :
      TurnTo settings around assessor r (some .converged) { r' with gaps := [] }
  | stalled {agreement warnings cache r' progress reason}
      (assessed : assessor.assess r.world r.cache = .ok (agreement, warnings, cache))
      (recorded : r' = r.record settings.strategy agreement warnings cache)
      (short : hasConverged settings r'.scores = false)
      (measured : measure settings r'.scores = .ok progress)
      (stuck : progress.stuckReason? = some reason) :
      TurnTo settings around assessor r (some .stalled) { r' with stuckReason? := some reason }
  | further {agreement warnings cache r' progress}
      (assessed : assessor.assess r.world r.cache = .ok (agreement, warnings, cache))
      (recorded : r' = r.record settings.strategy agreement warnings cache)
      (short : hasConverged settings r'.scores = false)
      (measured : measure settings r'.scores = .ok progress)
      (moving : progress.stuckReason? = none) :
      TurnTo settings around assessor r none
        (r'.goOn settings.maxRounds around assessor.clear
          (instructionsFor settings.strategy r.rounds.length agreement))

/-- How one turn can fail: in its comparison, or behind it, if the threshold is not reached and the
progress has no measure. -/
inductive TurnFails (settings : LoopSettings α) (assessor : Assessor σ κ α) (r : Run σ κ α) :
    Failure → Prop where
  | comparing {failure} (failed : assessor.assess r.world r.cache = .error failure) :
      TurnFails settings assessor r failure
  | measuring {agreement warnings cache r' failure}
      (assessed : assessor.assess r.world r.cache = .ok (agreement, warnings, cache))
      (recorded : r' = r.record settings.strategy agreement warnings cache)
      (short : hasConverged settings r'.scores = false)
      (unmeasured : measure settings r'.scores = .error failure) :
      TurnFails settings assessor r failure

/-- **A turn does no more than `TurnTo` says, and fails no other way than `TurnFails` says.** -/
theorem turn_spec (settings : LoopSettings α) (around : Surroundings σ) (assessor : Assessor σ κ α)
    (r : Run σ κ α) :
    match turn settings around assessor r with
    | .ok (ending?, r') => TurnTo settings around assessor r ending? r'
    | .error failure => TurnFails settings assessor r failure := by
  unfold turn
  by_cases asked : around.isCancelled (r.rounds.length + 1) = true
  · rw [if_pos asked]
    exact .cancelled asked
  · rw [if_neg asked]
    cases assessed : assessor.assess r.world r.cache with
    | error failure => exact .comparing assessed
    | ok result =>
        obtain ⟨agreement, warnings, cache⟩ := result
        simp only [Bind.bind, Except.bind, pure, Except.pure]
        -- The threshold comes first: the progress is measured only where it is not reached.
        by_cases reached : hasConverged settings
            (r.record settings.strategy agreement warnings cache).scores = true
        · rw [if_pos reached]
          exact .converged assessed rfl reached
        · have short := Bool.eq_false_iff.2 reached
          rw [if_neg reached]
          cases measured : measure settings
              (r.record settings.strategy agreement warnings cache).scores with
          | error failure => exact .measuring assessed rfl short measured
          | ok progress =>
              dsimp only
              cases stuck : progress.stuckReason? with
              | none => exact .further assessed rfl short measured stuck
              | some reason => exact .stalled assessed rfl short measured stuck

theorem turn_ok {r r' : Run σ κ α} {ending? : Option Ending}
    (h : turn settings around assessor r = .ok (ending?, r')) :
    TurnTo settings around assessor r ending? r' := by
  have spec := turn_spec settings around assessor r
  rwa [h] at spec

theorem turn_error {r : Run σ κ α} {failure : Failure}
    (h : turn settings around assessor r = .error failure) :
    TurnFails settings assessor r failure := by
  have spec := turn_spec settings around assessor r
  rwa [h] at spec

/-! ## Many turns -/

/-- So many turns that do not end the loop, one behind the other. -/
inductive Turns (settings : LoopSettings α) (around : Surroundings σ) (assessor : Assessor σ κ α) :
    Nat → Run σ κ α → Run σ κ α → Prop where
  | start (r : Run σ κ α) : Turns settings around assessor 0 r r
  | next {n r s t} (before : Turns settings around assessor n r s)
      (turned : TurnTo settings around assessor s none t) :
      Turns settings around assessor (n + 1) r t

/-- What holds at the start and is kept by every turn that does not end the loop always holds. -/
theorem Turns.invariant {n : Nat} {r s : Run σ κ α} (Holds : Nat → Run σ κ α → Prop)
    (atStart : Holds 0 r)
    (kept : ∀ n s t, Holds n s → TurnTo settings around assessor s none t → Holds (n + 1) t)
    (h : Turns settings around assessor n r s) : Holds n s := by
  induction h with
  | start r => exact atStart
  | next before turned ih => exact kept _ _ _ (ih atStart) turned

/-- **A loop that ends has turned for a while, and then had no turns left or was ended by one.** -/
theorem runFor_ok {n budget : Nat} {start r r' : Run σ κ α} {ending : Ending}
    (before : Turns settings around assessor n start r)
    (h : runFor settings around assessor budget r = .ok (ending, r')) :
    ∃ m s, Turns settings around assessor m start s ∧
      ((m = n + budget ∧ ending = .exhausted ∧ r' = s) ∨
        (m < n + budget ∧ TurnTo settings around assessor s (some ending) r')) := by
  induction budget generalizing n r with
  | zero =>
      obtain ⟨rfl, rfl⟩ := Prod.mk.inj (Except.ok.inj h)
      exact ⟨n, r, before, Or.inl ⟨rfl, rfl, rfl⟩⟩
  | succ budget ih =>
      unfold runFor at h
      cases turned : turn settings around assessor r with
      | error failure => rw [turned] at h; contradiction
      | ok result =>
          rw [turned] at h
          obtain ⟨_ | own, s⟩ := result
          · obtain ⟨m, t, turns, last⟩ := ih (before.next (turn_ok turned)) h
            rw [Nat.add_right_comm] at last
            exact ⟨m, t, turns, last⟩
          · obtain ⟨rfl, rfl⟩ := Prod.mk.inj (Except.ok.inj h)
            exact ⟨n, r, before, Or.inr ⟨by omega, turn_ok turned⟩⟩

/-- **A loop that fails has turned for a while, and then failed in a turn.** -/
theorem runFor_error {n budget : Nat} {start r : Run σ κ α} {failure : Failure}
    (before : Turns settings around assessor n start r)
    (h : runFor settings around assessor budget r = .error failure) :
    ∃ m s, m < n + budget ∧ Turns settings around assessor m start s ∧
      TurnFails settings assessor s failure := by
  induction budget generalizing n r with
  | zero => contradiction
  | succ budget ih =>
      unfold runFor at h
      cases turned : turn settings around assessor r with
      | error own =>
          rw [turned] at h
          obtain rfl := Except.error.inj h
          exact ⟨n, r, by omega, before, turn_error turned⟩
      | ok result =>
          rw [turned] at h
          obtain ⟨_ | own, s⟩ := result
          · obtain ⟨m, t, hlt, turns, failed⟩ := ih (before.next (turn_ok turned)) h
            exact ⟨m, t, by omega, turns, failed⟩
          · contradiction

end Concord.Refine
