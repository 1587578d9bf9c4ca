import Concord.Settings.Lax

/-!
# Concord.Proofs.Settings.Bounds

The bounds that checked settings keep.  `entry_valid` carries a property of the usual value and of
every checked value over to an entry; from it, whatever is taken for what,

* `checkLoop_isValid` — the settings of the loop are within their bounds;
* `checkComparison_isNonneg` — no dimension of a comparison has a negative weight.

If values of a wanted kind stand for themselves, then all settings of the loop that are within their
bounds can be set: `isValid_iff_checkLoop`.
-/

namespace Concord

/-- Whether no weight is negative. -/
structure ByDimension.IsNonneg {α : Type} [Scalar α] (weights : ByDimension α) : Prop where
  structural : Scalar.zero ≤ weights.structural
  type : Scalar.zero ≤ weights.type
  behavioral : Scalar.zero ≤ weights.behavioral
  test : Scalar.zero ≤ weights.test
  idiomatic : Scalar.zero ≤ weights.idiomatic

/-- Whether the settings of the loop are within their bounds. -/
structure LoopSettings.IsValid (settings : LoopSettings Float) : Prop where
  threshold : Scalar.zero ≤ settings.threshold ∧ settings.threshold ≤ Scalar.one
  maxRounds : 1 ≤ settings.maxRounds
  stuckThreshold : Scalar.zero ≤ settings.stuckThreshold
  stuckWindow : 2 ≤ settings.stuckWindow

namespace Settings

open Document

/-- Whether values of a wanted kind stand for themselves, as coercions are documented to take
them. -/
structure Coercions.IsFaithful (c : Coercions) : Prop where
  number : ∀ x, c.number (.float x) = .valid x
  integer : ∀ n, c.integer (.int n) = .valid n
  truth : ∀ b, c.truth (.bool b) = .valid b
  text : ∀ s, c.text (.text s) = .valid s

/-- The coercions that run are faithful. -/
theorem Coercions.lax_isFaithful : Coercions.lax.IsFaithful :=
  ⟨fun _ => rfl, fun _ => rfl, fun _ => rfl, fun _ => rfl⟩

variable {c : Coercions}

/-- A value checked by applying one check to another is valid only if both are. -/
theorem seq_eq_valid {α β : Type} {f : Checked (α → β)} {a : Checked α} {b : β}
    (h : f <*> a = .valid b) : ∃ g x, f = .valid g ∧ a = .valid x ∧ b = g x := by
  change f.apply a = .valid b at h
  cases f with
  | invalid ps => cases a <;> contradiction
  | valid g =>
      cases a with
      | invalid ps => contradiction
      | valid x =>
          obtain rfl := Checked.valid.inj h
          exact ⟨g, x, rfl, rfl, rfl⟩

/-- A value made of a checked one is valid only if that one is. -/
theorem map_eq_valid {α β : Type} {g : α → β} {a : Checked α} {b : β}
    (h : g <$> a = .valid b) : ∃ x, a = .valid x ∧ b = g x := by
  obtain ⟨_, x, hg, hx, rfl⟩ := seq_eq_valid (f := .valid g) h
  obtain rfl := Checked.valid.inj hg
  exact ⟨x, hx, rfl⟩

/-- An entry has whatever property the usual value and all checked values have. -/
theorem entry_valid {α : Type} (Good : α → Prop) {es : List (String × Value)} {key : String}
    {usual a : α} {check : Value → Checked α} (atUsual : Good usual)
    (checked : ∀ v a, check v = .valid a → Good a) (h : entry es key usual check = .valid a) :
    Good a := by
  unfold entry at h
  split at h
  · obtain rfl := Checked.valid.inj h
    exact atUsual
  · next v _ =>
    cases hv : check v with
    | invalid ps => rw [hv] at h; contradiction
    | valid x =>
        rw [hv] at h
        obtain rfl := Checked.valid.inj h
        exact checked v x hv

/-- A number that passes is within its bounds. -/
theorem numberWithin_valid {low : Float} {high? : Option Float} {v : Value} {x : Float}
    (h : numberWithin c low high? v = .valid x) : low ≤ x ∧ ∀ high, high? = some high → x ≤ high := by
  unfold numberWithin Checked.andThen at h
  split at h
  · next y _ =>
    dsimp only at h
    by_cases large : (high?.any fun high => !decide (y ≤ high)) = true
    · rw [if_pos large] at h
      contradiction
    · rw [if_neg large] at h
      by_cases small : low ≤ y
      · rw [if_neg (by simpa using small)] at h
        obtain rfl := Checked.valid.inj h
        refine ⟨small, ?_⟩
        rintro high rfl
        simpa using large
      · rw [if_pos (by simpa using small)] at h
        contradiction
  · contradiction

/-- An integer that passes is not below its bound. -/
theorem integerFrom_valid {low : Int} {v : Value} {n : Nat} (h : integerFrom c low v = .valid n) :
    low ≤ n := by
  unfold integerFrom Checked.andThen at h
  split at h
  · dsimp only at h
    split at h
    · contradiction
    · obtain rfl := Checked.valid.inj h
      omega
  · contradiction

/-- **The settings of the loop are within their bounds if they pass the check.** -/
theorem checkLoop_isValid {es : List (String × Value)} {settings : LoopSettings Float}
    (h : checkLoop c es = .valid settings) : settings.IsValid := by
  obtain ⟨_, strategy, h₄, -, rfl⟩ := seq_eq_valid h
  obtain ⟨_, stuckWindow, h₃, hwindow, rfl⟩ := seq_eq_valid h₄
  obtain ⟨_, stuckThreshold, h₂, hstuck, rfl⟩ := seq_eq_valid h₃
  obtain ⟨_, maxRounds, h₁, hrounds, rfl⟩ := seq_eq_valid h₂
  obtain ⟨threshold, hthreshold, rfl⟩ := map_eq_valid h₁
  refine ⟨?_, ?_, ?_, ?_⟩
  · refine entry_valid (fun x => Scalar.zero ≤ x ∧ x ≤ Scalar.one) (by decide +kernel) ?_
      hthreshold
    intro v x hx
    exact ⟨(numberWithin_valid hx).1, (numberWithin_valid hx).2 1 rfl⟩
  · refine entry_valid (1 ≤ ·) (by decide) ?_ hrounds
    intro v n hn
    exact Int.ofNat_le.1 (integerFrom_valid hn)
  · refine entry_valid (Scalar.zero ≤ ·) (by decide +kernel) ?_ hstuck
    intro v x hx
    exact (numberWithin_valid hx).1
  · refine entry_valid (2 ≤ ·) (by decide) ?_ hwindow
    intro v n hn
    exact Int.ofNat_le.1 (integerFrom_valid hn)

/-! ## What can be set -/

theorem entry_eq_valid {α : Type} {es : List (String × Value)} {key : String} {usual a : α}
    {check : Value → Checked α} {v : Value} (found : es.lookup key = some v)
    (valid : check v = .valid a) : entry es key usual check = .valid a := by
  rw [entry, found]
  dsimp only
  rw [valid, Checked.under]

/-- A number within its bounds passes as it is. -/
theorem numberWithin_eq_valid (faithful : c.IsFaithful) {low x : Float} {high? : Option Float}
    (above : low ≤ x) (below : ∀ high, high? = some high → x ≤ high) :
    numberWithin c low high? (.float x) = .valid x := by
  have notLarge : ¬ (high?.any fun high => !decide (x ≤ high)) = true := by
    rw [Option.any_eq_true]
    rintro ⟨high, given, large⟩
    simp [below high given] at large
  rw [numberWithin, faithful.number, Checked.andThen, if_neg notLarge, if_neg (by simpa using above)]

theorem integerFrom_eq_valid (faithful : c.IsFaithful) {low : Int} {n : Nat} (h : low ≤ n) :
    integerFrom c low (.int n) = .valid n := by
  rw [integerFrom, faithful.integer, Checked.andThen, if_neg (by omega), Int.toNat_natCast]

/-- A strategy passes under its own word. -/
theorem strategy_eq_valid (faithful : c.IsFaithful) (s : Strategy) :
    strategy c (.text s.word) = .valid s := by
  have known : Strategy.ofWord? s.word = some s := by cases s <;> decide
  rw [strategy, faithful.text, Checked.andThen, known]

/-- **The settings of the loop are within their bounds exactly if they pass the check of some
document.** -/
theorem isValid_iff_checkLoop (faithful : c.IsFaithful) (settings : LoopSettings Float) :
    settings.IsValid ↔ ∃ es, checkLoop c es = .valid settings := by
  constructor
  · intro valid
    refine ⟨[("threshold", .float settings.threshold), ("max_iterations", .int settings.maxRounds),
      ("stuck_threshold", .float settings.stuckThreshold),
      ("stuck_window", .int settings.stuckWindow), ("strategy", .text settings.strategy.word)], ?_⟩
    have threshold : share c (.float settings.threshold) = .valid settings.threshold :=
      numberWithin_eq_valid faithful valid.threshold.1 fun high given =>
        Option.some.inj given ▸ valid.threshold.2
    have rounds : integerFrom c 1 (.int settings.maxRounds) = .valid settings.maxRounds :=
      integerFrom_eq_valid faithful (Int.ofNat_le.2 valid.maxRounds)
    have stuck : numberWithin c 0 none (.float settings.stuckThreshold) =
        .valid settings.stuckThreshold :=
      numberWithin_eq_valid faithful valid.stuckThreshold nofun
    have window : integerFrom c 2 (.int settings.stuckWindow) = .valid settings.stuckWindow :=
      integerFrom_eq_valid faithful (Int.ofNat_le.2 valid.stuckWindow)
    have strategy := strategy_eq_valid faithful settings.strategy
    rw [checkLoop, entry_eq_valid rfl threshold, entry_eq_valid rfl rounds,
      entry_eq_valid rfl stuck, entry_eq_valid rfl window, entry_eq_valid rfl strategy]
    rfl
  · rintro ⟨es, h⟩
    exact checkLoop_isValid h

theorem share_valid {v : Value} {x : Float} (h : share c v = .valid x) : Scalar.zero ≤ x :=
  (numberWithin_valid h).1

/-- The usual weights are not negative. -/
theorem usualWeights_isNonneg : usualWeights.IsNonneg := by
  constructor <;> decide +kernel

/-- Weights that pass the check are not negative. -/
theorem checkWeights_isNonneg {es : List (String × Value)} {weights : ByDimension Float}
    (h : checkWeights c es = .valid weights) : weights.IsNonneg := by
  have usual := usualWeights_isNonneg
  have nonneg {key : String} {usual x : Float} (atUsual : Scalar.zero ≤ usual)
      (h : entry es key usual (share c) = .valid x) : Scalar.zero ≤ x :=
    entry_valid (Scalar.zero ≤ ·) atUsual (fun _ _ => share_valid) h
  obtain ⟨_, idiomatic, h₄, hidiomatic, rfl⟩ := seq_eq_valid h
  obtain ⟨_, test, h₃, htest, rfl⟩ := seq_eq_valid h₄
  obtain ⟨_, behavioral, h₂, hbehavioral, rfl⟩ := seq_eq_valid h₃
  obtain ⟨_, type, h₁, htype, rfl⟩ := seq_eq_valid h₂
  obtain ⟨structural, hstructural, rfl⟩ := map_eq_valid h₁
  exact ⟨nonneg usual.structural hstructural, nonneg usual.type htype,
    nonneg usual.behavioral hbehavioral, nonneg usual.test htest,
    nonneg usual.idiomatic hidiomatic⟩

/-- **No weight is negative if the settings of comparisons pass the check.** -/
theorem checkComparison_isNonneg {es : List (String × Value)}
    {settings : ComparisonSettings Float} (h : checkComparison c es = .valid settings) :
    settings.weights.IsNonneg := by
  obtain ⟨_, ignoresPrivate, h₃, -, rfl⟩ := seq_eq_valid h
  obtain ⟨_, isStrict, h₂, -, rfl⟩ := seq_eq_valid h₃
  obtain ⟨_, threshold, h₁, -, rfl⟩ := seq_eq_valid h₂
  obtain ⟨weights, hweights, rfl⟩ := map_eq_valid h₁
  refine entry_valid (·.IsNonneg) usualWeights_isNonneg ?_ hweights
  intro v weights hv
  cases v with
  | table es => exact checkWeights_isNonneg hv
  | _ => contradiction

end Settings
end Concord
