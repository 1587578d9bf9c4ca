import Concord.Proofs.Folder.Outside
import Concord.Proofs.Refine.Task

/-!
# Concord.Proofs.Refine.Isolation

What a refinement loop keeps in its cache cannot be told from its report.

* Each round compares the implementations as they are in the world of that round with the reference
  as it was at the start: the first half of `run_isTransparent`.
* So what happens at a place that is clear of the implementations, such as the directory of the
  reference, makes no difference: the second half.  A loop is carried over from one world to another
  turn by turn (`turn_moved`, `runFor_moved`).
-/

namespace Concord.Refine

/-! ## One comparison -/

section Comparison

variable {place : List String} {f g : Folder} {task : Task} {α : Type} [Scalar α]

theorem readImplementation_congr (agree : Folder.AgreeOutside place f g) {path : String}
    (clear : Folder.ClearOf place path) (options : Folder.ReadOptions) (language : Language) :
    readImplementation options f path language = readImplementation options g path language := by
  unfold readImplementation
  rw [agree.project? clear, agree.analyze clear]

/-- A pass over languages clear of the place does not depend on the place. -/
theorem visits_congr (agree : Folder.AgreeOutside place f g) (options : Folder.ReadOptions)
    {languages : List Language} (clear : ∀ l ∈ languages, Folder.ClearOf place (task.place l))
    (p : Pass) :
    languages.foldlM (Pass.visit options f task) p =
      languages.foldlM (Pass.visit options g task) p := by
  induction languages generalizing p with
  | nil => rfl
  | cons l languages ih =>
      have first : p.visit options f task l = p.visit options g task l := by
        unfold Pass.visit
        rw [readImplementation_congr agree (clear l List.mem_cons_self)]
      rw [List.foldlM_cons, List.foldlM_cons, first]
      cases p.visit options g task l with
      | error failure => rfl
      | ok q => exact ih (fun k hk => clear k (List.mem_cons_of_mem l hk)) q

/-- A comparison comes out the same in two worlds that agree outside of a place which is clear of
the implementations. -/
theorem assess_congr (agree : Folder.AgreeOutside place f g) (settings : Settings α)
    {languages : List Language} (clear : ∀ l ∈ languages, Folder.ClearOf place (task.place l))
    (cache : Cache) :
    (assessor settings task languages).assess f cache =
      (assessor settings task languages).assess g cache := by
  unfold assessor
  dsimp only
  rw [visits_congr agree (readOptions settings) clear]

end Comparison

/-! ## Two worlds -/

section Worlds

variable {σ κ α : Type}

/-- A loop in the world that the instructions handed out so far have made of `f` in other
surroundings. -/
def Run.moved (around : Surroundings σ) (f : σ) (r : Run σ κ α) : Run σ κ α :=
  { r with world := worldAfter around f r.handedOut }

variable {around around' : Surroundings σ} {f : σ}
  {regenerate regenerate' : Instructions → Nat → σ → σ}

/-- Handing out in a moved run is handing out in the run, moved: the log is the same, and only the
world is the other callback's. -/
theorem handOut_moved (given : around.regenerate? = some regenerate)
    (given' : around'.regenerate? = some regenerate') (made : Instructions) (r : Run σ κ α) :
    (r.moved around' f).handOut around' made = (r.handOut around made).moved around' f := by
  simp only [Run.handOut, Run.moved, given, given', worldAfter_append _ _ given']

/-- So is going on: instructions, cache and count of rounds do not look at the callback. -/
theorem goOn_moved (given : around.regenerate? = some regenerate)
    (given' : around'.regenerate? = some regenerate') (maxRounds : Nat) (clear : κ → κ)
    (made : Instructions) (r : Run σ κ α) :
    (r.moved around' f).goOn maxRounds around' clear made =
      (r.goOn maxRounds around clear made).moved around' f := by
  unfold Run.goOn
  dsimp only
  by_cases further : r.rounds.length < maxRounds
  · rw [if_pos further, if_pos (show (r.moved around' f).rounds.length < maxRounds from further)]
    exact handOut_moved given given' made { r with cache := clear r.cache }
  · rw [if_neg further, if_neg (show ¬ (r.moved around' f).rounds.length < maxRounds from further)]
    rfl

/-- Whether a loop is in the world that the instructions handed out so far have made of `f`. -/
def Run.IsAt (around : Surroundings σ) (f : σ) (r : Run σ κ α) : Prop :=
  r.world = worldAfter around f r.handedOut

/-- A run that goes on stands where its callback has led. -/
theorem Run.IsAt.goOn (given : around.regenerate? = some regenerate) {r : Run σ κ α}
    (here : r.IsAt around f) (maxRounds : Nat) (clear : κ → κ) (made : Instructions) :
    (r.goOn maxRounds around clear made).IsAt around f := by
  unfold Run.goOn
  dsimp only
  split
  · simp only [Run.handOut, given, Run.IsAt, worldAfter_append _ _ given]
    rw [← here]
  · exact here

variable [Scalar α] {settings : LoopSettings α} {assessor : Assessor σ κ α}

/-- A turn keeps a run where its callback has led. -/
theorem Run.IsAt.turn (given : around.regenerate? = some regenerate) {r r' : Run σ κ α}
    (here : r.IsAt around f) (turned : TurnTo settings around assessor r none r') :
    r'.IsAt around f := by
  cases turned with
  | further assessed recorded short measured moving =>
      subst recorded
      refine Run.IsAt.goOn given ?_ _ _ _
      exact here

/-- A turn in the one world is a turn in the other, if comparisons come out the same there. -/
theorem turn_moved (given : around.regenerate? = some regenerate)
    (given' : around'.regenerate? = some regenerate')
    (asking : around'.isCancelled = around.isCancelled)
    (same : ∀ calls cache, assessor.assess (worldAfter around' f calls) cache =
      assessor.assess (worldAfter around f calls) cache)
    {r : Run σ κ α} (here : r.IsAt around f) :
    Refine.turn settings around' assessor (r.moved around' f) =
      (Refine.turn settings around assessor r).map fun t => (t.1, t.2.moved around' f) := by
  have assessedSame : assessor.assess (r.moved around' f).world (r.moved around' f).cache =
      assessor.assess r.world r.cache := by
    rw [here]
    exact same r.handedOut r.cache
  unfold Refine.turn
  rw [assessedSame, asking]
  by_cases asked : around.isCancelled (r.rounds.length + 1) = true
  · rw [if_pos asked, if_pos (show around.isCancelled ((r.moved around' f).rounds.length + 1) = true
      from asked)]
    rfl
  · rw [if_neg asked, if_neg (show
      ¬ around.isCancelled ((r.moved around' f).rounds.length + 1) = true from asked)]
    cases assessor.assess r.world r.cache with
    | error failure => rfl
    | ok result =>
        obtain ⟨agreement, warnings, cache⟩ := result
        simp only [Bind.bind, Except.bind, pure, Except.pure]
        -- What ends a turn is told by the scores, which do not look at the world.
        have scores :
            ((r.moved around' f).record settings.strategy agreement warnings cache).scores =
              (r.record settings.strategy agreement warnings cache).scores := rfl
        rw [scores]
        by_cases reached : hasConverged settings
            (r.record settings.strategy agreement warnings cache).scores = true
        · rw [if_pos reached, if_pos reached]
          rfl
        · rw [if_neg reached, if_neg reached]
          cases measure settings (r.record settings.strategy agreement warnings cache).scores with
          | error failure => rfl
          | ok progress =>
              dsimp only
              cases progress.stuckReason? with
              | some reason => rfl
              | none =>
                  have moved := goOn_moved (f := f) given given' settings.maxRounds assessor.clear
                    (instructionsFor settings.strategy r.rounds.length agreement)
                    (r.record settings.strategy agreement warnings cache)
                  exact congrArg (fun s => Except.ok (none, s)) moved

/-- **A loop in the one world is a loop in the other, if comparisons come out the same there.** -/
theorem runFor_moved (given : around.regenerate? = some regenerate)
    (given' : around'.regenerate? = some regenerate')
    (asking : around'.isCancelled = around.isCancelled)
    (same : ∀ calls cache, assessor.assess (worldAfter around' f calls) cache =
      assessor.assess (worldAfter around f calls) cache)
    (turns : Nat) {r : Run σ κ α} (here : r.IsAt around f) :
    runFor settings around' assessor turns (r.moved around' f) =
      (runFor settings around assessor turns r).map fun e => (e.1, e.2.moved around' f) := by
  induction turns generalizing r with
  | zero => rfl
  | succ turns ih =>
      unfold runFor
      rw [turn_moved given given' asking same here]
      cases turned : Refine.turn settings around assessor r with
      | error failure => rfl
      | ok result =>
          obtain ⟨_ | ending, s⟩ := result
          · exact ih (here.turn given (turn_ok turned))
          · rfl

end Worlds

/-! ## Reports -/

/-- Every round compares what is there in its world with the reference as it was at the start. -/
theorem run_comparisons {α : Type} [Scalar α] {settings : Settings α} {around : Surroundings Folder}
    {f : Folder} {task : Task} {report : Report α} (h : run settings around f task = .ok report) :
    ∃ languages reference warnings, IsSetUp settings f task languages reference warnings ∧
      ∀ i round, report.outcome.rounds[i]? = some round → ∃ agreement,
        round.agreement? = some agreement ∧
          IsComparison settings task languages reference
            (worldAfter around f (report.handedOut.take i)) agreement := by
  obtain ⟨languages, reference, warnings, ending, r, setUp, ended, rfl⟩ := run_ok h
  exact ⟨languages, reference, warnings, setUp, ended.comparisons⟩

/-- What happens at a place that is clear of the implementations makes no difference. -/
theorem run_congr {α : Type} [Scalar α] {settings : Settings α}
    {around around' : Surroundings Folder} {f : Folder} {task : Task}
    {regenerate regenerate' : Instructions → Nat → Folder → Folder} {place : List String}
    (given : around.regenerate? = some regenerate)
    (given' : around'.regenerate? = some regenerate')
    (asking : around'.isCancelled = around.isCancelled)
    (clear : ∀ name ∈ task.languages, ∀ l, Language.resolve name = .ok l →
      Folder.ClearOf place (task.place l))
    (agree : ∀ calls, Folder.AgreeOutside place (worldAfter around f calls)
      (worldAfter around' f calls)) :
    run settings around f task = run settings around' f task := by
  unfold run
  cases sourceLanguage f task with
  | error failure => rfl
  | ok source =>
      cases hlanguages : task.languages.mapM Language.resolve with
      | error failure => rfl
      | ok languages =>
          have clearEach : ∀ l ∈ languages, Folder.ClearOf place (task.place l) := by
            intro l hl
            obtain ⟨name, hname, resolved⟩ := mapM_mem hlanguages hl
            exact clear name hname l resolved
          simp only [Bind.bind, Except.bind]
          cases f.analyze (readOptions settings) task.source (some source.tag) none with
          | error failure => rfl
          | ok result =>
              obtain ⟨reference, warnings⟩ := result
              dsimp only
              -- Both loops start in the same world, where nothing has been handed out yet.
              let start : Run Folder Cache α := { world := f, cache := { reference }, warnings }
              have here : start.IsAt around f := worldAfter_nil.symm
              have there : start.moved around' f = start := by
                simp only [start, Run.moved, worldAfter_nil]
              have carried : runFor settings.loop around' (assessor settings task languages)
                  settings.loop.maxRounds (start.moved around' f) =
                (runFor settings.loop around (assessor settings task languages)
                  settings.loop.maxRounds start).map fun e => (e.1, e.2.moved around' f) :=
                runFor_moved given given' asking
                  (fun calls cache => (assess_congr (agree calls) settings clearEach cache).symm)
                  _ here
              rw [there] at carried
              rw [carried]
              cases runFor settings.loop around (assessor settings task languages)
                settings.loop.maxRounds start with
              | error failure => rfl
              | ok result => rfl

/-- **The cache cannot be told from the report.**  Every round compares what is there in its world
with the reference as it was at the start.  And if two ways to act upon instructions leave the same
outside of a place that is clear of the implementations, the reports are the same. -/
theorem run_isTransparent {α : Type} [Scalar α] (settings : Settings α) (f : Folder) (task : Task) :
    (∀ around report, run settings around f task = .ok report →
      ∃ languages reference warnings, IsSetUp settings f task languages reference warnings ∧
        ∀ i round, report.outcome.rounds[i]? = some round → ∃ agreement,
          round.agreement? = some agreement ∧
            IsComparison settings task languages reference
              (worldAfter around f (report.handedOut.take i)) agreement) ∧
    ∀ isCancelled regenerate regenerate' place,
      (∀ name ∈ task.languages, ∀ l, Language.resolve name = .ok l →
        Folder.ClearOf place (task.place l)) →
      (∀ calls, Folder.AgreeOutside place
        (worldAfter ⟨isCancelled, some regenerate⟩ f calls)
        (worldAfter ⟨isCancelled, some regenerate'⟩ f calls)) →
      run settings ⟨isCancelled, some regenerate⟩ f task =
        run settings ⟨isCancelled, some regenerate'⟩ f task := by
  refine ⟨fun around report h => run_comparisons h, ?_⟩
  intro isCancelled regenerate regenerate' place clear agree
  exact run_congr rfl rfl rfl clear agree

/-- Upon any instructions, the implementation is made a copy of the project, and the reference is
removed. -/
def copyingAlone (made : Instructions) (round : Nat) (f : Folder) : Folder :=
  (copying made round f).remove ["ref"]

/-- Both leave the same entries beside the reference, and no file in its place. -/
theorem copying_agreeOutside (calls : List (Instructions × Nat)) {f g : Folder}
    (others : ∀ m, m ≠ "ref" → f.entry? m = g.entry? m) (hf : f.file? "ref" = none)
    (hg : g.file? "ref" = none) :
    Folder.AgreeOutside ["ref"] (calls.foldl (fun f call => copying call.1 call.2 f) f)
      (calls.foldl (fun f call => copyingAlone call.1 call.2 f) g) := by
  induction calls generalizing f g with
  | nil => exact Folder.agreeOutside_of_entries others hf hg
  | cons call calls ih =>
      rw [List.foldl_cons, List.foldl_cons]
      refine ih (fun m hm => ?_) ?_ ?_
      · rw [copyingAlone, Folder.entry?_remove_of_ne hm, copying, copying, Folder.entry?_put,
          Folder.entry?_put, others m hm]
      · unfold Folder.file? at hf ⊢
        rw [copying, Folder.entry?_put, if_neg (show ¬ (Entry.folder "go" oneType).name = "ref" by
          decide)]
        exact hf
      · unfold Folder.file?
        rw [copyingAlone, Folder.entry?_remove_self]

/-- Whether the reference is removed meanwhile makes no difference: the second round finds the copy,
and compares it with the reference as it was. -/
theorem run_isTransparent_copying : ∃ report,
    run Settings.usual ⟨fun _ => false, some copying⟩ referenceAlone smallTask = .ok report ∧
      run Settings.usual ⟨fun _ => false, some copyingAlone⟩ referenceAlone smallTask =
        .ok report ∧
      report.outcome.ending = .converged := by
  obtain ⟨-, isolated⟩ := run_isTransparent Settings.usual referenceAlone smallTask
  have same : run Settings.usual ⟨fun _ => false, some copying⟩ referenceAlone smallTask =
      run Settings.usual ⟨fun _ => false, some copyingAlone⟩ referenceAlone smallTask := by
    refine isolated (fun _ => false) copying copyingAlone ["ref"] ?_ fun calls => ?_
    · intro name hname l hl
      obtain rfl := List.mem_singleton.1 hname
      obtain rfl : Language.go = l := Except.ok.inj hl
      exact ⟨by decide +kernel, by decide +kernel⟩
    · exact copying_agreeOutside calls (fun _ _ => rfl) rfl rfl
  have evaluated : ((run Settings.usual ⟨fun _ => false, some copying⟩ referenceAlone
      smallTask).toOption.map (·.outcome.ending)) = some .converged := by decide +kernel
  obtain ⟨report, h, converged⟩ := ok_of_toOption_map evaluated
  exact ⟨report, h, same ▸ h, converged⟩

end Concord.Refine
