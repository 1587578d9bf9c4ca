import Mathlib.Data.List.Sort
import Concord.Proofs.Compare.Account
import Concord.Proofs.Refine.Task
import Concord.Proofs.Table

/-!
# Concord.Proofs.Refine.Languages

The languages of a task are a set.  In which order they are named, how often, and by which of their
names, cannot be told from the report of a run:

1. targets with different languages are compared alike in any order (`compare_perm`);
2. so two lists with the same languages are assessed alike in every world (`assess_alike`);
3. so two loops go in step, turn by turn (`turn_alike`, `runFor_alike`).

Two computations are *alike* if both fail in the same way, or both succeed with results that are
related.
-/

namespace Concord

/-! ## Two computations -/

/-- Whether two computations fail in the same way, or have related results. -/
inductive Alike {β γ : Type} (R : β → γ → Prop) : Except Failure β → Except Failure γ → Prop where
  | ok {b : β} {c : γ} (related : R b c) : Alike R (.ok b) (.ok c)
  | error (failure : Failure) : Alike R (.error failure) (.error failure)

namespace Alike

variable {β γ β' γ' : Type} {R : β → γ → Prop} {S : β' → γ' → Prop}

/-- An answer or a failure is like itself. -/
theorem refl (x : Except Failure β) : Alike (· = ·) x x := by
  cases x with
  | ok b => exact .ok rfl
  | error failure => exact .error failure

/-- Steps that are like each other, on what is like each other, are like each other. -/
theorem bind {x : Except Failure β} {y : Except Failure γ} (h : Alike R x y)
    {f : β → Except Failure β'} {g : γ → Except Failure γ'}
    (next : ∀ b c, R b c → Alike S (f b) (g c)) : Alike S (x >>= f) (y >>= g) := by
  cases h with
  | ok related => exact next _ _ related
  | error failure => exact .error failure

end Alike

/-! ## Targets -/

namespace Compare

/-- **The order of targets makes no difference, if their languages are different.** -/
theorem compare_perm {α : Type} [Scalar α] (settings : ComparisonSettings α) (scorers : Scorers α)
    (reference : Outline) {targets targets' : List (String × Outline)}
    (perm : targets.Perm targets') (distinct : (targets.map (·.1)).Nodup) :
    compare settings scorers reference targets = compare settings scorers reference targets' := by
  have sorted : sortTargets targets = sortTargets targets' := by
    refine List.Perm.eq_of_pairwise ?_ (pairwise_sortTargets targets)
      (pairwise_sortTargets targets')
      (((perm_sortTargets targets).trans perm).trans (perm_sortTargets targets').symm)
    intro a b ha hb hab hba
    rw [(perm_sortTargets targets).mem_iff] at ha
    rw [(perm_sortTargets targets').mem_iff, ← perm.mem_iff] at hb
    exact List.inj_on_of_nodup_map distinct ha hb (String.le_antisymm hab hba)
  simp only [compare, sorted]

end Compare

namespace Refine

/-! ## One comparison -/

section Comparison

variable {options : Folder.ReadOptions} {f : Folder} {path : String} {language : Language}

/-- There is at most one outline of an implementation. -/
theorem IsReading.unique {outline outline' : Outline}
    (h : IsReading options f path language outline)
    (h' : IsReading options f path language outline') : outline = outline' := by
  unfold IsReading at h h'
  cases there : f.project? path with
  | none =>
    rw [there] at h h'
    exact h.trans h'.symm
  | some found =>
    rw [there] at h h'
    obtain ⟨warnings, analyzed⟩ := h
    obtain ⟨warnings', analyzed'⟩ := h'
    exact (Prod.mk.inj (Except.ok.inj (analyzed.symm.trans analyzed'))).1

/-- An implementation is read in the way that it may be read. -/
theorem readImplementation_of_isReading {outline : Outline}
    (h : IsReading options f path language outline) :
    ∃ warnings, readImplementation options f path language = .ok (outline, warnings) := by
  unfold IsReading at h
  unfold readImplementation
  cases there : f.project? path with
  | none =>
    rw [there] at h
    exact ⟨_, by rw [show outline = missingImplementation path language from h]⟩
  | some found =>
    rw [there] at h
    obtain ⟨warnings, analyzed⟩ := h
    exact ⟨warnings, by rw [analyzed]⟩

/-- A pass over implementations that can be read succeeds. -/
theorem visits_of_isReading {task : Task} {languages : List Language}
    (readable : ∀ l ∈ languages, ∃ outline, IsReading options f (task.place l) l outline)
    (p : Pass) : ∃ p', languages.foldlM (Pass.visit options f task) p = .ok p' := by
  induction languages generalizing p with
  | nil => exact ⟨p, rfl⟩
  | cons l languages ih =>
    obtain ⟨⟨outline, hl⟩, rest⟩ := List.forall_mem_cons.1 readable
    obtain ⟨q, first⟩ : ∃ q, p.visit options f task l = .ok q := by
      unfold Pass.visit
      cases p.cache.implementations.lookup l with
      | some kept => exact ⟨_, rfl⟩
      | none =>
        obtain ⟨warnings, read⟩ := readImplementation_of_isReading hl
        exact ⟨_, by rw [read]; rfl⟩
    rw [List.foldlM_cons, first]
    exact ih rest q

variable {α : Type} [Scalar α] {settings : Settings α} {task : Task}
  {languages languages' : List Language}

/-- A comparison succeeds exactly if all implementations can be read. -/
theorem assess_succeeds_iff (reference : Outline) :
    (∃ result, (assessor settings task languages).assess f { reference } = .ok result) ↔
      ∀ l ∈ languages, ∃ outline,
        IsReading (readOptions settings) f (task.place l) l outline := by
  constructor
  · rintro ⟨result, assessed⟩
    obtain ⟨⟨outline, reading, -⟩, -⟩ := assess_ok rfl assessed
    exact fun l hl => ⟨outline l, reading l hl⟩
  · intro readable
    obtain ⟨p, visited⟩ := visits_of_isReading readable { cache := { reference } }
    refine ⟨(Compare.compare settings.comparison .full p.cache.reference p.outlines, p.warnings,
      p.cache), ?_⟩
    unfold assessor
    dsimp only
    rw [visited]
    rfl

/-- The distinct languages depend on which languages are named only, up to order. -/
theorem perm_distinct (same : ∀ l, l ∈ languages ↔ l ∈ languages') :
    (distinct languages).Perm (distinct languages') := by
  rw [List.perm_ext_iff_of_nodup (nodup_distinct languages) (nodup_distinct languages')]
  intro l
  rw [mem_distinct, mem_distinct, same]

/-- The tags of different languages are different. -/
theorem nodup_tags {β : Type} (languages : List Language) (value : Language → β) :
    (((distinct languages).map fun l => (l.tag, value l)).map (·.1)).Nodup := by
  rw [List.map_map]
  exact (nodup_distinct languages).map fun _ _ => tag_injective

/-- **What is compared depends on no more than the set of the languages.** -/
theorem IsComparison.unique {reference : Outline} {agreement agreement' : Agreement α}
    (same : ∀ l, l ∈ languages ↔ l ∈ languages')
    (h : IsComparison settings task languages reference f agreement)
    (h' : IsComparison settings task languages' reference f agreement') :
    agreement = agreement' := by
  obtain ⟨outline, reading, rfl⟩ := h
  obtain ⟨outline', reading', rfl⟩ := h'
  have outlines : ((distinct languages').map fun l => (l.tag, outline l)) =
      (distinct languages').map fun l => (l.tag, outline' l) := by
    refine List.map_congr_left fun l hl => ?_
    have hl' := mem_distinct.1 hl
    rw [(reading l ((same l).2 hl')).unique (reading' l hl')]
  rw [← outlines]
  exact Compare.compare_perm _ _ _ ((perm_distinct same).map _) (nodup_tags languages outline)

end Comparison

/-! ## Two loops -/

section Loops

variable {σ κ α : Type}

/-- Whether two loops differ in what comparisons have kept and in the warnings alone. -/
def Run.IsLike (r r' : Run σ κ α) : Prop := ∃ cache warnings, r' = { r with cache, warnings }

/-- Whether two loops that are alike have both kept `cache`. -/
structure Run.InStep (cache : κ) (r r' : Run σ κ α) : Prop where
  isLike : r.IsLike r'
  kept : r.cache = cache
  kept' : r'.cache = cache

variable {settings : LoopSettings α} {around : Surroundings σ} {cache : κ}

/-- Runs in step stay in step when they go on, if both clear the cache to the same. -/
theorem goOn_inStep (around : Surroundings σ) (maxRounds : Nat) {clear clear' : κ → κ}
    (made : Instructions) {r r' : Run σ κ α} (like : r.IsLike r')
    (cleared : clear r.cache = cache) (cleared' : clear' r'.cache = cache) :
    Run.InStep cache (r.goOn maxRounds around clear made)
      (r'.goOn maxRounds around clear' made) := by
  refine ⟨?_, by rw [cache_goOn, cleared], by rw [cache_goOn, cleared']⟩
  obtain ⟨kept, warnings, rfl⟩ := like
  unfold Run.goOn Run.handOut
  dsimp only
  split
  · split <;> exact ⟨_, _, rfl⟩
  · exact ⟨_, _, rfl⟩

variable [Scalar α] {assessor assessor' : Assessor σ κ α}

/-- Whether two turns lead to the same end and to loops that are alike, in step if they go on. -/
structure SameTurn (cache : κ) (t t' : Option Ending × Run σ κ α) : Prop where
  ending : t.1 = t'.1
  isLike : t.2.IsLike t'.2
  inStep : t.1 = none → t.2.InStep cache t'.2

/-- Whether two assessments say the same, and leave `cache` when what they have kept is cleared. -/
structure SameAssessment (assessor assessor' : Assessor σ κ α) (cache : κ)
    (a a' : Agreement α × List String × κ) : Prop where
  agreement : a.1 = a'.1
  cleared : assessor.clear a.2.2 = cache
  cleared' : assessor'.clear a'.2.2 = cache

/-- **Two loops in step take their next turns alike, if comparisons come out alike.** -/
theorem turn_alike
    (assessed : ∀ world, Alike (SameAssessment assessor assessor' cache)
      (assessor.assess world cache) (assessor'.assess world cache))
    {r r' : Run σ κ α} (h : r.InStep cache r') :
    Alike (SameTurn cache) (turn settings around assessor r)
      (turn settings around assessor' r') := by
  obtain ⟨⟨cache₀, warnings, rfl⟩, kept, rfl⟩ := h
  unfold turn
  dsimp only
  by_cases asked : around.isCancelled (r.rounds.length + 1) = true
  · rw [if_pos asked, if_pos asked]
    exact .ok ⟨rfl, ⟨_, _, rfl⟩, nofun⟩
  · rw [if_neg asked, if_neg asked, kept]
    refine (assessed r.world).bind ?_
    rintro ⟨agreement, own, left⟩ ⟨agreement', own', left'⟩ ⟨rfl, cleared, cleared'⟩
    dsimp only
    -- from here on nothing looks at what is kept or at the warnings, until the cache is cleared
    have like : (r.record settings.strategy agreement own left).IsLike
        (Run.record settings.strategy agreement own' left'
          { r with cache := cache₀, warnings }) := ⟨_, _, rfl⟩
    have scores : (Run.record settings.strategy agreement own' left'
          { r with cache := cache₀, warnings }).scores =
        (r.record settings.strategy agreement own left).scores := rfl
    rw [scores]
    by_cases reached : hasConverged settings
        (r.record settings.strategy agreement own left).scores = true
    · rw [if_pos reached, if_pos reached]
      exact .ok ⟨rfl, ⟨_, _, rfl⟩, nofun⟩
    · rw [if_neg reached, if_neg reached]
      refine (Alike.refl (measure settings
        (r.record settings.strategy agreement own left).scores)).bind ?_
      rintro progress _ rfl
      cases progress.stuckReason? with
      | some reason => exact .ok ⟨rfl, ⟨_, _, rfl⟩, nofun⟩
      | none =>
        have next := goOn_inStep around settings.maxRounds
          (instructionsFor settings.strategy r.rounds.length agreement) like cleared cleared'
        exact .ok ⟨rfl, next.isLike, fun _ => next⟩

/-- Whether two loops have ended in the same way, and are alike. -/
structure SameEnd (e e' : Ending × Run σ κ α) : Prop where
  ending : e.1 = e'.1
  isLike : e.2.IsLike e'.2

/-- **So they come to the same end.** -/
theorem runFor_alike
    (assessed : ∀ world, Alike (SameAssessment assessor assessor' cache)
      (assessor.assess world cache) (assessor'.assess world cache))
    (turns : Nat) {r r' : Run σ κ α} (h : r.InStep cache r') :
    Alike SameEnd (runFor settings around assessor turns r)
      (runFor settings around assessor' turns r') := by
  induction turns generalizing r r' with
  | zero => exact .ok ⟨rfl, h.isLike⟩
  | succ turns ih =>
    unfold runFor
    refine (turn_alike assessed h).bind ?_
    rintro ⟨ending?, s⟩ ⟨_, s'⟩ ⟨rfl, isLike, inStep⟩
    cases ending? with
    | some ending => exact .ok ⟨rfl, isLike⟩
    | none => exact ih (inStep rfl)

end Loops

/-! ## Two runs -/

section Runs

variable {α : Type} [Scalar α] {settings : Settings α} {task : Task}
  {languages languages' : List Language}

/-- **Two lists of the same languages are assessed alike.** -/
theorem assess_alike (same : ∀ l, l ∈ languages ↔ l ∈ languages') (reference : Outline)
    (f : Folder) :
    Alike (SameAssessment (assessor settings task languages) (assessor settings task languages')
        { reference })
      ((assessor settings task languages).assess f { reference })
      ((assessor settings task languages').assess f { reference }) := by
  have succeeds : (∃ a, (assessor settings task languages).assess f { reference } = .ok a) ↔
      ∃ b, (assessor settings task languages').assess f { reference } = .ok b := by
    simp only [assess_succeeds_iff, same]
  cases first : (assessor settings task languages).assess f { reference } with
  | ok a =>
    obtain ⟨b, second⟩ := succeeds.1 ⟨a, first⟩
    obtain ⟨compared, kept⟩ := assess_ok rfl first
    obtain ⟨compared', kept'⟩ := assess_ok rfl second
    rw [second]
    refine .ok ⟨IsComparison.unique same compared compared', ?_, ?_⟩
    · change Cache.clear a.2.2 = { reference }
      rw [Cache.clear, kept]
    · change Cache.clear b.2.2 = { reference }
      rw [Cache.clear, kept']
  | error failure =>
    cases second : (assessor settings task languages').assess f { reference } with
    | ok b =>
      obtain ⟨a, succeeded⟩ := succeeds.2 ⟨b, second⟩
      rw [first] at succeeded
      contradiction
    | error failure' =>
      -- which implementation fails first depends on the order, but all fail in one way
      rw [assess_error first, assess_error second]
      exact .error _

/-- Whether two reports are the same but for warnings and for the order in which projects are listed
under their tags. -/
structure SameReport (report report' : Report α) : Prop where
  outcome : report'.outcome = { report.outcome with projects := report'.outcome.projects }
  projects : report.outcome.projects.Perm report'.outcome.projects
  project : ∀ tag, report.outcome.projects.lookup tag = report'.outcome.projects.lookup tag
  handedOut : report'.handedOut = report.handedOut

/-- Runs that are like each other have the same report, in whatever order projects stand. -/
theorem sameReport_of_isLike {σ κ : Type} {ending : Ending} {r r' : Run σ κ α}
    (like : r.IsLike r') {projects projects' : List (String × String)}
    (perm : projects.Perm projects') (different : (projects.map (·.1)).Nodup)
    (spec? : Option String) :
    SameReport ⟨outcomeOf projects spec? ending r, r.handedOut, r.warnings⟩
      ⟨outcomeOf projects' spec? ending r', r'.handedOut, r'.warnings⟩ := by
  obtain ⟨_, _, rfl⟩ := like
  refine ⟨rfl, ?_, fun tag => ?_, rfl⟩
  · unfold outcomeOf
    dsimp only
    split
    · exact .nil
    · exact perm
  · unfold outcomeOf
    dsimp only
    split
    · rfl
    · exact lookup_eq_of_perm perm different tag

/-- A list of names that are all supported stands for a list of languages. -/
theorem mapM_resolve {names : List String}
    (supported : ∀ name ∈ names, ∃ l, Language.resolve name = .ok l) :
    ∃ languages, names.mapM Language.resolve = .ok languages ∧
      ∀ l, l ∈ languages ↔ ∃ name ∈ names, Language.resolve name = .ok l := by
  induction names with
  | nil => exact ⟨[], rfl, by simp⟩
  | cons name names ih =>
    obtain ⟨⟨l, first⟩, rest⟩ := List.forall_mem_cons.1 supported
    obtain ⟨languages, resolved, mem_iff⟩ := ih rest
    refine ⟨l :: languages, ?_, fun k => ?_⟩
    · rw [List.mapM_cons, first, resolved]
      rfl
    · rw [List.mem_cons, mem_iff]
      simp [first, eq_comm]

/-- Two runs on lists of the same languages are alike. -/
theorem run_alike (settings : Settings α) (around : Surroundings Folder) (f : Folder) (task : Task)
    {names : List String} (resolved : task.languages.mapM Language.resolve = .ok languages)
    (resolved' : names.mapM Language.resolve = .ok languages')
    (same : ∀ l, l ∈ languages ↔ l ∈ languages') :
    Alike SameReport (run settings around f task)
      (run settings around f { task with languages := names }) := by
  unfold run
  refine (Alike.refl (sourceLanguage f task)).bind ?_
  rintro source _ rfl
  rw [resolved, resolved']
  refine (Alike.refl (f.analyze (readOptions settings) task.source (some source.tag) none)).bind ?_
  rintro ⟨reference, warnings⟩ _ rfl
  have start : Run.InStep { reference : Cache }
    { world := f, cache := { reference }, warnings : Run Folder Cache α }
    { world := f, cache := { reference }, warnings } := ⟨⟨_, _, rfl⟩, rfl, rfl⟩
  refine (runFor_alike (assess_alike same reference) _ start).bind ?_
  rintro ⟨ending, r⟩ ⟨_, r'⟩ ⟨rfl, like⟩
  exact .ok (sameReport_of_isLike like ((perm_distinct same).map _)
    (nodup_tags languages task.place) task.spec?)

/-- **The languages of a task are a set.**  If two lists of supported names stand for the same
languages, in any order, number and spelling, then runs on them fail in the same way or give the
same report, with the same directory under each tag. -/
theorem run_alike_of_same_languages (settings : Settings α) (around : Surroundings Folder)
    (f : Folder) (task : Task) (names : List String)
    (supported : ∀ name ∈ task.languages, ∃ l, Language.resolve name = .ok l)
    (supported' : ∀ name ∈ names, ∃ l, Language.resolve name = .ok l)
    (same : ∀ l, (∃ name ∈ task.languages, Language.resolve name = .ok l) ↔
      ∃ name ∈ names, Language.resolve name = .ok l) :
    Alike SameReport (run settings around f task)
      (run settings around f { task with languages := names }) := by
  obtain ⟨languages, resolved, mem_iff⟩ := mapM_resolve supported
  obtain ⟨languages', resolved', mem_iff'⟩ := mapM_resolve supported'
  exact run_alike settings around f task resolved resolved' fun l => by
    rw [mem_iff, mem_iff', same]

end Runs

/-- Names of one language. -/
def namesOfGo : List String := ["golang", "go", " GO "]

/-- Every name of Go resolves to it. -/
theorem resolve_namesOfGo : ∀ name ∈ "go" :: namesOfGo, Language.resolve name = .ok .go := by
  rw [namesOfGo]
  simp only [List.forall_mem_cons]
  exact ⟨by decide +kernel, by decide +kernel, by decide +kernel, by decide +kernel, nofun⟩

/-- Naming the language of the small task three times over makes no difference. -/
theorem run_alike_of_same_languages_namesOfGo : ∃ report report',
    run Settings.usual { regenerate? := some copying } referenceAlone smallTask = .ok report ∧
      run Settings.usual { regenerate? := some copying } referenceAlone
        { smallTask with languages := namesOfGo } = .ok report' ∧
      SameReport report report' ∧ report'.outcome.ending = .converged := by
  have evaluated : ((run Settings.usual { regenerate? := some copying } referenceAlone
      smallTask).toOption.map (·.outcome.ending)) = some .converged := by decide +kernel
  obtain ⟨report, h, converged⟩ := ok_of_toOption_map evaluated
  obtain ⟨resolve, resolveAll⟩ := List.forall_mem_cons.1 resolve_namesOfGo
  have same (l : Language) :
      (∃ name ∈ smallTask.languages, Language.resolve name = .ok l) ↔
        ∃ name ∈ namesOfGo, Language.resolve name = .ok l := by
    constructor
    · rintro ⟨name, hname, hl⟩
      exact ⟨"go", by decide, List.mem_singleton.1 hname ▸ hl⟩
    · rintro ⟨name, hname, hl⟩
      rw [resolveAll name hname] at hl
      exact ⟨"go", by decide, resolve.trans hl⟩
  have alike := run_alike_of_same_languages Settings.usual { regenerate? := some copying }
    referenceAlone smallTask namesOfGo
    (fun name hname => ⟨.go, List.mem_singleton.1 hname ▸ resolve⟩)
    (fun name hname => ⟨.go, resolveAll name hname⟩) same
  rw [h] at alike
  generalize hrun : run Settings.usual { regenerate? := some copying } referenceAlone
    { smallTask with languages := namesOfGo } = other at alike
  cases alike with
  | ok related => exact ⟨report, _, h, rfl, related, by rw [related.outcome]; exact converged⟩

end Refine
end Concord
