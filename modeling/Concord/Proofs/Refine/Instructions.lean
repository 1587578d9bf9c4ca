import Concord.Proofs.Compare.Account
import Concord.Proofs.Refine.Task
import Concord.Proofs.Table

/-!
# Concord.Proofs.Refine.Instructions

No gap is lost on the way from a comparison to the instructions.  The gaps that a comparison finds
are *actionable* (`isActionable_of_mem_gaps`): each is in functions or types, in a language, and of
a missing item exactly if it names no counterpart.  Such a gap gives one change of the specification
and one change of code, so that instructions *cover* gaps (`instructions_covers`):

1. if the specification is changed, there is a change for each gap, in the order of the gaps;
2. if code is changed, there is a change under the language of each gap, for each language in the
   order of its gaps, and no other language is mentioned;
3. whatever is not changed in a phase is left out.

As no strategy changes both at once (`phaseOf_ne_both`), a round counts as many changes as gaps.
-/

namespace Concord

/-- Whether something can be done about a gap. -/
structure Gap.IsActionable (gap : Gap) : Prop where
  dimension : gap.dimension = .behavioral ∨ gap.dimension = .type
  language : gap.language ≠ ""
  missing_iff : gap.kind = .missing ↔ gap.counterpart? = none

namespace Refine

/-- Whether a change of the specification is the one for a gap. -/
structure IsSpecChange (gap : Gap) (change : SpecChange) : Prop where
  sectionName : sectionOf? gap.dimension = some change.sectionName
  action : change.action = "add" ∨ change.action = "modify"
  add_iff : change.action = "add" ↔ gap.counterpart? = none
  element : change.element = gap.source.name
  description : change.description = gap.discrepancy
  suggestion : change.suggestion = gap.suggestedFix

/-- Whether a change of code is the one for a gap. -/
structure IsCodeChange (gap : Gap) (change : CodeChange) : Prop where
  elementType : elementTypeOf? gap.dimension = some change.elementType
  action : change.action = "add" ∨ change.action = "modify"
  add_iff : change.action = "add" ↔ gap.counterpart? = none
  element : change.element = gap.source.name
  description : change.description = gap.discrepancy
  source : change.source = gap.source.location
  file : change.file = (gap.counterpart?.map (·.location)).getD ""

/-- Whether instructions in a phase have a change for every gap, and no others. -/
structure Covers (gaps : List Gap) (phase : Phase) (made : Instructions) : Prop where
  spec : phase ≠ .code → List.Forall₂ IsSpecChange gaps made.spec
  noSpec : phase = .code → made.spec = []
  code : phase ≠ .spec → ∀ language, List.Forall₂ IsCodeChange
    (gaps.filter (·.language == language)) ((made.code.lookup language).getD [])
  languages : phase ≠ .spec → FirstSeen (gaps.map (·.language)) (made.code.map (·.1))
  noCode : phase = .spec → made.code = []

/-! ## One gap -/

section Gaps

variable {gap : Gap}

/-- A gap is closed by adding or by modifying. -/
theorem actionFor_eq_or (gap : Gap) : actionFor gap = "add" ∨ actionFor gap = "modify" := by
  unfold actionFor
  split
  · exact Or.inl rfl
  · exact Or.inr rfl

/-- It is closed by adding exactly if there is no counterpart. -/
theorem actionFor_eq_add_iff (h : gap.IsActionable) :
    actionFor gap = "add" ↔ gap.counterpart? = none := by
  rw [← h.missing_iff]
  unfold actionFor
  by_cases missing : gap.kind = .missing
  · simp [missing]
  · simp [missing]

/-- Every actionable gap gives a change of the specification. -/
theorem exists_specChange (h : gap.IsActionable) :
    ∃ change, specChange? gap = some change ∧ IsSpecChange gap change := by
  have action := actionFor_eq_or gap
  have add_iff := actionFor_eq_add_iff h
  obtain ⟨name, hname⟩ : ∃ name, sectionOf? gap.dimension = some name := by
    rcases h.dimension with hd | hd <;> exact ⟨_, by rw [hd]; rfl⟩
  have nonstructural : ¬ (gap.dimension == .structural) = true := by
    rcases h.dimension with hd | hd <;> simp [hd]
  have chosen : (if gap.dimension == .structural then "modify" else actionFor gap) =
      actionFor gap := if_neg nonstructural
  rw [← chosen] at action add_iff
  refine ⟨_, by rw [specChange?, hname]; rfl, ?_⟩
  exact
    { sectionName := hname, action, add_iff
      element := rfl, description := rfl, suggestion := rfl }

/-- Every actionable gap gives a change of code in its language. -/
theorem exists_codeChange (h : gap.IsActionable) :
    ∃ change, codeChange? gap = some change ∧ gap.language = change.1 ∧
      IsCodeChange gap change.2 := by
  obtain ⟨elementType, helementType⟩ : ∃ elementType,
      elementTypeOf? gap.dimension = some elementType := by
    rcases h.dimension with hd | hd <;> exact ⟨_, by rw [hd]; rfl⟩
  have named : ¬ gap.language.isEmpty = true := by simpa using h.language
  refine ⟨_, by rw [codeChange?, if_neg named, helementType]; rfl, rfl, ?_⟩
  exact
    { elementType := helementType, action := actionFor_eq_or gap
      add_iff := actionFor_eq_add_iff h, element := rfl, description := rfl, source := rfl
      file := rfl }

end Gaps

/-! ## Grouping by language -/

/-- Grouping is the filling of a table. -/
theorem addChange_eq_alter :
    addChange = fun table c => alter [] c.1 (· ++ [c.2]) table := by
  funext table c
  induction table with
  | nil => rfl
  | cons entry rest ih => rw [addChange, alter, ih]

/-- Each language of the changes has one entry, in the order of first occurrence. -/
theorem firstSeen_foldl_addChange (changes : List (String × CodeChange)) :
    FirstSeen (changes.map (·.1)) ((changes.foldl addChange []).map (·.1)) := by
  rw [addChange_eq_alter]
  exact firstSeen_keys_foldl_alter [] (·.1) (fun c own => own ++ [c.2]) changes

/-- **Under each language are its changes, in order.** -/
theorem lookup_foldl_addChange (changes : List (String × CodeChange)) (language : String) :
    ((changes.foldl addChange []).lookup language).getD [] =
      (changes.filter (·.1 == language)).map (·.2) := by
  rw [addChange_eq_alter]
  refine (lookup_foldl_alter [] (·.1) (fun c own => own ++ [c.2]) changes language).trans ?_
  rw [List.map_eq_flatMap, List.flatMap_eq_foldl]

/-- One more change makes the changes of all files one more. -/
theorem sum_addChange (table : List (String × List CodeChange)) (c : String × CodeChange) :
    ((addChange table c).map (·.2.length)).sum = (table.map (·.2.length)).sum + 1 := by
  induction table with
  | nil => rfl
  | cons entry rest ih =>
    rw [addChange]
    split
    · simp
      omega
    · simp [ih]
      omega

/-- No change is lost in grouping. -/
theorem sum_foldl_addChange (changes : List (String × CodeChange))
    (table : List (String × List CodeChange)) :
    ((changes.foldl addChange table).map (·.2.length)).sum =
      (table.map (·.2.length)).sum + changes.length := by
  induction changes generalizing table with
  | nil => rfl
  | cons c changes ih =>
    rw [List.foldl_cons, ih, sum_addChange, List.length_cons]
    omega

/-! ## All gaps -/

theorem changesSpec_iff (phase : Phase) : phase.changesSpec = true ↔ phase ≠ .code := by
  cases phase <;> decide

theorem changesCode_iff (phase : Phase) : phase.changesCode = true ↔ phase ≠ .spec := by
  cases phase <;> decide

/-- Items that are all reported are related to their reports in order. -/
theorem forall₂_filterMap {ι ρ : Type} {R : ι → ρ → Prop} {report : ι → Option ρ} {items : List ι}
    (h : ∀ i ∈ items, ∃ r, report i = some r ∧ R i r) :
    List.Forall₂ R items (items.filterMap report) := by
  induction items with
  | nil => exact .nil
  | cons i items ih =>
    obtain ⟨first, rest⟩ := List.forall_mem_cons.1 h
    obtain ⟨r, hr, related⟩ := first
    rw [List.filterMap_cons_some hr]
    exact .cons related (ih rest)

/-- The instructions change the spec gap by gap, in the phases that change it. -/
theorem spec_instructions (gaps : List Gap) (phase : Phase) :
    (instructions gaps phase).spec =
      if phase.changesSpec then gaps.filterMap specChange? else [] := by
  cases gaps with
  | nil => simp [instructions]
  | cons gap gaps => rfl

/-- The instructions change the code file by file, in the phases that change it. -/
theorem code_instructions (gaps : List Gap) (phase : Phase) :
    (instructions gaps phase).code =
      if phase.changesCode then (gaps.filterMap codeChange?).foldl addChange [] else [] := by
  cases gaps with
  | nil => simp [instructions]
  | cons gap gaps => rfl

/-- **Instructions cover all gaps about which something can be done.** -/
theorem instructions_covers {gaps : List Gap} (actionable : ∀ gap ∈ gaps, gap.IsActionable)
    (phase : Phase) : Covers gaps phase (instructions gaps phase) := by
  have onSpec : List.Forall₂ IsSpecChange gaps (gaps.filterMap specChange?) :=
    forall₂_filterMap fun gap hgap => exists_specChange (actionable gap hgap)
  have onCode : List.Forall₂ (fun gap c => gap.language = c.1 ∧ IsCodeChange gap c.2) gaps
      (gaps.filterMap codeChange?) :=
    forall₂_filterMap fun gap hgap => exists_codeChange (actionable gap hgap)
  constructor
  · intro hphase
    rw [spec_instructions, if_pos ((changesSpec_iff phase).2 hphase)]
    exact onSpec
  · rintro rfl
    rw [spec_instructions]
    rfl
  · intro hphase language
    rw [code_instructions, if_pos ((changesCode_iff phase).2 hphase),
      lookup_foldl_addChange, List.forall₂_map_right_iff]
    -- gaps and changes stand side by side, and keep doing so when other languages are left out
    have own := List.rel_filter (p := (·.language == language)) (q := (·.1 == language))
      (fun gap c h => by simp only [h.1]) onCode
    exact own.imp fun gap c h => h.2
  · intro hphase
    rw [code_instructions, if_pos ((changesCode_iff phase).2 hphase)]
    have languages : gaps.map (·.language) = (gaps.filterMap codeChange?).map (·.1) := by
      rw [← List.forall₂_eq_eq_eq, List.forall₂_map_left_iff, List.forall₂_map_right_iff]
      exact onCode.imp fun gap c h => h.1
    rw [languages]
    exact firstSeen_foldl_addChange _
  · rintro rfl
    rw [code_instructions]
    rfl

/-- **In a phase that does not change both at once there are as many changes as gaps.** -/
theorem count_instructions {gaps : List Gap} (actionable : ∀ gap ∈ gaps, gap.IsActionable)
    {phase : Phase} (one : phase ≠ .both) : (instructions gaps phase).count = gaps.length := by
  have covers := instructions_covers actionable phase
  unfold Instructions.count Instructions.codeCount
  cases phase with
  | both => contradiction
  | spec =>
    rw [covers.noCode rfl, ← (covers.spec (by decide)).length_eq]
    rfl
  | code =>
    have onCode := forall₂_filterMap fun gap hgap => exists_codeChange (actionable gap hgap)
    have code : (instructions gaps .code).code =
        (gaps.filterMap codeChange?).foldl addChange [] := code_instructions gaps .code
    rw [covers.noSpec rfl, code, sum_foldl_addChange, ← onCode.length_eq]
    simp

/-! ## The gaps of a comparison -/

open Compare

/-- The gap of a missing item can be acted on. -/
theorem isActionable_of_isMissingGap {dimension : Dimension} {language : String} {source : Item}
    {gap : Gap} (h : IsMissingGap dimension language source gap)
    (known : dimension = .behavioral ∨ dimension = .type) (named : language ≠ "") :
    gap.IsActionable where
  dimension := h.dimension ▸ known
  language := h.language ▸ named
  missing_iff := iff_of_true h.kind h.counterpart

/-- The gap of a differing item can be acted on. -/
theorem isActionable_of_isMismatchGap {dimension : Dimension} {language : String}
    {source counterpart : Item} {differences : List String} {gap : Gap}
    (h : IsMismatchGap dimension language source counterpart differences gap)
    (known : dimension = .behavioral ∨ dimension = .type) (named : language ≠ "") :
    gap.IsActionable where
  dimension := h.dimension ▸ known
  language := h.language ▸ named
  missing_iff := iff_of_false (by simp [h.kind]) (by simp [h.counterpart])

/-- **Every gap that a comparison finds is actionable, if all languages have names.** -/
theorem isActionable_of_mem_gaps {α : Type} [Scalar α] {settings : ComparisonSettings α}
    {scorers : Scorers α} {reference : Outline} {targets : List (String × Outline)}
    (named : ∀ t ∈ targets, t.1 ≠ "") :
    ∀ gap ∈ (compare settings scorers reference targets).gaps, gap.IsActionable := by
  intro gap hgap
  rw [gaps_compare, List.mem_flatMap] at hgap
  obtain ⟨t, ht, hgap⟩ := hgap
  have ht' : t.1 ≠ "" := named t ((perm_sortTargets targets).mem_iff.1 ht)
  have accounted := shareOf_isAccounted settings scorers reference t.1 t.2
  rw [gaps_shareOf, List.mem_append] at hgap
  rcases hgap with hgap | hgap
  · rcases accounted.functions.of_mem_gaps gap hgap with ⟨_, missing⟩ | ⟨_, _, _, mismatch⟩
    · exact isActionable_of_isMissingGap missing (.inl rfl) ht'
    · exact isActionable_of_isMismatchGap mismatch (.inl rfl) ht'
  · rcases accounted.types.of_mem_gaps gap hgap with ⟨_, missing⟩ | ⟨_, _, _, mismatch⟩
    · exact isActionable_of_isMissingGap missing (.inr rfl) ht'
    · exact isActionable_of_isMismatchGap mismatch (.inr rfl) ht'

/-! ## Runs -/

/-- The phase of a round is never both. -/
theorem phaseOf_ne_both (strategy : Strategy) (round : Int) (gaps : List Gap) :
    phaseOf strategy round gaps ≠ .both := by
  cases strategy <;> simp only [phaseOf] <;> split <;> simp

theorem tag_ne_empty (l : Language) : l.tag ≠ "" := by
  cases l <;> decide

section Runs

variable {α : Type} [Scalar α] {settings : Settings α} {around : Surroundings Folder} {f : Folder}
  {task : Task} {languages : List Language} {reference : Outline}

/-- A round behind a comparison counts as many changes as gaps. -/
theorem changeCount_roundBehind {agreement : Agreement α} {world : Folder}
    (h : IsComparison settings task languages reference world agreement) (strategy : Strategy)
    (rounds : List (Round α)) :
    (roundBehind strategy rounds agreement).changeCount =
      (roundBehind strategy rounds agreement).gapCount := by
  obtain ⟨outline, -, rfl⟩ := h
  have named : ∀ t ∈ (distinct languages).map fun l => (l.tag, outline l), t.1 ≠ "" := by
    intro t ht
    obtain ⟨l, -, rfl⟩ := List.mem_map.1 ht
    exact tag_ne_empty l
  exact count_instructions (isActionable_of_mem_gaps named) (phaseOf_ne_both _ _ _)

/-- The rounds of a loop that has ended count as many changes as gaps. -/
theorem EndsBy.changeCount_eq_gapCount {ending : Ending} {r : Run Folder Cache α}
    (h : EndsBy settings.loop around f (IsComparison settings task languages reference) ending r) :
    ∀ round ∈ r.rounds, round.changeCount = round.gapCount := by
  obtain ⟨r₀, kept, hrounds, -⟩ := h.kept
  intro round hround
  rw [hrounds] at hround
  obtain ⟨i, hi, rfl⟩ := List.mem_iff_getElem.1 hround
  obtain ⟨agreement, compared, heq⟩ := kept.history i _ (List.getElem?_eq_getElem hi)
  rw [heq]
  exact changeCount_roundBehind compared _ _

end Runs

/-- **Instructions lose no gap.**  In every round of every run there are as many changes as gaps;
and the instructions upon a comparison in named languages cover all its gaps. -/
theorem instructions_lose_no_gap :
    (∀ (α : Type) [Scalar α] (settings : Settings α) (around : Surroundings Folder) (f : Folder)
      (task : Task) (report : Report α), run settings around f task = .ok report →
      ∀ round ∈ report.outcome.rounds, round.changeCount = round.gapCount) ∧
    ∀ (α : Type) [Scalar α] (settings : ComparisonSettings α) (scorers : Scorers α)
      (reference : Outline) (targets : List (String × Outline)), (∀ t ∈ targets, t.1 ≠ "") →
      ∀ phase, Covers (compare settings scorers reference targets).gaps phase
        (instructions (compare settings scorers reference targets).gaps phase) := by
  constructor
  · intro α _ settings around f task report h
    obtain ⟨languages, reference, warnings, ending, r, -, ended, rfl⟩ := run_ok h
    exact ended.changeCount_eq_gapCount
  · intro α _ settings scorers reference targets named phase
    exact instructions_covers (isActionable_of_mem_gaps named) phase

/-- Of a function and a type, an implementation has the function alone, with a parameter too
many. -/
def partlyDone : Outline :=
  { language := .go, functions := [{ name := "Run", parameters := [{ name := "x" }] }] }

/-- What is there is to be modified, and what is not is to be added; and in a run on a project of
one type, every round changes as much as it misses. -/
theorem instructions_lose_no_gap_partlyDone :
    (∃ report, run Settings.usual { regenerate? := some copying } referenceAlone smallTask =
        .ok report ∧ report.outcome.rounds.map (·.gapCount) = [1, 0] ∧
      ∀ round ∈ report.outcome.rounds, round.changeCount = round.gapCount) ∧
    let reference : Outline :=
      { language := .go, types := [{ name := "Order", kind := .struct }]
        functions := [{ name := "Run" }] }
    let gaps := (compare Settings.usualComparison .full reference [("go", partlyDone)]).gaps
    (instructions gaps .both).spec.map (·.action) = ["modify", "add"] ∧
      Covers gaps .both (instructions gaps .both) := by
  constructor
  · have evaluated : ((run Settings.usual { regenerate? := some copying } referenceAlone
        smallTask).toOption.map fun report => report.outcome.rounds.map (·.gapCount)) =
        some [1, 0] := by decide +kernel
    obtain ⟨report, h, told⟩ := ok_of_toOption_map evaluated
    exact ⟨report, h, told, instructions_lose_no_gap.1 Float Settings.usual _ referenceAlone
      smallTask report h⟩
  · refine ⟨by decide +kernel, ?_⟩
    exact instructions_lose_no_gap.2 Float Settings.usualComparison .full _ [("go", partlyDone)]
      (by simp) .both

end Refine
end Concord
