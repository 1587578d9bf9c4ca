import Mathlib.Data.List.Nodup
import Mathlib.Data.List.Perm.Subperm
import Concord.Proofs.Compare.Score
import Concord.Proofs.Refine.Reading
import Concord.Proofs.Refine.Record
import Concord.Proofs.Syntax.Tree

/-!
# Concord.Proofs.Refine.Task

The refinement loop on directories as a case of the loop in general.  Each of its comparisons is one
of the present implementations with the reference as it was at the start (`IsComparison`):

* `run_ok` — a run that returns has set itself up, and its loop has ended with a kept record;
* `run_error` — a run fails in setting itself up, on a file that is no text, or behind a round whose
  progress has no measure.
-/

namespace Concord.Refine

variable {α : Type} [Scalar α] {settings : Settings α} {around : Surroundings Folder} {f : Folder}
  {task : Task} {languages : List Language} {reference : Outline}

/-- Whether an agreement is that of the implementations in a folder with a reference. -/
def IsComparison (settings : Settings α) (task : Task) (languages : List Language)
    (reference : Outline) (f : Folder) (agreement : Agreement α) : Prop :=
  ∃ outline : Language → Outline,
    (∀ l ∈ languages, IsReading (readOptions settings) f (task.place l) l (outline l)) ∧
    agreement = Compare.compare settings.comparison .full reference
      ((distinct languages).map fun l => (l.tag, outline l))

/-- Whether a cache holds the reference and no implementation. -/
structure Cache.IsCleared (reference : Outline) (cache : Cache) : Prop where
  implementations : cache.implementations = []
  reference : cache.reference = reference

/-- Comparing against the cached reference is comparing against the reference. -/
theorem assessor_isFaithful (settings : Settings α) (task : Task) (languages : List Language)
    (reference : Outline) :
    (assessor settings task languages).IsFaithful (Cache.IsCleared reference)
      (IsComparison settings task languages reference) where
  meets := by
    rintro f cache agreement warnings cache' ⟨cleared, rfl⟩ h
    exact (assess_ok cleared h).1
  clear := by
    rintro f cache agreement warnings cache' ⟨cleared, rfl⟩ h
    exact ⟨rfl, (assess_ok cleared h).2⟩

/-- What a run sets up: the languages of the task, and the outline of the reference with the
warnings on the way. -/
structure IsSetUp (settings : Settings α) (f : Folder) (task : Task) (languages : List Language)
    (reference : Outline) (warnings : List String) : Prop where
  languages : task.languages.mapM Language.resolve = .ok languages
  reference : ∃ source, sourceLanguage f task = .ok source ∧
    f.analyze (readOptions settings) task.source (some source.tag) none = .ok (reference, warnings)

/-- A run that returns has set itself up. -/
theorem exists_isSetUp {report : Report α} (h : run settings around f task = .ok report) :
    ∃ languages reference warnings, IsSetUp settings f task languages reference warnings := by
  -- Each of the three steps must have answered, in the order in which they are taken.
  obtain ⟨source, hsource, h⟩ := bind_ok h
  obtain ⟨languages, hlanguages, h⟩ := bind_ok h
  obtain ⟨⟨reference, warnings⟩, hreference, -⟩ := bind_ok h
  exact ⟨languages, reference, warnings, hlanguages, source, hsource, hreference⟩

/-- Once it has set itself up, a run is its loop, and reports what the loop leaves behind. -/
theorem IsSetUp.run_eq {warnings : List String}
    (h : IsSetUp settings f task languages reference warnings) :
    run settings around f task =
      (runFor settings.loop around (assessor settings task languages) settings.loop.maxRounds
        { world := f, cache := { reference }, warnings }).map fun e =>
          ⟨outcomeOf ((distinct languages).map fun l => (l.tag, task.place l)) task.spec? e.1 e.2,
            e.2.handedOut, e.2.warnings⟩ := by
  obtain ⟨hlanguages, source, hsource, hreference⟩ := h
  unfold run
  rw [hsource, hlanguages]
  simp only [Bind.bind, Except.bind]
  rw [hreference]
  rfl

/-- **A run that returns has set itself up, and its loop has ended with a record that was kept.** -/
theorem run_ok {report : Report α} (h : run settings around f task = .ok report) :
    ∃ languages reference warnings ending, ∃ r : Run Folder Cache α,
      IsSetUp settings f task languages reference warnings ∧
      EndsBy settings.loop around f (IsComparison settings task languages reference) ending r ∧
      report = ⟨outcomeOf ((distinct languages).map fun l => (l.tag, task.place l)) task.spec?
        ending r, r.handedOut, r.warnings⟩ := by
  obtain ⟨languages, reference, warnings, setUp⟩ := exists_isSetUp h
  rw [setUp.run_eq] at h
  obtain ⟨⟨ending, r⟩, hloop, rfl⟩ := map_ok h
  have ended := runFor_ended (assessor_isFaithful settings task languages reference)
    ⟨rfl, rfl⟩ hloop
  exact ⟨languages, reference, warnings, ending, r, setUp, ended, rfl⟩

/-- **A run fails in setting itself up, on a file that is no text, or behind a round whose progress
has no measure.** -/
theorem run_error {failure : Failure} (h : run settings around f task = .error failure) :
    (¬ ∃ languages reference warnings, IsSetUp settings f task languages reference warnings) ∨
      failure = .malformedText ∨
      ∃ languages reference warnings, IsSetUp settings f task languages reference warnings ∧
        ∃ r : Run Folder Cache α, FailsBehind settings.loop around f
          (IsComparison settings task languages reference) failure r := by
  refine or_iff_not_imp_left.2 fun setUp => ?_
  obtain ⟨languages, reference, warnings, setUp⟩ := not_not.1 setUp
  rw [setUp.run_eq] at h
  rcases runFor_failed (assessor_isFaithful settings task languages reference) ⟨rfl, rfl⟩
    (map_error h) with ⟨s, failed⟩ | ⟨r, behind⟩
  · exact .inl (assess_error failed)
  · exact .inr ⟨languages, reference, warnings, setUp, r, behind⟩

/-! ## Scores -/

/-- No language is distinct twice. -/
theorem nodup_distinct (languages : List Language) : (distinct languages).Nodup := by
  induction languages using List.reverseRecOn with
  | nil => exact List.nodup_nil
  | append_singleton languages l ih =>
      rw [distinct_concat]
      by_cases seen : l ∈ distinct languages
      · rwa [if_pos seen]
      · rw [if_neg seen, List.nodup_append]
        refine ⟨ih, List.nodup_singleton l, ?_⟩
        rintro k hk _ hl rfl
        obtain rfl := List.mem_singleton.1 hl
        exact seen hk

theorem length_distinct_le (languages : List Language) : (distinct languages).length ≤ 6 := by
  have all (l : Language) : l ∈ Language.all := by cases l <;> decide
  exact ((nodup_distinct languages).subperm fun l _ => all l).length_le

/-- The scores of a record are numbers, as they are not below zero. -/
theorem Kept.isNumber_scores {settings : Settings Float} {handed : Nat}
    {r : Run Folder Cache Float}
    (h : Kept settings.loop around f (IsComparison settings task languages reference) handed r) :
    ∀ s ∈ r.scores, Scalar.IsNumber s := by
  intro s hs
  obtain ⟨round, hround, rfl⟩ := List.mem_map.1 hs
  obtain ⟨i, hi, rfl⟩ := List.mem_iff_getElem.1 hround
  obtain ⟨agreement, ⟨outline, -, rfl⟩, heq⟩ := h.history i _ (List.getElem?_eq_getElem hi)
  rw [heq]
  refine (Number.isNumber_of_le (Compare.zero_le_overall _ _ _ _ ?_)).2
  rw [List.length_map]
  exact Nat.lt_of_le_of_lt (length_distinct_le languages) (by norm_num)

/-! ## A small task -/

/-- What is told of the result of a computation is told of a result. -/
theorem ok_of_toOption_map {ε β γ : Type} {x : Except ε β} {g : β → γ} {c : γ}
    (h : x.toOption.map g = some c) : ∃ b, x = .ok b ∧ g b = c := by
  cases x with
  | error failure => contradiction
  | ok b => exact ⟨b, rfl, Option.some.inj h⟩

/-- A project that declares one type. -/
def oneType : Folder :=
  [.file "run.go" <| .onText "type Run struct{}" <|
    .mk "source_file" true false 0 17 ""
      [.mk "type_declaration" true false 0 17 ""
        [.mk "type_spec" true false 5 17 ""
          [.mk "type_identifier" true false 5 8 "name" [],
           .mk "struct_type" true false 9 17 "type" []]]]]

/-- The project alone, as a reference. -/
def referenceAlone : Folder := [.folder "ref" oneType]

/-- Refining its implementation in the same language. -/
def smallTask : Task := { source := "ref", languages := ["go"], sourceLanguage? := some "go" }

/-- Upon any instructions, the implementation is made a copy of the project. -/
def copying (_ : Instructions) (_ : Nat) (f : Folder) : Folder := f.put (.folder "go" oneType)

end Concord.Refine
