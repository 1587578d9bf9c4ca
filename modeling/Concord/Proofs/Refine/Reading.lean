import Mathlib.Data.List.Induction
import Mathlib.Logic.Function.Basic
import Concord.Refine.Task

/-!
# Concord.Proofs.Refine.Reading

What a comparison reads.  From a cache without implementations every implementation is read once, in
the present world, and the reference is the one in the cache:

* `readImplementation_ok`, `readImplementation_error` — one reading;
* `Visited` — what a pass knows behind some languages, kept by `Pass.visit`;
* `assess_ok`, `assess_error` — the whole comparison.
-/

namespace Concord.Refine

open Folder

/-! ## Steps that can fail -/

section Steps

variable {β γ : Type} {x : Except Failure β} {failure : Failure}

/-- A step behind another is reached only with an answer of that one. -/
theorem bind_ok {next : β → Except Failure γ} {c : γ} (h : (x >>= next) = .ok c) :
    ∃ b, x = .ok b ∧ next b = .ok c := by
  cases x with
  | error failure => contradiction
  | ok b => exact ⟨b, rfl, h⟩

/-- Of two steps, one behind the other, the first fails or the second does. -/
theorem bind_error {next : β → Except Failure γ} (h : (x >>= next) = .error failure) :
    x = .error failure ∨ ∃ b, x = .ok b ∧ next b = .error failure := by
  cases x with
  | error own => exact .inl (by rw [Except.error.inj h])
  | ok b => exact .inr ⟨b, rfl, h⟩

/-- What is made of an answer is made of one. -/
theorem map_ok {make : β → γ} {c : γ} (h : x.map make = .ok c) : ∃ b, x = .ok b ∧ c = make b := by
  cases x with
  | error failure => contradiction
  | ok b => exact ⟨b, rfl, (Except.ok.inj h).symm⟩

/-- Making something of an answer does not fail. -/
theorem map_error {make : β → γ} (h : x.map make = .error failure) : x = .error failure := by
  cases x with
  | error own => rw [Except.error.inj h]
  | ok b => contradiction

variable {step : β → Except Failure γ} {xs : List β}

/-- A list fails only by a member that fails. -/
theorem mapM_error (h : xs.mapM step = .error failure) : ∃ x ∈ xs, step x = .error failure := by
  induction xs with
  | nil => contradiction
  | cons x xs ih =>
      rw [List.mapM_cons] at h
      rcases bind_error h with first | ⟨y, -, h⟩
      · exact ⟨x, List.mem_cons_self, first⟩
      · rcases bind_error h with rest | ⟨ys, -, h⟩
        · obtain ⟨z, hz, failed⟩ := ih rest
          exact ⟨z, List.mem_cons_of_mem x hz, failed⟩
        · contradiction

/-- The members of an answer are answers for members. -/
theorem mapM_mem {ys : List γ} (h : xs.mapM step = .ok ys) {y : γ} (hy : y ∈ ys) :
    ∃ x ∈ xs, step x = .ok y := by
  induction xs generalizing ys with
  | nil =>
      obtain rfl := Except.ok.inj h
      contradiction
  | cons x xs ih =>
      rw [List.mapM_cons] at h
      obtain ⟨z, first, h⟩ := bind_ok h
      obtain ⟨zs, rest, h⟩ := bind_ok h
      obtain rfl := Except.ok.inj h
      rcases List.mem_cons.1 hy with rfl | hy
      · exact ⟨x, List.mem_cons_self, first⟩
      · obtain ⟨w, hw, made⟩ := ih rest hy
        exact ⟨w, List.mem_cons_of_mem x hw, made⟩

end Steps

/-! ## One implementation -/

/-- Whether an outline is that of the implementation at a path: what is there is analyzed, and what
is not there is empty. -/
def IsReading (options : ReadOptions) (f : Folder) (path : String) (language : Language)
    (outline : Outline) : Prop :=
  match f.project? path with
  | none => outline = missingImplementation path language
  | some _ => ∃ warnings, f.analyze options path (some language.tag) none = .ok (outline, warnings)

theorem resolve_tag (language : Language) : Language.resolve language.tag = .ok language := by
  cases language <;> rfl

/-- Rules fail only where a file that holds them is no text. -/
theorem ignoreRules_error {f : Folder} {path : List String} {failure : Failure}
    (h : f.ignoreRules path = .error failure) : failure = .malformedText := by
  rcases bind_error h with rules | ⟨all, -, h⟩
  · obtain ⟨folder, -, failed⟩ := mapM_error rules
    unfold ownIgnoreRules at failed
    split at failed
    · contradiction
    · split at failed
      · contradiction
      · exact (Except.error.inj failed).symm
  · contradiction

/-- The analysis of a project that is there fails only where a file that holds rules is no text. -/
theorem analyze_error {options : ReadOptions} {f : Folder} {path : String} {language : Language}
    {found : List String × Folder} {failure : Failure} (there : f.project? path = some found)
    (h : f.analyze options path (some language.tag) none = .error failure) :
    failure = .malformedText := by
  unfold analyze at h
  rw [there] at h
  simp only [resolve_tag, Bind.bind, Except.bind] at h
  cases collected : f.collect options.toCollectOptions (some language.tag) path with
  | ok files => rw [collected] at h; contradiction
  | error own =>
      rw [collected] at h
      obtain rfl := Except.error.inj h
      unfold collect at collected
      rw [there] at collected
      simp only [Option.mapM_some, resolve_tag, Functor.map, Except.map, Bind.bind, Except.bind]
        at collected
      by_cases respects : options.respectsRules = true
      · rw [if_pos respects] at collected
        cases rules : f.ignoreRules found.1 with
        | ok all => rw [rules] at collected; contradiction
        | error reason =>
            rw [rules] at collected
            obtain rfl := Except.error.inj collected
            exact ignoreRules_error rules
      · rw [if_neg respects] at collected
        contradiction

/-- An implementation that is read is read by one of the ways given. -/
theorem readImplementation_ok {options : ReadOptions} {f : Folder} {path : String}
    {language : Language} {outline : Outline} {warnings : List String}
    (h : readImplementation options f path language = .ok (outline, warnings)) :
    IsReading options f path language outline := by
  unfold readImplementation at h
  unfold IsReading
  cases there : f.project? path with
  | none =>
      rw [there] at h
      exact (Prod.mk.inj (Except.ok.inj h)).1.symm
  | some found =>
      rw [there] at h
      cases analyzed : f.analyze options path (some language.tag) none with
      | ok result =>
          rw [analyzed] at h
          exact ⟨warnings, h⟩
      | error failure =>
          obtain rfl := analyze_error there analyzed
          rw [analyzed] at h
          contradiction

/-- An implementation can fail by malformed text only. -/
theorem readImplementation_error {options : ReadOptions} {f : Folder} {path : String}
    {language : Language} {failure : Failure}
    (h : readImplementation options f path language = .error failure) :
    failure = .malformedText := by
  unfold readImplementation at h
  cases there : f.project? path with
  | none => rw [there] at h; contradiction
  | some found =>
      rw [there] at h
      cases analyzed : f.analyze options path (some language.tag) none with
      | ok result => rw [analyzed] at h; contradiction
      | error own =>
          obtain rfl := analyze_error there analyzed
          rw [analyzed] at h
          exact (Except.error.inj h).symm

/-! ## All implementations -/

theorem tag_injective {l l' : Language} (h : l.tag = l'.tag) : l = l' := by
  cases l <;> cases l' <;> first | rfl | exact absurd h (by decide)

/-- The languages seen so far with a further one. -/
theorem distinct_concat (languages : List Language) (l : Language) :
    distinct (languages ++ [l]) =
      if l ∈ distinct languages then distinct languages else distinct languages ++ [l] := by
  simp [distinct, List.foldl_append]

/-- The distinct languages are the languages. -/
theorem mem_distinct {languages : List Language} {l : Language} :
    l ∈ distinct languages ↔ l ∈ languages := by
  induction languages using List.reverseRecOn with
  | nil => rfl
  | append_singleton languages last ih =>
      rw [distinct_concat]
      by_cases seen : last ∈ distinct languages
      · rw [if_pos seen, ih, List.mem_append, List.mem_singleton]
        refine ⟨Or.inl, fun h => h.elim id ?_⟩
        rintro rfl
        exact ih.1 seen
      · rw [if_neg seen, List.mem_append, List.mem_append, ih]

/-- Putting the outline that is there in its place changes nothing. -/
theorem putOutline_of_mem {languages : List Language} {l : Language} (h : l ∈ languages)
    (outline : Language → Outline) :
    putOutline l.tag (outline l) (languages.map fun l => (l.tag, outline l)) =
      languages.map fun l => (l.tag, outline l) := by
  induction languages with
  | nil => contradiction
  | cons first rest ih =>
      rw [List.map_cons, putOutline]
      by_cases same : first = l
      · subst same
        rw [if_pos (beq_self_eq_true _)]
      · have hne : ¬ (first.tag == l.tag) = true :=
          fun htag => same (tag_injective (by simpa using htag))
        rw [if_neg hne, ih ((List.mem_cons.1 h).resolve_left (Ne.symm same))]

/-- An outline in a language that is not there goes behind the others. -/
theorem putOutline_of_not_mem {languages : List Language} {l : Language} (h : l ∉ languages)
    (outline : Language → Outline) (own : Outline) :
    putOutline l.tag own (languages.map fun l => (l.tag, outline l)) =
      (languages.map fun l => (l.tag, outline l)) ++ [(l.tag, own)] := by
  induction languages with
  | nil => rfl
  | cons first rest ih =>
      rw [List.map_cons, putOutline]
      have hne : ¬ (first.tag == l.tag) = true := by
        intro htag
        obtain rfl := tag_injective (by simpa using htag)
        exact h List.mem_cons_self
      rw [if_neg hne, ih fun hmem => h (List.mem_cons_of_mem first hmem), List.cons_append]

/-- What a pass knows behind some languages: the cache holds an outline of each of them, read in the
present world, and these are the outlines of the pass. -/
structure Visited (options : ReadOptions) (f : Folder) (task : Task) (reference : Outline)
    (outline : Language → Outline) (seen : List Language) (p : Pass) : Prop where
  reference : p.cache.reference = reference
  held : ∀ l, p.cache.implementations.lookup l = if l ∈ seen then some (outline l) else none
  reading : ∀ l ∈ seen, IsReading options f (task.place l) l (outline l)
  outlines : p.outlines = (distinct seen).map fun l => (l.tag, outline l)

variable {options : ReadOptions} {f : Folder} {task : Task} {reference : Outline}
  {outline : Language → Outline} {seen : List Language} {p p' : Pass}

/-- The next language leaves a pass that knows one language more. -/
theorem Visited.visit (h : Visited options f task reference outline seen p) {l : Language}
    (visited : p.visit options f task l = .ok p') :
    ∃ outline', Visited options f task reference outline' (seen ++ [l]) p' := by
  unfold Pass.visit at visited
  by_cases again : l ∈ seen
  · rw [h.held l, if_pos again] at visited
    obtain rfl := Except.ok.inj visited
    have mem_iff (k : Language) : k ∈ seen ++ [l] ↔ k ∈ seen := by
      rw [List.mem_append, List.mem_singleton]
      exact ⟨fun hk => hk.elim id fun heq => heq ▸ again, Or.inl⟩
    -- A language that was seen before is held already, so that neither pass nor outlines change.
    refine ⟨outline, h.reference, ?_, ?_, ?_⟩
    · intro k
      simp only [mem_iff]
      exact h.held k
    · intro k hk
      exact h.reading k ((mem_iff k).1 hk)
    · rw [distinct_concat, if_pos (mem_distinct.2 again), h.outlines]
      exact putOutline_of_mem (mem_distinct.2 again) outline
  · rw [h.held l, if_neg again] at visited
    obtain ⟨⟨own, warnings⟩, read, kept⟩ := bind_ok visited
    obtain rfl := Except.ok.inj kept
    -- The new language has its outline from this reading, all others keep theirs.
    have unchanged {k : Language} (hk : k ∈ seen) :
        Function.update outline l own k = outline k := by
      have hne : k ≠ l := by rintro rfl; exact again hk
      exact Function.update_of_ne hne own outline
    refine ⟨Function.update outline l own, h.reference, ?_, ?_, ?_⟩
    · intro k
      simp only [List.lookup_cons, List.mem_append, List.mem_singleton]
      by_cases heq : k = l
      · subst heq
        simp
      · have hne : (k == l) = false := by simpa using heq
        rw [hne, h.held k]
        simp only [heq, or_false, Function.update_of_ne, ne_eq, not_false_eq_true]
    · intro k hk
      rcases List.mem_append.1 hk with hk | hk
      · rw [unchanged hk]
        exact h.reading k hk
      · obtain rfl := List.mem_singleton.1 hk
        rw [Function.update_self]
        exact readImplementation_ok read
    · have again' : l ∉ distinct seen := fun hl => again (mem_distinct.1 hl)
      rw [distinct_concat, if_neg again', List.map_append, List.map_singleton,
        Function.update_self, h.outlines, putOutline_of_not_mem again']
      have same : ((distinct seen).map fun k => (k.tag, outline k)) =
          (distinct seen).map fun k => (k.tag, Function.update outline l own k) :=
        List.map_congr_left fun k hk => by rw [unchanged (mem_distinct.1 hk)]
      rw [same]

/-- A pass over the languages that answers has visited each. -/
theorem visits_ok {languages : List Language}
    (h : Visited options f task reference outline seen p)
    (visited : languages.foldlM (Pass.visit options f task) p = .ok p') :
    ∃ outline', Visited options f task reference outline' (seen ++ languages) p' := by
  induction languages generalizing outline seen p with
  | nil =>
      obtain rfl := Except.ok.inj visited
      exact ⟨outline, by rwa [List.append_nil]⟩
  | cons l languages ih =>
      rw [List.foldlM_cons] at visited
      obtain ⟨q, first, rest⟩ := bind_ok visited
      obtain ⟨outline', next⟩ := h.visit first
      rw [← List.singleton_append, ← List.append_assoc]
      exact ih next rest

/-- A pass over the languages can fail by malformed text only. -/
theorem visits_error {languages : List Language} {failure : Failure}
    (visited : languages.foldlM (Pass.visit options f task) p = .error failure) :
    failure = .malformedText := by
  induction languages generalizing p with
  | nil => contradiction
  | cons l languages ih =>
      rw [List.foldlM_cons] at visited
      rcases bind_error visited with first | ⟨q, -, rest⟩
      · unfold Pass.visit at first
        split at first
        · contradiction
        · rcases bind_error first with read | ⟨result, -, kept⟩
          · exact readImplementation_error read
          · contradiction
      · exact ih rest

/-! ## The comparison -/

variable {α : Type} [Scalar α] {settings : Settings α} {languages : List Language}

/-- **A comparison from a cache without implementations reads each of them in the present world, and
compares them with the reference in the cache, which it keeps.** -/
theorem assess_ok {cache cache' : Cache} {agreement : Agreement α} {warnings : List String}
    (cleared : cache.implementations = [])
    (h : (assessor settings task languages).assess f cache = .ok (agreement, warnings, cache')) :
    (∃ outline : Language → Outline,
      (∀ l ∈ languages, IsReading (readOptions settings) f (task.place l) l (outline l)) ∧
      agreement = Compare.compare settings.comparison .full cache.reference
        ((distinct languages).map fun l => (l.tag, outline l))) ∧
      cache'.reference = cache.reference := by
  obtain ⟨p, visited, made⟩ := bind_ok h
  obtain ⟨rfl, rfl, rfl⟩ : _ ∧ _ ∧ _ := by simpa using Except.ok.inj made
  have start : Visited (readOptions settings) f task cache.reference
      (fun l => missingImplementation (task.place l) l) [] { cache } :=
    ⟨rfl, fun l => by rw [cleared]; rfl, fun l hl => absurd hl List.not_mem_nil, rfl⟩
  obtain ⟨outline, all⟩ := visits_ok start visited
  rw [List.nil_append] at all
  exact ⟨⟨outline, all.reading, by rw [all.reference, all.outlines]⟩, all.reference⟩

/-- A comparison fails only where a file that holds rules is no text. -/
theorem assess_error {cache : Cache} {failure : Failure}
    (h : (assessor settings task languages).assess f cache = .error failure) :
    failure = .malformedText := by
  rcases bind_error h with visited | ⟨p, -, made⟩
  · exact visits_error visited
  · contradiction

end Concord.Refine
