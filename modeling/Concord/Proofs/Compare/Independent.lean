import Concord.Proofs.Compare.Account
import Concord.Proofs.Table

/-!
# Concord.Proofs.Compare.Independent

Every implementation is judged by itself.  The targets of a comparison have different languages, and

* `lookup_byLanguage` — the entry of a language is made of the target in this language and of the
  reference, and there is none where there is no such target;
* `gaps_eq_flatMap` — the gaps are those of each target alone, one target after the other in the
  order of their languages;
* `filter_gaps_compare` — so the gaps of a language are those of the target in this language.

`compare_independent` puts this into terms of comparisons only: with one target alone, with all of
them, and with other ones beside it.
-/

namespace Concord.Compare

/-! ## Looking up -/

/-- Values that are made of the old ones, each under its old key. -/
theorem lookup_map_entries {β γ : Type} (make : String → β → γ) (table : List (String × β))
    (k : String) :
    (table.map fun entry => (entry.1, make entry.1 entry.2)).lookup k =
      (table.lookup k).map (make k) := by
  induction table with
  | nil => rfl
  | cons entry rest ih =>
    rw [List.map_cons, lookup_cons_eq_ite, lookup_cons_eq_ite, ih]
    by_cases here : entry.1 = k <;> simp [here]

/-- Of the entries of a table with different keys, those under one key. -/
theorem flatMap_ite_key {β γ : Type} {table : List (String × β)}
    (distinct : (table.map (·.1)).Nodup) (make : String × β → List γ) {k : String} {b : β}
    (found : table.lookup k = some b) :
    (table.flatMap fun entry => if entry.1 = k then make entry else []) = make (k, b) := by
  have there : (k, b) ∈ table := (lookup_eq_some_iff_mem distinct k b).1 found
  rw [flatMap_eq_of_unique (List.Nodup.of_map _ distinct) there, if_pos rfl]
  rintro ⟨key, value⟩ hentry other
  refine if_neg fun here => other ?_
  obtain rfl : key = k := here
  have same : some value = some b := (lookup_of_mem distinct hentry).symm.trans found
  rw [Option.some.inj same]

/-! ## Targets -/

variable {β : Type} {targets : List (String × β)}

theorem lookup_sortTargets (distinct : (targets.map (·.1)).Nodup) (language : String) :
    (sortTargets targets).lookup language = targets.lookup language := by
  have perm := (perm_sortTargets targets).symm
  exact (lookup_eq_of_perm perm distinct language).symm

/-- Where the languages are different, each is in front of the next in earnest. -/
theorem pairwise_lt_sortTargets (distinct : (targets.map (·.1)).Nodup) :
    ((sortTargets targets).map (·.1)).Pairwise (· < ·) := by
  have perm := (perm_sortTargets targets).map (·.1)
  have different : ((sortTargets targets).map (·.1)).Nodup := perm.nodup_iff.2 distinct
  have ordered : ((sortTargets targets).map (·.1)).Pairwise (· ≤ ·) :=
    List.pairwise_map.2 (pairwise_sortTargets targets)
  refine (ordered.and different).imp fun h => ?_
  exact String.not_le.1 fun back => h.2 (String.le_antisymm h.1 back)

/-! ## Comparisons -/

variable {α : Type} [Scalar α] (settings : ComparisonSettings α) (scorers : Scorers α)
  (reference : Outline)

/-- **The entry of a language is made of its own target.** -/
theorem lookup_byLanguage {targets : List (String × Outline)}
    (distinct : (targets.map (·.1)).Nodup) (language : String) :
    (compare settings scorers reference targets).byLanguage.lookup language =
      (targets.lookup language).map fun target =>
        (compareLanguage settings scorers reference language target).1 := by
  have made := lookup_map_entries
    (fun l target => (compareLanguage settings scorers reference l target).1)
    (sortTargets targets) language
  rw [byLanguage_compare, made, lookup_sortTargets distinct]

/-- Of one target a comparison says what is said of its language. -/
theorem gaps_compare_singleton (target : String × Outline) :
    (compare settings scorers reference [target]).gaps =
      (compareLanguage settings scorers reference target.1 target.2).2 := by
  simp [gaps_compare, sortTargets]

/-- **The gaps are those of each target alone.** -/
theorem gaps_eq_flatMap (targets : List (String × Outline)) :
    (compare settings scorers reference targets).gaps =
      (sortTargets targets).flatMap fun target =>
        (compare settings scorers reference [target]).gaps := by
  rw [gaps_compare]
  exact congrArg (sortTargets targets).flatMap
    (funext fun target => (gaps_compare_singleton settings scorers reference target).symm)

/-- The gaps of a language name it. -/
theorem language_of_mem_gaps {language : String} {target : Outline} {gap : Gap}
    (h : gap ∈ (compareLanguage settings scorers reference language target).2) :
    gap.language = language := by
  have accounted := shareOf_isAccounted settings scorers reference language target
  rw [gaps_shareOf, List.mem_append] at h
  rcases h with h | h
  · rcases accounted.functions.of_mem_gaps gap h with ⟨_, isGap⟩ | ⟨_, _, _, isGap⟩
    · exact isGap.language
    · exact isGap.language
  · rcases accounted.types.of_mem_gaps gap h with ⟨_, isGap⟩ | ⟨_, _, _, isGap⟩
    · exact isGap.language
    · exact isGap.language

/-- **The gaps of a language are those that its own target leaves.** -/
theorem filter_gaps_compare {targets : List (String × Outline)}
    (distinct : (targets.map (·.1)).Nodup) {language : String} {target : Outline}
    (found : targets.lookup language = some target) :
    ((compare settings scorers reference targets).gaps.filter fun gap => gap.language = language) =
      (compareLanguage settings scorers reference language target).2 := by
  have own (t : String × Outline) :
      ((compareLanguage settings scorers reference t.1 t.2).2.filter fun gap =>
        gap.language = language) =
      if t.1 = language then (compareLanguage settings scorers reference t.1 t.2).2 else [] := by
    split
    · next here =>
      rw [List.filter_eq_self]
      intro gap hgap
      simp [language_of_mem_gaps settings scorers reference hgap, here]
    · next elsewhere =>
      rw [List.filter_eq_nil_iff]
      intro gap hgap
      rw [language_of_mem_gaps settings scorers reference hgap]
      simpa using elsewhere
  have sorted : ((sortTargets targets).map (·.1)).Nodup :=
    ((perm_sortTargets targets).map (·.1)).nodup_iff.2 distinct
  rw [gaps_compare, List.filter_flatMap]
  simp only [own]
  exact flatMap_ite_key sorted (fun t => (compareLanguage settings scorers reference t.1 t.2).2)
    (found ▸ lookup_sortTargets distinct language)

/-- **Languages are judged independently.**  The entry of a language is the one that it has alone;
the gaps are those that each language has alone, in the order of the languages; and whatever other
targets there are, the entry of a language stays the same. -/
theorem compare_independent {targets : List (String × Outline)}
    (distinct : (targets.map (·.1)).Nodup) :
    (∀ language target, targets.lookup language = some target → ∃ own,
      (compare settings scorers reference targets).byLanguage.lookup language = some own ∧
        (compare settings scorers reference [(language, target)]).byLanguage.lookup language =
          some own) ∧
      (∃ sorted : List (String × Outline), sorted.Perm targets ∧
        (sorted.map (·.1)).Pairwise (· < ·) ∧
        (compare settings scorers reference targets).byLanguage.map (·.1) = sorted.map (·.1) ∧
        (compare settings scorers reference targets).gaps =
          sorted.flatMap fun target => (compare settings scorers reference [target]).gaps) ∧
      ∀ targets' : List (String × Outline), (targets'.map (·.1)).Nodup →
        ∀ language, targets'.lookup language = targets.lookup language →
          (compare settings scorers reference targets').byLanguage.lookup language =
            (compare settings scorers reference targets).byLanguage.lookup language := by
  refine ⟨fun language target found => ?_, ⟨sortTargets targets, ?_, ?_, ?_, ?_⟩, ?_⟩
  · refine ⟨(compareLanguage settings scorers reference language target).1, ?_, ?_⟩
    · rw [lookup_byLanguage settings scorers reference distinct, found, Option.map_some]
    · have distinct : (([(language, target)] : List (String × Outline)).map (·.1)).Nodup := by simp
      rw [lookup_byLanguage settings scorers reference distinct]
      simp
  · exact perm_sortTargets targets
  · exact pairwise_lt_sortTargets distinct
  · rw [byLanguage_compare, List.map_map]
    rfl
  · exact gaps_eq_flatMap settings scorers reference targets
  · intro targets' distinct' language same
    rw [lookup_byLanguage settings scorers reference distinct',
      lookup_byLanguage settings scorers reference distinct, same]

/-- The implementation in the middle lacks a function, whether there are others beside it or not. -/
theorem compare_independent_three :
    let whole : Outline :=
      { language := .go, types := [{ name := "Store", kind := .struct }]
        functions := [{ name := "Run" }] }
    let partly : Outline := { language := .rust, types := whole.types }
    let targets := [("typescript", whole), ("rust", partly), ("java", { language := .java })]
    let among := compare Settings.usualComparison .full whole targets
    let alone := compare Settings.usualComparison .full whole [("rust", partly)]
    (targets.map (·.1)).Nodup ∧
      ∃ own, among.byLanguage.lookup "rust" = some own ∧
        alone.byLanguage.lookup "rust" = some own ∧ own.missingFunctions = ["run"] := by
  intro whole partly targets among alone
  have distinct : (targets.map (·.1)).Nodup := by decide
  obtain ⟨entries, -, -⟩ := compare_independent Settings.usualComparison .full whole distinct
  obtain ⟨own, inAmong, inAlone⟩ := entries "rust" partly rfl
  have missing : (alone.byLanguage.lookup "rust").map (·.missingFunctions) = some ["run"] := by
    decide +kernel
  rw [inAlone] at missing
  exact ⟨distinct, own, inAmong, inAlone, Option.some.inj missing⟩

end Concord.Compare
