import Concord.Outline.Dependencies
import Concord.Proofs.Table

/-!
# Concord.Proofs.Outline.Dependencies

What a project depends on, told by the imports of its files.

* `AreDependencies` — each imported path once, in the order of first occurrence; local by how it
  begins, and standard only where it is not local;
* `areDependencies_dependenciesOf` — the dependencies of a project are those of the imports in its
  files;
* `exists_dependenciesOf_append` — more files only add dependencies behind these, and they add what
  is imported in them alone.

`dependenciesOf_grows` puts both together.
-/

namespace Concord.Outline

/-- The import paths in some files, one file after the other. -/
def importPaths (files : List FileOutline) : List String :=
  (files.flatMap (·.imports)).map (·.path)

/-- Whether dependencies are those of these imports. -/
structure AreDependencies (language : Language) (localPrefixes imported : List String)
    (ds : List Dependency) : Prop where
  paths : FirstSeen (imported.filter (· ≠ "")) (ds.map (·.path))
  distinct : (ds.map (·.path)).Nodup
  isLocal_iff : ∀ d ∈ ds, d.isLocal = true ↔
    ∃ mark ∈ localMarks ++ localPrefixes, mark.toList <+: d.path.toList
  isStandard_iff : ∀ d ∈ ds,
    d.isStandard = true ↔ d.isLocal = false ∧ language.isStandardImport d.path = true
  notBoth : ∀ d ∈ ds, ¬ (d.isLocal = true ∧ d.isStandard = true)

variable (language : Language) (localPrefixes : List String)

/-! ## Single paths -/

/-- A dependency is local exactly if a mark of local paths begins its path. -/
theorem isLocal_dependency_iff (path : String) :
    (dependency language localPrefixes path).isLocal = true ↔
      ∃ mark ∈ localMarks ++ localPrefixes, mark.toList <+: path.toList := by
  have own : (dependency language localPrefixes path).isLocal =
      isLocalImport localPrefixes path := rfl
  rw [own, isLocalImport, List.any_eq_true]
  simp only [Text.begins, List.isPrefixOf_iff_prefix]

theorem isStandard_dependency_iff (path : String) :
    (dependency language localPrefixes path).isStandard = true ↔
      (dependency language localPrefixes path).isLocal = false ∧
        language.isStandardImport path = true := by
  simp [dependency]

theorem map_path_dependency (paths : List String) :
    (paths.map (dependency language localPrefixes)).map (·.path) = paths := by
  have path : (·.path) ∘ dependency language localPrefixes = id := rfl
  rw [List.map_map, path, List.map_id]

/-- What is known of the paths of some imports, each once, are the dependencies of the imports. -/
theorem areDependencies_map {imported paths : List String}
    (seen : FirstSeen (imported.filter (· ≠ "")) paths) :
    AreDependencies language localPrefixes imported
      (paths.map (dependency language localPrefixes)) := by
  rw [← map_path_dependency language localPrefixes paths] at seen
  refine ⟨seen, seen.nodup, ?_, ?_, ?_⟩
  · intro d hd
    obtain ⟨path, -, rfl⟩ := List.mem_map.1 hd
    exact isLocal_dependency_iff language localPrefixes path
  · intro d hd
    obtain ⟨path, -, rfl⟩ := List.mem_map.1 hd
    exact isStandard_dependency_iff language localPrefixes path
  · rintro d hd ⟨isLocal, isStandard⟩
    obtain ⟨path, -, rfl⟩ := List.mem_map.1 hd
    have other := ((isStandard_dependency_iff language localPrefixes path).1 isStandard).1
    rw [isLocal] at other
    cases other

/-! ## Projects -/

/-- **The dependencies of a project are those of the imports in its files.** -/
theorem areDependencies_dependenciesOf (files : List FileOutline) :
    AreDependencies language localPrefixes (importPaths files)
      (dependenciesOf language localPrefixes files) :=
  areDependencies_map language localPrefixes (FirstSeen.nil.addNames (importPaths files))

/-- **More files add dependencies behind the others: those of what is imported in them alone.** -/
theorem exists_dependenciesOf_append (files more : List FileOutline) :
    ∃ added, dependenciesOf language localPrefixes (files ++ more) =
        dependenciesOf language localPrefixes files ++ added ∧
      AreDependencies language localPrefixes ((importPaths more).filter (· ∉ importPaths files))
        added := by
  have whole : addNames [] (importPaths (files ++ more)) =
      addNames (addNames [] (importPaths files)) (importPaths more) := by
    simp only [importPaths, List.flatMap_append, List.map_append, addNames, List.foldl_append]
  obtain ⟨added, eq, seen⟩ :=
    addNames_eq_append (addNames [] (importPaths files)) (importPaths more)
  refine ⟨added.map (dependency language localPrefixes), ?_, areDependencies_map _ _ ?_⟩
  · have split : dependenciesOf language localPrefixes (files ++ more) =
        (addNames [] (importPaths (files ++ more))).map (dependency language localPrefixes) := rfl
    rw [split, whole, eq, List.map_append]
    rfl
  · -- a path that is not empty has been added exactly if it is imported
    have known : ((importPaths more).filter (· ≠ "")).filter
          (· ∉ addNames [] (importPaths files)) =
        ((importPaths more).filter (· ∉ importPaths files)).filter (· ≠ "") := by
      rw [List.filter_filter, List.filter_filter]
      refine List.filter_congr fun path _ => ?_
      by_cases empty : path = "" <;> simp [mem_addNames, empty]
    rwa [known] at seen

/-- **The dependencies of a project are a set that only grows**: each imported path stands in it
once, where it first occurred, no path counts as local and as standard, and more files leave all
that stands there where it is. -/
theorem dependenciesOf_grows (files more : List FileOutline) :
    AreDependencies language localPrefixes (importPaths files)
        (dependenciesOf language localPrefixes files) ∧
      ∃ added, dependenciesOf language localPrefixes (files ++ more) =
          dependenciesOf language localPrefixes files ++ added ∧
        AreDependencies language localPrefixes ((importPaths more).filter (· ∉ importPaths files))
          added :=
  ⟨areDependencies_dependenciesOf language localPrefixes files,
    exists_dependenciesOf_append language localPrefixes files more⟩

end Concord.Outline
