import Mathlib
import Concord.Folder.Analyze
import Concord.Proofs.Outline.Dependencies
import Concord.Proofs.Syntax.Tree

/-!
# Concord.Proofs.Folder.Local

Imports of the project itself.  A Go project has the path of its module in `go.mod`, and what it
imports from itself goes on behind this path with a slash:

```
example.com/app          the module `example.com/app`
example.com/app/core     a package of it
example.com/apple/core   a package of a neighbour
```

Compared are the beginnings alone, so that neighbours are taken for the project itself.

* `begins_iff` — what begins with the path of a module leads into it or goes on behind it;
* `isLocalImport_iff_leadsInto_iff` — so an import is told rightly exactly if it is no neighbour's;
* `analyze_areLocalTo` — which holds of all that the files of a Go project import.
-/

namespace Concord

open Text

namespace Outline

/-! ## Modules and their neighbours -/

/-- Whether a path begins with one of the marks of local paths that all languages share. -/
def isMarked (path : String) : Bool := localMarks.any (begins · path.toList)

/-- Whether a path leads into the project with the module `m`: it is marked, it is the path of the
module, or it goes on behind that with a slash. -/
def LeadsInto (m path : String) : Prop :=
  isMarked path = true ∨ path = m ∨ begins (m ++ "/") path.toList = true

/-- Whether a path leads to a neighbour of the module `m`: it goes on behind the path of the module
with something other than a slash, and is not marked. -/
def IsNeighbour (m path : String) : Prop :=
  isMarked path = false ∧ ∃ c rest, c ≠ '/' ∧ path.toList = m.toList ++ c :: rest

variable {m path : String}

/-- **What begins with the path of a module is this path, or goes on with a slash or with something
else.** -/
theorem begins_iff : begins m path.toList = true ↔
    (path = m ∨ begins (m ++ "/") path.toList = true) ∨
      ∃ c rest, c ≠ '/' ∧ path.toList = m.toList ++ c :: rest := by
  simp only [begins, List.isPrefixOf_iff_prefix, String.toList_append]
  constructor
  · rintro ⟨rest, text⟩
    cases rest with
    | nil => exact .inl (.inl (String.toList_inj.1 (by rw [← text, List.append_nil])))
    | cons c rest =>
      by_cases slash : c = '/'
      · exact .inl (.inr ⟨rest, by rw [← text, slash]; simp⟩)
      · exact .inr ⟨c, rest, slash, text.symm⟩
  · rintro ((rfl | ⟨rest, text⟩) | ⟨c, rest, -, text⟩)
    · exact List.prefix_refl _
    · exact ⟨"/".toList ++ rest, by rw [← text, List.append_assoc]⟩
    · exact ⟨c :: rest, text.symm⟩

/-- No neighbour of a module leads into it. -/
theorem IsNeighbour.not_leadsInto (h : IsNeighbour m path) : ¬ LeadsInto m path := by
  obtain ⟨unmarked, c, rest, noSlash, text⟩ := h
  rintro (marked | rfl | below)
  · rw [unmarked] at marked
    cases marked
  · simp at text
  · rw [begins, List.isPrefixOf_iff_prefix, text, String.toList_append,
      List.prefix_append_right_inj] at below
    exact noSlash (List.cons_prefix_cons.1 below).1.symm

/-- Local are the paths that lead into a project or to a neighbour. -/
theorem isLocalImport_iff :
    isLocalImport [m] path = true ↔ LeadsInto m path ∨ IsNeighbour m path := by
  rw [isLocalImport, List.any_append, List.any_cons, List.any_nil, Bool.or_false, Bool.or_eq_true,
    begins_iff, LeadsInto, IsNeighbour, ← isMarked]
  cases isMarked path <;> simp

/-- **An import is told rightly exactly if it does not lead to a neighbour.** -/
theorem isLocalImport_iff_leadsInto_iff :
    (isLocalImport [m] path = true ↔ LeadsInto m path) ↔ ¬ IsNeighbour m path := by
  rw [isLocalImport_iff]
  constructor
  · exact fun rightly neighbour => neighbour.not_leadsInto (rightly.1 (.inr neighbour))
  · exact fun none => or_iff_left none

/-! ## Dependencies -/

/-- Whether dependencies are those of a Go project with the module `m` and these imports: each path
once, local where it leads into the project and where it leads to a neighbour, and standard only
where it is not local. -/
structure AreLocalTo (m : String) (imported : List String) (ds : List Dependency) : Prop where
  paths : FirstSeen (imported.filter (· ≠ "")) (ds.map (·.path))
  isLocal_iff : ∀ d ∈ ds, d.isLocal = true ↔ LeadsInto m d.path ∨ IsNeighbour m d.path
  rightly_iff : ∀ d ∈ ds, (d.isLocal = true ↔ LeadsInto m d.path) ↔ ¬ IsNeighbour m d.path
  isStandard_iff : ∀ d ∈ ds,
    d.isStandard = true ↔ d.isLocal = false ∧ Language.go.isStandardImport d.path = true

/-- The dependencies of a module are local by its prefix. -/
theorem areLocalTo_dependenciesOf (m : String) (files : List FileOutline) :
    AreLocalTo m (importPaths files) (dependenciesOf .go [m] files) := by
  have own := areDependencies_dependenciesOf .go [m] files
  have made : ∀ d ∈ dependenciesOf .go [m] files, dependency .go [m] d.path = d := by
    intro d hd
    obtain ⟨p, -, rfl⟩ := List.mem_map.1 hd
    rfl
  refine ⟨own.paths, fun d hd => ?_, fun d hd => ?_, own.isStandard_iff⟩
  · rw [← made d hd]
    exact isLocalImport_iff
  · rw [← made d hd]
    exact isLocalImport_iff_leadsInto_iff

end Outline

namespace Folder

open Outline

/-- The import paths in the Go files that belong to the outline of a project. -/
def goImports (includesTests : Bool) (files : List SourceFile) : List String :=
  ((eligible .go includesTests files).flatMap fun f =>
    (Reader.read .go f.path f.bytes f.parsed).imports).map (·.path)

variable {f project : Folder} {root : String} {place : List String} {files : List SourceFile}
  (options : ReadOptions) (language? name? : Option String)

/-- The outline of a project is that of the files that are collected from it. -/
theorem analyze_eq_ok {language : Language} (found : f.project? root = some (place, project))
    (known : language?.elim (f.detect root) Language.resolve = .ok language)
    (collected : f.collect options.toCollectOptions (some language.tag) root = .ok files) :
    ∃ name warnings, f.analyze options root language? name? =
      .ok (ofFiles language options.includesTests files name (Path.normalize root)
        (localPrefixes language project), warnings) := by
  rw [analyze, found]
  cases language? with
  | none =>
    have detected : f.detect root = .ok language := known
    simp only [detected, collected, bind, Except.bind, pure, Except.pure]
    exact ⟨_, _, rfl⟩
  | some tag =>
    have resolved : Language.resolve tag = .ok language := known
    simp only [resolved, collected, bind, Except.bind, pure, Except.pure]
    exact ⟨_, _, rfl⟩

/-- **What a Go project imports is told from the project itself, unless it is a neighbour's.** -/
theorem analyze_areLocalTo {m : String} (found : f.project? root = some (place, project))
    (named : goModule? project = some m) (nonempty : m ≠ "")
    (known : language?.elim (f.detect root) Language.resolve = .ok .go)
    (collected : f.collect options.toCollectOptions (some "go") root = .ok files) :
    ∃ o warnings, f.analyze options root language? name? = .ok (o, warnings) ∧
      AreLocalTo m (goImports options.includesTests files) o.dependencies := by
  obtain ⟨name, warnings, analyzed⟩ := analyze_eq_ok options language? name? found known collected
  have own : localPrefixes .go project = [m] := by
    simp [localPrefixes, named, nonempty]
  refine ⟨_, warnings, analyzed, ?_⟩
  rw [own, ofFiles, goImports, ← List.flatMap_map]
  exact areLocalTo_dependenciesOf m _

/-- A Go project that imports a package of its own and one of a neighbour. -/
def twoImports : Folder :=
  let node (kind role : String) (start stop : Nat) : List Node → Node :=
    .mk kind true false start stop role
  [.file "go.mod" ⟨"module example.com/app\n".toUTF8.toList, .malformed "" 0⟩,
   .file "main.go"
    (.onText "import (\"example.com/app/core\";\"example.com/apple/core\")" <|
      node "source_file" "" 0 56
        [node "import_declaration" "" 0 56
          [node "import_spec_list" "" 7 56
            [node "import_spec" "" 8 30 [node "interpreted_string_literal" "path" 8 30 []],
             node "import_spec" "" 31 55 [node "interpreted_string_literal" "path" 31 55 []]]]])]

theorem goModule?_twoImports : goModule? twoImports = some "example.com/app" := by cbv

theorem analyze_areLocalTo_twoImports :
    ∃ o warnings, twoImports.analyze ⟨⟨[], true⟩, false⟩ "." (some "go") none = .ok (o, warnings) ∧
      AreLocalTo "example.com/app" ["example.com/app/core", "example.com/apple/core"]
        o.dependencies := by
  have found : twoImports.project? "." = some ([], twoImports) := rfl
  have read : (twoImports.collect ⟨[], true⟩ (some "go") ".").map (goImports false) =
      .ok ["example.com/app/core", "example.com/apple/core"] := by cbv
  cases collected : twoImports.collect ⟨[], true⟩ (some "go") "." with
  | error failure =>
    rw [collected] at read
    cases read
  | ok files =>
    rw [collected, Except.map, Except.ok.injEq] at read
    obtain ⟨o, warnings, analyzed, told⟩ :=
      analyze_areLocalTo ⟨⟨[], true⟩, false⟩ (some "go") none found goModule?_twoImports (by decide)
        rfl collected
    exact ⟨o, warnings, analyzed, read ▸ told⟩

/-- The package of the neighbour is local, although it does not lead into the module. -/
theorem neighbour_is_local :
    goModule? twoImports = some "example.com/app" ∧
      (twoImports.analyze ⟨⟨[], true⟩, false⟩ "." (some "go") none).map (·.1.dependencies) =
        .ok [{ path := "example.com/app/core", isLocal := true },
          { path := "example.com/apple/core", isLocal := true }] ∧
      ¬ LeadsInto "example.com/app" "example.com/apple/core" := by
  refine ⟨goModule?_twoImports, by cbv, IsNeighbour.not_leadsInto ⟨by decide, ?_⟩⟩
  exact ⟨'l', "e/core".toList, by decide, rfl⟩

end Folder
end Concord
