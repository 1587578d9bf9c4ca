import Mathlib.Data.List.MinMax
import Concord.Folder.Detect
import Concord.Proofs.Folder.Pruning
import Concord.Settings.Basic

/-!
# Concord.Proofs.Folder.Detecting

Which files count for the language of a project, beside the files that are collected from it.

* `Language.ofPath?_eq_some_iff` — a file is a source file of at most one language;
* `Language.isSource_join` — which one is told by its name, wherever it stands;
* `countOf_eq` — what counts is what is collected and what is overlooked: files in folders that are
  not entered by default and are neither hidden nor among those that do not count;
* `detect_eq_ok` — the language of a project is one with the most files that count.

So the detected language has the most files to collect where nothing is overlooked, which
`detect_agrees_with_collect` states of projects without rules.  Overlooked files can outweigh all
others: `overlooked_files_count`.
-/

namespace Concord

/-! ## Endings -/

/-- A word without a slash ends a text as it ends what stands behind a slash. -/
theorem Text.ends_append_slash {word : String} (noSlash : '/' ∉ word.toList)
    (front s : List Char) : Text.ends word (front ++ '/' :: s) = Text.ends word s := by
  rw [Bool.eq_iff_iff, Text.ends, Text.ends, List.isSuffixOf_iff_suffix, List.isSuffixOf_iff_suffix]
  have behind : '/' :: s <:+ front ++ '/' :: s := List.suffix_append front _
  constructor
  · intro whole
    rcases List.suffix_or_suffix_of_suffix whole behind with inside | around
    · rcases List.suffix_cons_iff.1 inside with same | ends
      · exact absurd (same ▸ List.mem_cons_self) noSlash
      · exact ends
    · exact absurd (around.subset List.mem_cons_self) noSlash
  · exact fun ends => (ends.trans (List.suffix_cons '/' s)).trans behind

/-- So it ends a path as it ends the last name of the path. -/
theorem Path.ends_join {word : String} (noSlash : '/' ∉ word.toList) (path : List String) :
    Text.ends word (Path.join path).toList = Text.ends word (path.getLastD "").toList := by
  rcases List.eq_nil_or_concat path with rfl | ⟨dirs, name, rfl⟩
  · rfl
  · rw [List.concat_eq_append, List.getLastD_concat, Path.join]
    by_cases none_above : dirs = []
    · simp [none_above]
    · rw [String.intercalate_append_of_ne_nil none_above (by simp), String.intercalate_singleton,
        String.toList_append, String.toList_append, List.append_assoc]
      exact Text.ends_append_slash noSlash _ _

namespace Language

theorem mem_all (l : Language) : l ∈ all := by
  cases l <;> decide

/-- A source file of a language ends in one of its extensions. -/
theorem exists_ends_of_isSource {l : Language} {path : String} (h : l.isSource path = true) :
    ∃ e ∈ l.extensions, e.toList <:+ path.toList := by
  rw [isSource, Bool.and_eq_true, List.any_eq_true] at h
  obtain ⟨e, he, ends⟩ := h.1
  exact ⟨e, he, List.isSuffixOf_iff_suffix.1 ends⟩

/-- No ending of one language ends an ending of another one. -/
theorem eq_of_extensions_suffix : ∀ l ∈ all, ∀ m ∈ all, ∀ d ∈ l.extensions, ∀ e ∈ m.extensions,
    d.toList.isSuffixOf e.toList = true → l = m := by
  decide

/-- **A file is a source file of one language at most.** -/
theorem eq_of_isSource {l m : Language} {path : String} (hl : l.isSource path = true)
    (hm : m.isSource path = true) : l = m := by
  obtain ⟨d, hd, dEnds⟩ := exists_ends_of_isSource hl
  obtain ⟨e, he, eEnds⟩ := exists_ends_of_isSource hm
  rcases List.suffix_or_suffix_of_suffix dEnds eEnds with inside | inside
  · exact eq_of_extensions_suffix l l.mem_all m m.mem_all d hd e he
      (List.isSuffixOf_iff_suffix.2 inside)
  · exact (eq_of_extensions_suffix m m.mem_all l l.mem_all e he d hd
      (List.isSuffixOf_iff_suffix.2 inside)).symm

theorem isSource_of_ofPath? {l : Language} {path : String} (h : ofPath? path = some l) :
    l.isSource path = true :=
  List.find?_some (p := fun l => isSource l path) h

/-- A path has a language exactly if it is a source file of it. -/
theorem ofPath?_eq_some_iff {l : Language} {path : String} :
    ofPath? path = some l ↔ l.isSource path = true := by
  refine ⟨isSource_of_ofPath?, fun own => ?_⟩
  cases found : ofPath? path with
  | none => exact absurd own (List.find?_eq_none.1 found l l.mem_all)
  | some m => rw [eq_of_isSource own (isSource_of_ofPath? found)]

/-- Whether a path is a source file is told by its last name. -/
theorem isSource_join (l : Language) (path : List String) :
    l.isSource (Path.join path) = l.isSource (path.getLastD "") := by
  have noSlash : ∀ m ∈ all, ∀ e ∈ m.extensions, '/' ∉ e.toList := by decide
  rw [isSource, isSource, Path.ends_join (by decide)]
  congr 1
  exact any_congr_of_mem fun e he => Path.ends_join (noSlash l l.mem_all e he) path

end Language

namespace Folder

/-! ## Folders above a file -/

/-- The last names of the folders above a path are its names but for the last. -/
theorem map_getLastD_foldersAbove (path : List String) :
    (foldersAbove path).map (·.getLastD "") = path.dropLast := by
  refine List.ext_getElem (by simp [foldersAbove]) fun i hi _ => ?_
  have here : i < path.length := by
    simp only [foldersAbove, List.length_map, List.length_range] at hi
    omega
  simp [foldersAbove, List.getLastD_eq_getLast?, List.getLast?_take, here]

/-- A file stands in no skipped folder exactly if no name above it is hidden or ignored. -/
theorem all_foldersAbove_isSkipped (ignoredNames path : List String) :
    ((foldersAbove path).all fun d => !isSkipped ignoredNames d) =
      path.dropLast.all fun name => !(isHidden name || ignoredNames.contains name) := by
  rw [← map_getLastD_foldersAbove, List.all_map]
  rfl

/-- The names of folders that are not entered by default although they count. -/
def overlookedNames : List String := ["venv", "env", "testdata"]

/-- By default folders are not entered if they are hidden, do not count or are overlooked. -/
theorem isSkipped_usual (name : String) :
    (isHidden name || Settings.usualIgnoredNames.contains name) =
      (isHidden name || uncountedNames.contains name || overlookedNames.contains name) := by
  have hidden : isHidden ".venv" = true := by decide
  by_cases isVenv : name = ".venv"
  · simp [isVenv, hidden]
  · simp only [Settings.usualIgnoredNames, uncountedNames, overlookedNames, List.contains_cons]
    grind

/-- Whether a file at a path below the root counts although it stands in a folder that is not
entered by default. -/
def isOverlooked (path : List String) : Bool :=
  counts path && path.dropLast.any overlookedNames.contains

/-- A path is entered by default exactly if detection counts it and no folder on it is overlooked.
-/
theorem isEntered_usual (path : List String) :
    ((foldersAbove path).all fun d => !isSkipped Settings.usualIgnoredNames d) =
      (counts path && !path.dropLast.any overlookedNames.contains) := by
  rw [all_foldersAbove_isSkipped, counts]
  simp only [isSkipped_usual]
  induction path.dropLast with
  | nil => rfl
  | cons name names ih =>
    rw [List.all_cons, ih, List.any_cons, List.any_cons]
    simp only [Bool.not_or, Bool.and_assoc, Bool.and_left_comm]

/-! ## Counting -/

/-- The number of overlooked source files of a language in a folder and below it. -/
def overlooked (language : Language) (f : Folder) : Nat :=
  f.files.countP fun file =>
    isOverlooked file.path && language.isSource (file.path.getLastD "")

/-- Without rules, and by default, collected are the source files that count and are not
overlooked. -/
theorem collectBy_usual (language : Language) (root : List String) (f : Folder) :
    collectBy Settings.usualIgnoredNames [] (some language) root f =
      f.files.filter fun file => (counts file.path && language.isSource (file.path.getLastD "")) &&
        !isOverlooked file.path := by
  have closed : isClosed Settings.usualIgnoredNames [] root =
      isSkipped Settings.usualIgnoredNames := funext fun path => Bool.or_false _
  rw [collectBy, closed, walk_eq_filter, List.filter_filter]
  refine List.filter_congr fun file _ => ?_
  have unignored : IgnoreRule.anyIgnores [] (some root) (root ++ file.path) = false := rfl
  rw [Option.all_some, language.isSource_join, unignored, isEntered_usual, isOverlooked]
  cases counts file.path <;> simp

/-- **What counts is what is collected and what is overlooked.** -/
theorem countOf_eq (language : Language) (root : List String) (f : Folder) :
    countOf language f =
      (collectBy Settings.usualIgnoredNames [] (some language) root f).length +
        overlooked language f := by
  have counted : countOf language f = f.files.countP fun file =>
      counts file.path && language.isSource (file.path.getLastD "") := by
    refine List.countP_congr fun file _ => ?_
    simp [Language.ofPath?_eq_some_iff]
  -- all files that count, split by whether they are overlooked
  rw [counted, List.countP_eq_countP_filter_add _ _ fun file => !isOverlooked file.path,
    List.countP_filter, List.countP_filter, collectBy_usual, List.countP_eq_length_filter]
  refine congrArg _ (List.countP_congr fun file _ => ?_)
  rw [Bool.not_not, isOverlooked]
  cases counts file.path <;> simp [Bool.and_comm]

/-! ## Detecting -/

/-- Of the languages one has the highest count, and the first of these is found if its count is not
zero. -/
theorem mostFrequent?_eq_some (count : Language → Nat) {l : Language} (some_counted : 0 < count l) :
    ∃ found, mostFrequent? count = some found ∧ 0 < count found ∧
      ∀ other, count other ≤ count found := by
  -- the highest count is reached somewhere, so that the search ends
  obtain ⟨top, htop⟩ : ∃ top, top ∈ Language.all.argmax count :=
    Option.ne_none_iff_exists'.1 (mt List.argmax_eq_none.1 (by decide))
  have greatest (other : Language) : count other ≤ count top :=
    List.le_of_mem_argmax other.mem_all htop
  cases first : Language.all.find? fun l => Language.all.all fun other => count other ≤ count l with
  | none =>
    have passed := List.find?_eq_none.1 first top top.mem_all
    exact absurd (List.all_eq_true.2 fun other _ => decide_eq_true (greatest other)) passed
  | some found =>
    have isGreatest := List.find?_some
      (p := fun l => Language.all.all fun other => count other ≤ count l) first
    have atMost (other : Language) : count other ≤ count found :=
      of_decide_eq_true (List.all_eq_true.1 isGreatest other other.mem_all)
    have positive : 0 < count found := some_counted.trans_le (atMost l)
    refine ⟨found, ?_, positive, atMost⟩
    rw [mostFrequent?, first, Option.filter_some, if_pos (decide_eq_true positive)]

/-- **The language of a project is one with the most files that count**, if any file does. -/
theorem detect_eq_ok {f : Folder} {root : String} {place : List String} {project : Folder}
    (found : f.project? root = some (place, project)) {l : Language}
    (some_counted : 0 < countOf l project) :
    ∃ language, f.detect root = .ok language ∧ 0 < countOf language project ∧
      ∀ other, countOf other project ≤ countOf language project := by
  obtain ⟨language, most, positive, greatest⟩ :=
    mostFrequent?_eq_some (countOf · project) some_counted
  refine ⟨language, ?_, positive, greatest⟩
  rw [detect, found, Option.bind_some]
  dsimp only
  rw [most]

/-! ## Projects without rules -/

/-- Where there are no files with rules, no rules hold. -/
theorem ignoreRules_eq_nil {f : Folder}
    (bare : ∀ file ∈ f.files, file.path.getLast? ≠ some ".gitignore") (place : List String) :
    f.ignoreRules place = .ok [] := by
  have own (folder : List String) : ownIgnoreRules f folder = .ok [] := by
    rw [ownIgnoreRules]
    split
    · rfl
    · next found => exact absurd List.getLast?_concat (bare _ (mem_files_of_fileAt? found))
  have all (folders : List (List String)) : ∃ none_found : List (List IgnoreRule),
      folders.mapM (ownIgnoreRules f) = .ok none_found ∧ none_found.flatten = [] := by
    induction folders with
    | nil => exact ⟨[], rfl, rfl⟩
    | cons folder folders ih =>
      obtain ⟨none_found, collected, flat⟩ := ih
      exact ⟨[] :: none_found, by rw [List.mapM_cons, own, collected]; rfl, by simpa using flat⟩
  obtain ⟨none_found, collected, flat⟩ := all (upwards place)
  rw [ignoreRules, collected]
  exact congrArg Except.ok flat

/-- The files of a project without rules are collected, in each language. -/
theorem collect_eq_ok_of_bare {f : Folder} {root : String} {place : List String} {project : Folder}
    (found : f.project? root = some (place, project))
    (bare : ∀ file ∈ f.files, file.path.getLast? ≠ some ".gitignore") (options : CollectOptions)
    (language : Language) :
    f.collect options (some language.tag) root =
      .ok ((collectBy options.ignoredNames [] (some language) place project).map fun file =>
        ⟨Path.join file.path, file.content.bytes, file.content.parsed⟩) := by
  have own : Language.resolve language.tag = .ok language := by cases language <;> rfl
  refine collect_eq_ok found ?_ ?_
  · rw [Option.mapM_some, own]
    rfl
  · rw [ignoreRules_eq_nil bare]
    exact ite_self _

/-- By default the files of a project without rules are those that count, but for the overlooked
ones. -/
theorem exists_collect_eq_ok {f : Folder} {root : String} {place : List String} {project : Folder}
    (found : f.project? root = some (place, project))
    (bare : ∀ file ∈ f.files, file.path.getLast? ≠ some ".gitignore") (respectsRules : Bool)
    (language : Language) :
    ∃ files,
      f.collect ⟨Settings.usualIgnoredNames, respectsRules⟩ (some language.tag) root = .ok files ∧
        countOf language project = files.length + overlooked language project := by
  refine ⟨_, collect_eq_ok_of_bare found bare _ language, ?_⟩
  rw [List.length_map]
  exact countOf_eq language place project

/-- **Where no rules hold, what counts for a language is what is collected in it and what is
overlooked.**  If there is anything to collect, a language with the most files that count is
detected; and if nothing is overlooked, it has the most files to collect, and at least one. -/
theorem detect_agrees_with_collect {f : Folder} {root : String} {place : List String}
    {project : Folder} (found : f.project? root = some (place, project))
    (bare : ∀ file ∈ f.files, file.path.getLast? ≠ some ".gitignore") (respectsRules : Bool) :
    ∃ collected : Language → List SourceFile,
      (∀ l, f.collect ⟨Settings.usualIgnoredNames, respectsRules⟩ (some l.tag) root =
        .ok (collected l)) ∧
      (∀ l, countOf l project = (collected l).length + overlooked l project) ∧
      ((∃ l, collected l ≠ []) → ∃ language, f.detect root = .ok language ∧
        (∀ other, countOf other project ≤ countOf language project) ∧
        ((∀ l, overlooked l project = 0) → collected language ≠ [] ∧
          ∀ other, (collected other).length ≤ (collected language).length)) := by
  choose collected read accounts using exists_collect_eq_ok found bare respectsRules
  refine ⟨collected, read, accounts, fun ⟨l, something⟩ => ?_⟩
  have counted : 0 < countOf l project := by
    have := List.length_pos_iff.2 something
    have := accounts l
    omega
  obtain ⟨language, detected, positive, greatest⟩ := detect_eq_ok found counted
  refine ⟨language, detected, greatest, fun nothing => ?_⟩
  have all_collected (l : Language) : countOf l project = (collected l).length := by
    rw [accounts, nothing, Nat.add_zero]
  simp only [all_collected] at positive greatest
  exact ⟨List.length_pos_iff.1 positive, greatest⟩

/-- In a project with two files in a hidden folder, only the third one counts. -/
theorem detect_agrees_with_collect_hidden :
    let empty : Content := ⟨[], .malformed "" 0⟩
    let f : Folder :=
      [.file "main.go" empty, .folder ".cache" [.file "a.py" empty, .file "b.py" empty]]
    (∀ file ∈ f.files, file.path.getLast? ≠ some ".gitignore") ∧
      ∃ language files, f.detect "." = .ok language ∧
        f.collect ⟨Settings.usualIgnoredNames, true⟩ (some language.tag) "." = .ok files ∧
          files ≠ [] := by
  intro empty f
  have bare : ∀ file ∈ f.files, file.path.getLast? ≠ some ".gitignore" := by
    have files : f.files = [⟨["main.go"], empty⟩, ⟨[".cache", "a.py"], empty⟩,
        ⟨[".cache", "b.py"], empty⟩] := by cbv
    simp [files]
  have one : (f.collect ⟨Settings.usualIgnoredNames, true⟩ (some Language.go.tag) ".").map
      (·.length) = .ok 1 := by cbv
  have nothing : ∀ l, overlooked l f = 0 := by
    intro l
    cases l <;> cbv
  have found : f.project? "." = some ([], f) := rfl
  obtain ⟨collected, read, -, detects⟩ := detect_agrees_with_collect found bare true
  have something : collected .go ≠ [] := by
    intro none_collected
    rw [read, none_collected] at one
    cases one
  obtain ⟨language, detected, -, most⟩ := detects ⟨_, something⟩
  exact ⟨bare, language, collected language, detected, read language, (most nothing).1⟩

/-- Three files count, but only one of them can be collected, and not in the language that is
detected. -/
theorem overlooked_files_count :
    let empty : Content := ⟨[], .malformed "" 0⟩
    let f : Folder :=
      [.folder "p" [.file "main.go" empty, .folder "venv" [.file "a.py" empty, .file "b.py" empty]]]
    f.detect "p" = .ok .python ∧
      (f.collect ⟨Settings.usualIgnoredNames, true⟩ (some "python") "p").map (·.length) = .ok 0 := by
  cbv

end Folder
end Concord
