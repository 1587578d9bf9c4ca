import Mathlib
import Concord.Folder.Collect
import Concord.Proofs.Folder.Walk

/-!
# Concord.Proofs.Folder.Pruning

Which files are collected, told file by file.  A folder is not entered if a rule ignores an entry
`_` of it, whatever the folder holds.  Such a rule stands for the folder or for one around it, and
then it ignores everything in the folder as well — or it stands for the name `_` alone
(`IgnoreRule.namesEntry`), and then files are left out that no rule ignores:
`underscore_rule_closes_folders`.

* `IgnoreRule.ignores_entry` — a rule ignores an entry for its own sake or with its folder;
* `IgnoreRule.ignores_of_coversFolder` — with a folder it ignores everything below it;
* `collectBy_eq_filter` — so the files that are collected are all wanted files below folders that
  are neither skipped nor closed by a rule for `_`.
-/

namespace Concord

theorem any_congr_of_mem {β : Type} {q r : β → Bool} {xs : List β} (h : ∀ x ∈ xs, q x = r x) :
    xs.any q = xs.any r := by
  rw [Bool.eq_iff_iff, List.any_eq_true, List.any_eq_true]
  exact exists_congr fun x => and_congr_right fun hx => by rw [h x hx]

/-! ## Patterns -/

namespace IgnorePattern

variable (accepts : List Char → List Char → Bool) (p : IgnorePattern) (above : Nat)

/-- Whether a pattern stands for one of the names, or for one of the leading parts of the path that
they make. -/
def coversAny (names : List String) : Bool :=
  if p.isPath then
    (List.range names.length).any fun i =>
      above ≤ i && accepts p.glob (Path.join (names.take (i + 1))).toList
  else (names.drop above).any fun name => accepts p.glob name.toList

/-- Whether a pattern stands for the last of some names, or for the whole path. -/
def coversEnd (front : List String) (last : String) : Bool :=
  decide (above ≤ front.length) &&
    accepts p.glob (if p.isPath then Path.join (front ++ [last]) else last).toList

theorem covers_eq (names : List String) :
    p.covers accepts above names =
      p.coversAny accepts above (if p.onlyFolders then names.dropLast else names) := rfl

/-- A rule covers a path by the folders on the way or by its end. -/
theorem coversAny_concat (front : List String) (last : String) :
    p.coversAny accepts above (front ++ [last]) =
      (p.coversAny accepts above front || p.coversEnd accepts above front last) := by
  unfold coversAny coversEnd
  cases p.isPath with
  | true =>
      simp only [if_true]
      rw [List.length_append, List.length_singleton, List.range_succ, List.any_append,
        List.any_cons, List.any_nil, Bool.or_false, List.take_of_length_le (by simp)]
      refine congrArg (· || _) (any_congr_of_mem fun i hi => ?_)
      rw [List.take_append_of_le_length (List.mem_range.1 hi)]
  | false =>
      simp only [Bool.false_eq_true, if_false]
      by_cases h : above ≤ front.length
      · rw [List.drop_append_of_le_length h]
        simp [h]
      · rw [List.drop_of_length_le (by simp; omega), List.drop_of_length_le (by omega)]
        simp [h]

/-- What stands for a path stands for every path below it. -/
theorem coversAny_append {front : List String} (h : p.coversAny accepts above front = true)
    (rest : List String) : p.coversAny accepts above (front ++ rest) = true := by
  induction rest using List.reverseRecOn with
  | nil => rwa [List.append_nil]
  | append_singleton rest last ih => rw [← List.append_assoc, coversAny_concat, ih, Bool.true_or]

end IgnorePattern

/-! ## Rules -/

namespace IgnoreRule

variable (rule : IgnoreRule) (root? : Option (List String)) (folder : List String)

/-- Whether a rule stands for a folder or for one around it. -/
def coversFolder : Bool :=
  match IgnorePattern.ofText? rule.pattern.toList, Path.below? rule.folder folder with
  | some p, some below => p.coversAny Text.globAccepts (namesAbove rule.folder root?) below
  | _, _ => false

/-- Whether a rule stands for an entry of a folder for the sake of the entry's own name or path. -/
def namesEntry (name : String) : Bool :=
  match IgnorePattern.ofText? rule.pattern.toList, Path.below? rule.folder folder with
  | some p, some below =>
    !p.onlyFolders && p.coversEnd Text.globAccepts (namesAbove rule.folder root?) below name
  | _, _ => false

variable {rule root? folder}

/-- What lies below the folder of a rule goes on below it. -/
theorem below?_append (h : rule.folder <+: folder) (rest : List String) :
    ∃ below, Path.below? rule.folder folder = some below ∧
      Path.below? rule.folder (folder ++ rest) = some (below ++ rest) := by
  obtain ⟨below, rfl⟩ := h
  refine ⟨below, by simp [Path.below?], ?_⟩
  rw [List.append_assoc]
  simp [Path.below?]

/-- What a rule says of something below a folder. -/
theorem ignores_append (h : rule.folder <+: folder) {rest : List String} (hrest : rest ≠ []) :
    rule.ignores root? (folder ++ rest) =
      match IgnorePattern.ofText? rule.pattern.toList, Path.below? rule.folder folder with
      | some p, some below =>
        p.covers Text.globAccepts (namesAbove rule.folder root?) (below ++ rest)
      | _, _ => false := by
  obtain ⟨below, hbelow, hlong⟩ := below?_append h rest
  rw [ignores, ignoresBy, hbelow, hlong]
  cases IgnorePattern.ofText? rule.pattern.toList with
  | none => rfl
  | some p =>
      have : (below ++ rest).isEmpty = false := by simp [hrest]
      simp only [this, Bool.false_eq_true, if_false]

/-- A rule ignores an entry of a folder with the folder, or for the sake of the entry itself. -/
theorem ignores_entry (h : rule.folder <+: folder) (name : String) :
    rule.ignores root? (folder ++ [name]) =
      (rule.coversFolder root? folder || rule.namesEntry root? folder name) := by
  rw [ignores_append h (List.cons_ne_nil name []), coversFolder, namesEntry]
  cases IgnorePattern.ofText? rule.pattern.toList with
  | none => rfl
  | some p =>
      cases Path.below? rule.folder folder with
      | none => rfl
      | some below =>
          simp only [IgnorePattern.covers_eq]
          cases p.onlyFolders with
          | true => simp
          | false => simp [IgnorePattern.coversAny_concat]

/-- With a folder a rule ignores everything below it. -/
theorem ignores_of_coversFolder (h : rule.folder <+: folder)
    (covers : rule.coversFolder root? folder = true) {rest : List String} (hrest : rest ≠ []) :
    rule.ignores root? (folder ++ rest) = true := by
  rw [ignores_append h hrest]
  rw [coversFolder] at covers
  split at covers
  · next p below hp hbelow =>
    simp only [IgnorePattern.covers_eq]
    cases p.onlyFolders with
    | true =>
        rw [if_pos rfl, List.dropLast_append_of_ne_nil hrest]
        exact p.coversAny_append _ _ covers _
    | false =>
        rw [if_neg Bool.false_ne_true]
        exact p.coversAny_append _ _ covers _
  · contradiction

end IgnoreRule

/-! ## Collecting -/

namespace Folder

/-- What is collected from a project, if the language and the rules can be read. -/
theorem collect_eq_ok {f project : Folder} {path : String} {place : List String}
    (found : f.project? path = some (place, project)) {options : CollectOptions}
    {tag? : Option String} {language? : Option Language} {rules : List IgnoreRule}
    (resolved : tag?.mapM Language.resolve = .ok language?)
    (ruled : (if options.respectsRules then f.ignoreRules place else pure []) = .ok rules) :
    f.collect options tag? path =
      .ok ((collectBy options.ignoredNames rules language? place project).map fun file =>
        ⟨Path.join file.path, file.content.bytes, file.content.parsed⟩) := by
  rw [collect, found]
  split at ruled
  · next on => simp only [resolved, on, ruled, if_true, bind, Except.bind, pure, Except.pure]
  · next off =>
    cases ruled
    simp only [resolved, off, Bool.false_eq_true, if_false, bind, Except.bind, pure, Except.pure]

/-- Whether a folder is not entered for the sake of its name. -/
def isSkipped (ignoredNames : List String) (path : List String) : Bool :=
  isHidden (path.getLastD "") || ignoredNames.contains (path.getLastD "")

/-- Whether a file at a path below the root counts by itself: it is in the right language, and no
rule ignores it. -/
def isWanted (rules : List IgnoreRule) (language? : Option Language) (root path : List String) :
    Bool :=
  language?.all (·.isSource (Path.join path)) &&
    !IgnoreRule.anyIgnores rules (some root) (root ++ path)

/-- Whether a rule closes a folder below the root although it stands neither for the folder nor for
one around it. -/
def isMistaken (rules : List IgnoreRule) (root path : List String) : Bool :=
  rules.any fun rule => rule.namesEntry (some root) (root ++ path) "_"

variable {ignoredNames : List String} {rules : List IgnoreRule} {root : List String}

/-- Above a file that no rule ignores, folders are closed for their names or by mistake. -/
theorem isClosed_above (atRoot : ∀ rule ∈ rules, rule.folder <+: root) {path folder : List String}
    (hfolder : folder ∈ foldersAbove path)
    (kept : IgnoreRule.anyIgnores rules (some root) (root ++ path) = false) :
    isClosed ignoredNames rules root folder =
      (isSkipped ignoredNames folder || isMistaken rules root folder) := by
  obtain ⟨i, hi, rfl⟩ := List.mem_map.1 hfolder
  have below : path.drop (i + 1) ≠ [] := by
    rw [List.mem_range] at hi
    simp only [ne_eq, List.drop_eq_nil_iff]
    omega
  have split : root ++ path = root ++ path.take (i + 1) ++ path.drop (i + 1) := by
    rw [List.append_assoc, List.take_append_drop]
  rw [isClosed, isSkipped, isMistaken, IgnoreRule.anyIgnores]
  refine congrArg _ (any_congr_of_mem fun rule hrule => ?_)
  have around : rule.folder <+: root ++ path.take (i + 1) :=
    (atRoot rule hrule).trans (List.prefix_append _ _)
  have clear : rule.coversFolder (some root) (root ++ path.take (i + 1)) = false := by
    rw [IgnoreRule.anyIgnores, List.any_eq_false] at kept
    by_contra covers
    exact kept rule hrule (split ▸
      IgnoreRule.ignores_of_coversFolder around (Bool.not_eq_false _ ▸ covers) below)
  rw [IgnoreRule.ignores_entry around, clear, Bool.false_or]

/-- **The files that are collected are the wanted files below folders that are neither skipped nor
closed by mistake.  If no rule stands for an entry `_`, they are the wanted files below folders that
are not skipped.** -/
theorem collectBy_eq_filter (ignoredNames : List String) (rules : List IgnoreRule)
    (language? : Option Language) (root : List String) (f : Folder)
    (atRoot : ∀ rule ∈ rules, rule.folder <+: root) :
    collectBy ignoredNames rules language? root f =
        f.files.filter (fun file => isWanted rules language? root file.path &&
          (foldersAbove file.path).all fun d =>
            !isSkipped ignoredNames d && !isMistaken rules root d) ∧
      ((∀ d, isMistaken rules root d = false) →
        collectBy ignoredNames rules language? root f =
          f.files.filter fun file => isWanted rules language? root file.path &&
            (foldersAbove file.path).all fun d => !isSkipped ignoredNames d) := by
  have main : collectBy ignoredNames rules language? root f =
      f.files.filter (fun file => isWanted rules language? root file.path &&
        (foldersAbove file.path).all fun d =>
          !isSkipped ignoredNames d && !isMistaken rules root d) := by
    rw [collectBy, walk_eq_filter, List.filter_filter]
    refine List.filter_congr fun file _ => ?_
    change (isWanted rules language? root file.path && _) = _
    cases wanted : isWanted rules language? root file.path with
    | false => rfl
    | true =>
        rw [isWanted, Bool.and_eq_true, Bool.not_eq_true'] at wanted
        rw [Bool.true_and, Bool.true_and]
        rw [Bool.eq_iff_iff, List.all_eq_true, List.all_eq_true]
        refine forall₂_congr fun d hd => ?_
        rw [isClosed_above atRoot hd wanted.2, Bool.not_or]
  refine ⟨main, fun blind => ?_⟩
  rw [main]
  refine List.filter_congr fun file _ => ?_
  simp only [blind, Bool.not_false, Bool.and_true]

/-- A rule for a folder is in force above the root, and another folder is hidden. -/
theorem collectBy_eq_filter_build :
    let rules : List IgnoreRule := [⟨"build/", []⟩]
    let empty : Content := ⟨[], .malformed "" 0⟩
    let f : Folder :=
      [.folder "src" [.file "b.go" empty, .folder ".git" [.file "x" empty]],
       .folder "build" [.file "a.go" empty]]
    (∀ rule ∈ rules, rule.folder <+: ["project"]) ∧
      (collectBy ["vendor"] rules none ["project"] f).map (·.path) = [["src", "b.go"]] := by
  intro rules empty f
  have atRoot : ∀ rule ∈ rules, rule.folder <+: ["project"] := by decide
  refine ⟨atRoot, ?_⟩
  rw [(collectBy_eq_filter ["vendor"] rules none ["project"] f atRoot).1]
  cbv

/-- A rule for names that begin with an underscore closes a folder, although it ignores neither the
folder nor the file in it. -/
theorem underscore_rule_closes_folders :
    let rules : List IgnoreRule := [⟨"_*", ["project"]⟩]
    let f : Folder := [.folder "a" [.file "x.txt" ⟨[], .malformed "" 0⟩]]
    (f.files.filter fun file => isWanted rules none ["project"] file.path &&
        (foldersAbove file.path).all fun d => !isSkipped [] d).map (·.path) = [["a", "x.txt"]] ∧
      (collectBy [] rules none ["project"] f).map (·.path) = [] := by
  decide +kernel

end Folder
end Concord
