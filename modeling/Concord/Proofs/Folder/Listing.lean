import Mathlib
import Concord.Proofs.Folder.Names
import Concord.Proofs.Folder.Pruning

/-!
# Concord.Proofs.Folder.Listing

The order in which files are collected.  In every folder the files come first, by name, and then
what is in the folders, by name.  This is not the order of the paths as texts:

```
a/x.go     listed behind `b.go`, a file beside the folder `a`
a-b/x.go   listed behind everything in the folder `a`, although `-` comes before `/`
```

* `pairwise_walk` — the paths of a walk come in the order of listings (`ComesBefore`);
* `join_lt_join_iff` — of two paths, the first one is also the first text unless they are misplaced
  (`IsMisplaced`) like those above;
* `collect_isListing` — so the paths of a project are all different, and they ascend exactly if none
  of them are misplaced.
-/

namespace Concord

/-! ## The order of texts -/

namespace Text

/-- What stands behind a text makes no difference to what comes before it, unless this begins with
the text. -/
theorem lt_append_iff {s t : List Char} (h : ¬ t <+: s) (v : List Char) : s < t ++ v ↔ s < t := by
  induction s generalizing t with
  | nil =>
    cases t with
    | nil => exact absurd List.nil_prefix h
    | cons d t => exact iff_of_true (List.nil_lt_cons _ _) (List.nil_lt_cons _ _)
  | cons c s ih =>
    cases t with
    | nil => exact absurd List.nil_prefix h
    | cons d t =>
      rw [List.cons_append, List.cons_lt_cons_iff, List.cons_lt_cons_iff]
      refine or_congr_right (and_congr_right fun same => ih fun inside => h ?_)
      exact same ▸ List.cons_prefix_cons.2 ⟨rfl, inside⟩

/-- What stands behind two texts makes no difference, unless one of them begins with the other. -/
theorem append_lt_append_iff {s t : List Char} (hs : ¬ s <+: t) (ht : ¬ t <+: s)
    (u v : List Char) : s ++ u < t ++ v ↔ s < t := by
  induction s generalizing t with
  | nil => exact absurd List.nil_prefix hs
  | cons c s ih =>
    cases t with
    | nil => exact absurd List.nil_prefix ht
    | cons d t =>
      rw [List.cons_append, List.cons_append, List.cons_lt_cons_iff, List.cons_lt_cons_iff]
      refine or_congr_right (and_congr_right fun same => ?_)
      subst same
      exact ih (fun inside => hs (List.cons_prefix_cons.2 ⟨rfl, inside⟩))
        fun inside => ht (List.cons_prefix_cons.2 ⟨rfl, inside⟩)

/-- What stands in front of two texts makes no difference. -/
theorem append_lt_append_left_iff (s : List Char) {u v : List Char} : s ++ u < s ++ v ↔ u < v := by
  induction s with
  | nil => exact Iff.rfl
  | cons c s ih =>
    rw [List.cons_append, List.cons_append, List.cons_lt_cons_iff, ih]
    exact ⟨fun h => h.elim (fun own => absurd own (lt_irrefl c)) And.right, fun h => .inr ⟨rfl, h⟩⟩

end Text

namespace Folder

/-! ## The order of listings -/

/-- Whether a listing has one path before another: where they part, a file comes before a folder,
and two files or two folders come by their names. -/
inductive ComesBefore : List String → List String → Prop
  | file {a b : String} {q : List String} (hq : q ≠ []) : ComesBefore [a] (b :: q)
  | files {a b : String} (less : a < b) : ComesBefore [a] [b]
  | folders {a b : String} {p q : List String} (hp : p ≠ []) (hq : q ≠ []) (less : a < b) :
      ComesBefore (a :: p) (b :: q)
  | inside (name : String) {p q : List String} (h : ComesBefore p q) :
      ComesBefore (name :: p) (name :: q)

namespace ComesBefore

variable {p q : List String}

theorem ne_nil (h : ComesBefore p q) : p ≠ [] ∧ q ≠ [] := by
  cases h <;> exact ⟨List.cons_ne_nil _ _, List.cons_ne_nil _ _⟩

/-- Paths in order stay in order below one folder. -/
theorem append (h : ComesBefore p q) (path : List String) : ComesBefore (path ++ p) (path ++ q) := by
  induction path with
  | nil => exact h
  | cons name path ih => exact .inside name ih

/-- No two paths come before each other. -/
theorem asymm (h : ComesBefore p q) : ¬ ComesBefore q p := by
  intro back
  induction h with
  | file hq =>
    cases back with
    | file _ => exact hq rfl
    | files _ => exact hq rfl
    | folders _ hp _ => exact hp rfl
    | inside _ back => exact back.ne_nil.2 rfl
  | files less =>
    cases back with
    | file hp => exact hp rfl
    | files greater => exact String.lt_asymm less greater
    | folders hp _ _ => exact hp rfl
    | inside _ back => exact back.ne_nil.1 rfl
  | folders hp hq less =>
    cases back with
    | file _ => exact hq rfl
    | files _ => exact hp rfl
    | folders _ _ greater => exact String.lt_asymm less greater
    | inside _ _ => exact String.lt_irrefl _ less
  | inside name h ih =>
    cases back with
    | file _ => exact h.ne_nil.2 rfl
    | files same => exact String.lt_irrefl _ same
    | folders _ _ same => exact String.lt_irrefl _ same
    | inside _ back => exact ih back

end ComesBefore

/-- Whether a listing has one path before another that comes first as a text: where they part, a file
stands beside a folder whose name with a slash is less, or the names of two folders change places
with the slashes behind them. -/
inductive IsMisplaced : List String → List String → Prop
  | file {a b : String} {q : List String} (hq : q ≠ []) (less : b ++ "/" < a) :
      IsMisplaced [a] (b :: q)
  | folders {a b : String} {p q : List String} (hp : p ≠ []) (hq : q ≠ []) (less : a < b)
      (slashes : b ++ "/" < a ++ "/") : IsMisplaced (a :: p) (b :: q)
  | inside (name : String) {p q : List String} (h : IsMisplaced p q) :
      IsMisplaced (name :: p) (name :: q)

namespace IsMisplaced

variable {a b : String} {p q : List String}

/-- Misplaced paths come in the order of the listing. -/
theorem comesBefore (h : IsMisplaced p q) : ComesBefore p q := by
  induction h with
  | file hq _ => exact .file hq
  | folders hp hq less _ => exact .folders hp hq less
  | inside name _ ih => exact .inside name ih

/-- A file and a path below a folder are misplaced by the folder's name with a slash. -/
theorem file_iff (hq : q ≠ []) : IsMisplaced [a] (b :: q) ↔ b ++ "/" < a := by
  refine ⟨fun h => ?_, .file hq⟩
  cases h with
  | file _ less => exact less
  | folders hp _ _ _ => exact absurd rfl hp
  | inside _ h => exact absurd rfl h.comesBefore.ne_nil.1

/-- Paths below two folders are misplaced by the names of the folders with slashes. -/
theorem folders_iff (hp : p ≠ []) (hq : q ≠ []) (less : a < b) :
    IsMisplaced (a :: p) (b :: q) ↔ b ++ "/" < a ++ "/" := by
  refine ⟨fun h => ?_, .folders hp hq less⟩
  cases h with
  | file _ _ => exact absurd rfl hp
  | folders _ _ _ slashes => exact slashes
  | inside _ _ => exact absurd less (String.lt_irrefl _)

/-- Paths below one folder are misplaced as they are within it. -/
theorem inside_iff (hp : p ≠ []) : IsMisplaced (a :: p) (a :: q) ↔ IsMisplaced p q := by
  refine ⟨fun h => ?_, .inside a⟩
  cases h with
  | file _ _ => exact absurd rfl hp
  | folders _ _ same _ => exact absurd same (String.lt_irrefl _)
  | inside _ h => exact h

/-- Two files beside each other stand in the order of their names. -/
theorem not_files : ¬ IsMisplaced [a] [b] := by
  intro h
  cases h with
  | file hq _ => exact hq rfl
  | folders hp _ _ _ => exact hp rfl
  | inside _ h => exact h.comesBefore.ne_nil.1 rfl

end IsMisplaced

theorem lt_iff_not_lt {s t : String} (ne : t ≠ s) : s < t ↔ ¬ t < s :=
  ⟨String.lt_asymm, fun h =>
    String.not_le.1 fun ge => ne (String.le_antisymm ge (String.not_lt.1 h))⟩

/-- A joined path is its first name, a slash and the others joined. -/
theorem toList_join_cons (a : String) {p : List String} (hp : p ≠ []) :
    (Path.join (a :: p)).toList = (a ++ "/").toList ++ (Path.join p).toList := by
  obtain ⟨b, r, rfl⟩ := List.exists_cons_of_ne_nil hp
  rw [Path.join, String.intercalate_cons_cons, String.toList_append]
  rfl

/-- A name with a slash does not begin a name without one. -/
theorem not_prefix_of_noSlash {a b : String} (ha : '/' ∉ a.toList) :
    ¬ (b ++ "/").toList <+: a.toList :=
  fun inside => ha (inside.subset (by simp))

/-- Of two different names with slashes, neither begins the other. -/
theorem not_prefix_slash {a b : String} (ha : '/' ∉ a.toList) (ne : a ≠ b) :
    ¬ (b ++ "/").toList <+: (a ++ "/").toList := by
  rw [String.toList_append (s := a)]
  intro inside
  rcases List.prefix_concat_iff.1 inside with whole | within
  · refine ne (String.toList_inj.1 ?_).symm
    rw [String.toList_append] at whole
    exact List.append_inj_left' whole rfl
  · exact not_prefix_of_noSlash ha within

/-- **The first of two paths is also the first text, unless they are misplaced.** -/
theorem join_lt_join_iff {p q : List String} (h : ComesBefore p q) (hp : ∀ n ∈ p, IsFileName n)
    (hq : ∀ n ∈ q, IsFileName n) : Path.join p < Path.join q ↔ ¬ IsMisplaced p q := by
  induction h with
  | @file a b q below =>
    have noSlash := (hp a List.mem_cons_self).noSlash
    have single : Path.join [a] = a := String.intercalate_singleton
    have ne : b ++ "/" ≠ a := by
      rintro rfl
      exact not_prefix_of_noSlash noSlash (List.prefix_refl _)
    rw [IsMisplaced.file_iff below, ← lt_iff_not_lt ne, single, String.lt_iff_toList_lt,
      toList_join_cons b below, Text.lt_append_iff (not_prefix_of_noSlash noSlash),
      ← String.lt_iff_toList_lt]
  | @files a b less =>
    have single (c : String) : Path.join [c] = c := String.intercalate_singleton
    rw [single, single]
    exact iff_of_true less IsMisplaced.not_files
  | @folders a b p q belowA belowB less =>
    have noSlashA := (hp a List.mem_cons_self).noSlash
    have noSlashB := (hq b List.mem_cons_self).noSlash
    have different : a ≠ b := fun same => String.lt_irrefl _ (same ▸ less)
    have ne : b ++ "/" ≠ a ++ "/" := fun same =>
      not_prefix_slash noSlashA different (same ▸ List.prefix_refl _)
    rw [IsMisplaced.folders_iff belowA belowB less, ← lt_iff_not_lt ne, String.lt_iff_toList_lt,
      toList_join_cons a belowA, toList_join_cons b belowB,
      Text.append_lt_append_iff (not_prefix_slash noSlashB different.symm)
        (not_prefix_slash noSlashA different), ← String.lt_iff_toList_lt]
  | @inside name p q h ih =>
    rw [IsMisplaced.inside_iff h.ne_nil.1, String.lt_iff_toList_lt,
      toList_join_cons name h.ne_nil.1, toList_join_cons name h.ne_nil.2,
      Text.append_lt_append_left_iff, ← String.lt_iff_toList_lt]
    exact ih (fun n hn => hp n (List.mem_cons_of_mem _ hn))
      fun n hn => hq n (List.mem_cons_of_mem _ hn)

/-! ## Walks -/

variable {closed : List String → Bool}

/-- The path of a file goes on behind an entry exactly if the entry is a folder. -/
theorem exists_of_mem_filesOf {path : List String} {file : Found} {e : Entry}
    (h : file ∈ filesOf closed path e) :
    ∃ rest, file.path = path ++ e.name :: rest ∧ (e.isFolder = true ↔ rest ≠ []) := by
  cases e with
  | file name content =>
    rw [filesOf, List.mem_singleton] at h
    exact ⟨[], by rw [h]; rfl, by simp [Entry.isFolder]⟩
  | folder name entries =>
    rw [filesOf] at h
    split at h
    · simp at h
    · obtain ⟨e, -, h⟩ := mem_walk_iff.1 h
      obtain ⟨rest, split⟩ := prefix_of_mem_filesOf h
      refine ⟨e.name :: rest, ?_, by simp [Entry.isFolder]⟩
      rw [← split]
      simp [Entry.name]

/-- The names on the way to a file are names of entries. -/
theorem IsWellNamed.isFileName {f : Folder} (sound : IsWellNamed f) {path : List String}
    (above : ∀ n ∈ path, IsFileName n) {file : Found} (h : file ∈ walk closed path f) :
    ∀ n ∈ file.path, IsFileName n := by
  induction sound generalizing path with
  | intro names _ _ ih =>
    obtain ⟨e, he, h⟩ := mem_walk_iff.1 h
    have way : ∀ n ∈ path ++ [e.name], IsFileName n := by
      simp only [List.mem_append, List.mem_singleton]
      rintro n (hn | rfl)
      · exact above n hn
      · exact names e he
    cases e with
    | file name content =>
      rw [filesOf, List.mem_singleton] at h
      rwa [h]
    | folder name entries =>
      rw [filesOf] at h
      split at h
      · simp at h
      · exact ih name entries he way h

/-- What two entries hold is listed in the order of the entries. -/
theorem comesBefore_of_before {path : List String} {a b : Entry} (ne : a.name ≠ b.name)
    (h : before ((a.isFolder, a.name), filesOf closed path a)
      ((b.isFolder, b.name), filesOf closed path b) = true) {x y : Found}
    (hx : x ∈ filesOf closed path a) (hy : y ∈ filesOf closed path b) :
    ComesBefore x.path y.path := by
  obtain ⟨p, pathX, folderA⟩ := exists_of_mem_filesOf hx
  obtain ⟨q, pathY, folderB⟩ := exists_of_mem_filesOf hy
  rw [pathX, pathY]
  refine ComesBefore.append ?_ path
  rw [before] at h
  split at h
  · next same =>
    have less : a.name < b.name := lt_of_le_of_ne (of_decide_eq_true h) ne
    change a.isFolder = b.isFolder at same
    cases p with
    | nil =>
      cases q with
      | nil => exact .files less
      | cons m q => simp_all
    | cons n p =>
      cases q with
      | nil => simp_all
      | cons m q => exact .folders (List.cons_ne_nil n p) (List.cons_ne_nil m q) less
  · next differ =>
    change ¬ a.isFolder = b.isFolder at differ
    change b.isFolder = true at h
    have single : p = [] := by
      by_contra more
      exact differ ((folderA.2 more).trans h.symm)
    exact single ▸ .file (folderB.1 h)

/-- **The paths of a walk come in the order of listings.** -/
theorem pairwise_walk {f : Folder} (sound : IsWellNamed f) (path : List String) :
    (walk closed path f).Pairwise fun x y => ComesBefore x.path y.path := by
  induction sound generalizing path with
  | @intro f _ distinct _ ih =>
    have sorted : ((filesOfAll closed path f).mergeSort before).Pairwise (before · · = true) :=
      List.pairwise_mergeSort (fun a b c => by grind [before]) (fun a b => by grind [before]) _
    have names : ((filesOfAll closed path f).mergeSort before).Pairwise (·.1.2 ≠ ·.1.2) := by
      refine ((List.mergeSort_perm _ _).pairwise_iff Ne.symm).2 ?_
      rw [filesOfAll_eq, List.pairwise_map]
      exact List.pairwise_map.1 distinct
    have entry {listed : (Bool × String) × List Found}
        (h : listed ∈ (filesOfAll closed path f).mergeSort before) :
        ∃ e ∈ f, ((e.isFolder, e.name), filesOf closed path e) = listed := by
      rw [List.mem_mergeSort, filesOfAll_eq] at h
      exact List.mem_map.1 h
    refine List.pairwise_flatMap.2 ⟨fun listed h => ?_, ?_⟩
    · obtain ⟨e, he, rfl⟩ := entry h
      cases e with
      | file name content => exact List.pairwise_singleton _ _
      | folder name entries =>
        change (filesOf closed path _).Pairwise _
        rw [filesOf]
        split
        · exact List.Pairwise.nil
        · exact ih name entries he (path ++ [name])
    · refine (sorted.and names).imp_of_mem fun {a b} ha hb order x hx y hy => ?_
      obtain ⟨d, -, rfl⟩ := entry ha
      obtain ⟨e, -, rfl⟩ := entry hb
      exact comesBefore_of_before order.2 order.1 hx hy

/-! ## Collected paths -/

/-- Whether paths are listed as those of a project: they are all different and come in the order of
listings, and they ascend if none of them are misplaced. -/
structure IsListing (paths : List String) : Prop where
  distinct : paths.Nodup
  listed : paths.Pairwise fun p q => ComesBefore (namesOf p) (namesOf q)
  ascend_iff : paths.Pairwise (· < ·) ↔
    ∀ p ∈ paths, ∀ q ∈ paths, ¬ IsMisplaced (namesOf p) (namesOf q)

/-- Paths in the order of a listing, joined, are a listing. -/
theorem isListing_join {paths : List (List String)} (listed : paths.Pairwise ComesBefore)
    (names : ∀ p ∈ paths, ∀ n ∈ p, IsFileName n) : IsListing (paths.map Path.join) := by
  have read : ∀ p ∈ paths, namesOf (Path.join p) = p := fun p hp => namesOf_join (names p hp)
  refine ⟨?_, ?_, ?_⟩
  · refine List.pairwise_map.2 (listed.imp_of_mem fun {p q} hp hq h same => ?_)
    have eq : p = q := by rw [← read p hp, same, read q hq]
    exact h.asymm (eq ▸ h)
  · refine List.pairwise_map.2 (listed.imp_of_mem fun {p q} hp hq h => ?_)
    rwa [read p hp, read q hq]
  · have order : paths.Pairwise fun p q =>
        ComesBefore p q ∧ (Path.join p < Path.join q ↔ ¬ IsMisplaced p q) :=
      listed.imp_of_mem fun hp hq h => ⟨h, join_lt_join_iff h (names _ hp) (names _ hq)⟩
    simp only [List.pairwise_map, List.forall_mem_map]
    constructor
    · intro ascend
      have clear : paths.Pairwise fun p q => ¬ IsMisplaced p q ∧ ¬ IsMisplaced q p :=
        (order.and ascend).imp fun h =>
          ⟨h.1.2.1 h.2, fun back => h.1.1.asymm back.comesBefore⟩
      have self (p : List String) : ¬ IsMisplaced p p := fun h => h.comesBefore.asymm h.comesBefore
      have : Std.Symm fun p q : List String => ¬ IsMisplaced p q ∧ ¬ IsMisplaced q p :=
        ⟨fun _ _ => And.symm⟩
      intro p hp q hq
      rw [read p hp, read q hq]
      exact (clear.forall_of_forall (fun p _ => ⟨self p, self p⟩) hp hq).1
    · intro clear
      refine order.imp_of_mem fun {p q} hp hq h => h.2.2 ?_
      have own := clear p hp q hq
      rwa [read p hp, read q hq] at own

/-- **The paths of a project are all different and come in the order of listings; they ascend exactly
if none of them are misplaced.** -/
theorem collect_isListing {f project : Folder} {root : String} {place : List String}
    (sound : IsWellNamed f) (found : f.project? root = some (place, project))
    (options : CollectOptions) (tag? : Option String)
    (known : ∀ tag ∈ tag?, ∃ language, Language.resolve tag = .ok language)
    (ruled : options.respectsRules = true → ∃ rules, f.ignoreRules place = .ok rules) :
    ∃ files, f.collect options tag? root = .ok files ∧ IsListing (files.map (·.path)) := by
  have language : ∃ language?, tag?.mapM Language.resolve = .ok language? := by
    cases tag? with
    | none => exact ⟨none, rfl⟩
    | some tag =>
      obtain ⟨language, resolved⟩ := known tag rfl
      exact ⟨some language, by rw [Option.mapM_some, resolved]; rfl⟩
  have rules : ∃ rules, (if options.respectsRules then f.ignoreRules place else pure []) =
      .ok rules := by
    split
    · next on => exact ruled on
    · exact ⟨[], rfl⟩
  obtain ⟨language?, language⟩ := language
  obtain ⟨rules, ruled⟩ := rules
  have soundProject : IsWellNamed project := sound.project? found
  have inside : (collectBy options.ignoredNames rules language? place project).Sublist
      (walk (isClosed options.ignoredNames rules place) [] project) := List.filter_sublist
  refine ⟨_, collect_eq_ok found language ruled, ?_⟩
  have paths : IsListing (((collectBy options.ignoredNames rules language? place project).map
      (·.path)).map Path.join) := by
    refine isListing_join (List.pairwise_map.2 ?_) (List.forall_mem_map.2 fun file h => ?_)
    · exact (pairwise_walk soundProject []).sublist inside
    · exact soundProject.isFileName (by simp) (inside.subset h)
  rw [List.map_map] at paths ⊢
  exact paths

/-- A project with a file beside two folders. -/
def besideFolders : Folder :=
  let source (name : String) : Entry := .file name ⟨[], .malformed "" 0⟩
  [.folder "p" [source "b.go", .folder "a-b" [source "y.go"], .folder "a" [source "x.go"]]]

/-- The folder of the example has names of files and folders only. -/
theorem isWellNamed_besideFolders : IsWellNamed besideFolders := by
  let source : Content := ⟨[], .malformed "" 0⟩
  let paths := [["p", "b.go"], ["p", "a-b", "y.go"], ["p", "a", "x.go"]]
  have written : besideFolders = paths.foldl (write (some source)) [] := by rfl
  have names : ∀ path ∈ paths, ∀ n ∈ path, IsFileName n := by
    have sound : ∀ path ∈ paths, ∀ n ∈ path, n ≠ "" ∧ n ≠ "." ∧ '/' ∉ n.toList := by decide
    intro path hp n hn
    obtain ⟨nonempty, noDot, noSlash⟩ := sound path hp n hn
    exact ⟨nonempty, noDot, noSlash⟩
  rw [written]
  exact List.foldlRecOn paths _ isWellNamed_nil fun f h path hp => h.write _ (names path hp)

/-- A file beside a folder comes before those in the folder, whatever the names are. -/
theorem collect_isListing_besideFolders :
    IsWellNamed besideFolders ∧
      ∃ files, besideFolders.collect ⟨[], true⟩ (some "go") "p" = .ok files ∧
        IsListing (files.map (·.path)) := by
  refine ⟨isWellNamed_besideFolders, ?_⟩
  have found : (besideFolders.project? "p").map (·.1) = some ["p"] := by cbv
  obtain ⟨⟨place, project⟩, found, rfl⟩ := Option.map_eq_some_iff.1 found
  have rules : besideFolders.ignoreRules ["p"] = .ok [] := by cbv
  refine collect_isListing isWellNamed_besideFolders found _ _ ?_ fun _ => ⟨_, rules⟩
  intro tag h
  cases h
  exact ⟨.go, rfl⟩

/-- The file comes first, and the names of the folders come in the order that they have without
slashes: none of these three paths comes behind the one before it. -/
theorem files_are_listed_before_folders :
    IsWellNamed besideFolders ∧
      (besideFolders.collect ⟨[], true⟩ none "p").map (·.map (·.path)) =
        .ok ["b.go", "a/x.go", "a-b/y.go"] ∧
      ¬ "b.go" < "a/x.go" ∧ ¬ "a/x.go" < "a-b/y.go" := by
  exact ⟨isWellNamed_besideFolders, by cbv, by decide, by decide⟩

end Folder
end Concord
