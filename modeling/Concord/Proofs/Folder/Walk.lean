import Mathlib.Data.List.Basic
import Concord.Folder.Basic

/-!
# Concord.Proofs.Folder.Walk

A walk that passes over closed folders finds, in the same order, those of all files that stand below
no closed folder: `walk_eq_filter`.  A walk that passes over no folder finds every file that there is:
`mem_files_of_fileAt?`.
-/

namespace Concord.Folder

/-- The folders below the root in which something at a path stands, the outermost first. -/
def foldersAbove (path : List String) : List (List String) :=
  (List.range (path.length - 1)).map fun i => path.take (i + 1)

variable (closed : List String → Bool)

/-- Whether no folder is closed on the way from depth `depth` to something at a path. -/
def isOpenBelow (depth : Nat) (path : List String) : Bool :=
  (List.range path.length).all fun k => decide (k ≤ depth) || !closed (path.take k)

variable {closed}

/-- A path is open below a depth exactly if no folder on the way from there is closed. -/
theorem isOpenBelow_iff {depth : Nat} {path : List String} :
    isOpenBelow closed depth path = true ↔
      ∀ k, depth < k → k < path.length → closed (path.take k) = false := by
  simp only [isOpenBelow, List.all_eq_true, List.mem_range, Bool.or_eq_true, decide_eq_true_eq,
    Bool.not_eq_true']
  constructor
  · intro h k low high
    exact (h k high).resolve_left (Nat.not_le.2 low)
  · intro h k high
    by_cases low : depth < k
    · exact .inr (h k low high)
    · exact .inl (Nat.not_lt.1 low)

/-- A path is open from the root exactly if no folder above it is closed. -/
theorem isOpenBelow_zero (path : List String) :
    isOpenBelow closed 0 path = (foldersAbove path).all fun d => !closed d := by
  rw [Bool.eq_iff_iff, isOpenBelow_iff]
  simp only [foldersAbove, List.all_map, List.all_eq_true, List.mem_range, Function.comp_apply,
    Bool.not_eq_true']
  constructor
  · intro h i hi
    exact h (i + 1) (by omega) (by omega)
  · intro h k low high
    obtain ⟨i, rfl⟩ := Nat.exists_eq_add_of_lt low
    simpa using h i (by omega)

/-! ## Where files are found -/

/-- What each entry holds is read by itself. -/
theorem filesOfAll_eq (path : List String) (es : List Entry) :
    filesOfAll closed path es = es.map fun e => ((e.isFolder, e.name), filesOf closed path e) := by
  induction es with
  | nil => rfl
  | cons e es ih => rw [filesOfAll, ih, List.map_cons]

theorem mem_walk_iff {path : List String} {file : Found} {f : Folder} :
    file ∈ walk closed path f ↔ ∃ e ∈ f, file ∈ filesOf closed path e := by
  simp [walk, arrange, filesOfAll_eq, List.mem_mergeSort]

/-- A file stands at or below the entry with which it is found. -/
theorem prefix_of_mem_filesOf {path : List String} {file : Found} :
    ∀ {e : Entry}, file ∈ filesOf closed path e → path ++ [e.name] <+: file.path
  | .file name content, h => by
      rw [filesOf, List.mem_singleton] at h
      rw [h]
      exact List.prefix_refl _
  | .folder name entries, h => by
      rw [filesOf] at h
      split at h
      · simp at h
      · obtain ⟨e, he, h⟩ := mem_walk_iff.1 h
        exact (List.prefix_append _ [e.name]).trans (prefix_of_mem_filesOf h)

/-! ## Closed folders are filtered out -/

/-- Arranging entries and filtering their files may be done in either order. -/
theorem filter_arrange (keeps : Found → Bool) (entries : List ((Bool × String) × List Found)) :
    (arrange entries).filter keeps =
      arrange (entries.map fun e => (e.1, e.2.filter keeps)) := by
  have sorted := List.map_mergeSort (r := before) (s := before) (l := entries)
    (f := fun e => (e.1, e.2.filter keeps)) fun _ _ _ _ => rfl
  rw [arrange, arrange, ← sorted, List.filter_flatMap, List.flatMap_map]

theorem take_length_eq {path long : List String} (h : path <+: long) :
    long.take path.length = path := (List.prefix_iff_eq_take.1 h).symm

/-- Below a folder the way from above it is open if the folder is, and the way below it. -/
theorem isOpenBelow_eq_and {path long : List String} (h : path <+: long)
    (hlong : path.length < long.length) (hpath : path ≠ []) :
    isOpenBelow closed (path.length - 1) long =
      (!closed path && isOpenBelow closed path.length long) := by
  have pos := List.length_pos_iff.2 hpath
  rw [Bool.eq_iff_iff, Bool.and_eq_true, isOpenBelow_iff, isOpenBelow_iff, Bool.not_eq_true']
  constructor
  · intro all
    refine ⟨?_, fun k low high => all k (by omega) high⟩
    have own := all path.length (by omega) hlong
    rwa [take_length_eq h] at own
  · rintro ⟨own, rest⟩ k low high
    by_cases hk : k = path.length
    · rw [hk, take_length_eq h]
      exact own
    · exact rest k (by omega) high

mutual

/-- An entry without its closed folders has those files that are open. -/
theorem filesOf_eq_filter (closed : List String → Bool) (path : List String) :
    ∀ e : Entry, filesOf closed path e =
      (filesOf (fun _ => false) path e).filter fun file => isOpenBelow closed path.length file.path
  | .file name content => by
      have isOpen : isOpenBelow closed path.length (path ++ [name]) = true :=
        isOpenBelow_iff.2 fun k low high => by
          rw [List.length_append, List.length_singleton] at high
          omega
      simp [filesOf, isOpen]
  | .folder name entries => by
      -- All files found here stand below this folder, so it closes all of them or none.
      have split : ∀ file ∈ arrange (filesOfAll (fun _ => false) (path ++ [name]) entries),
          isOpenBelow closed path.length file.path =
            (!closed (path ++ [name]) && isOpenBelow closed (path ++ [name]).length file.path) := by
        intro file hfile
        obtain ⟨e, -, hfound⟩ := mem_walk_iff.1 hfile
        have below : path ++ [name] ++ [e.name] <+: file.path := prefix_of_mem_filesOf hfound
        have longer := below.length_le
        rw [List.length_append, List.length_singleton] at longer
        have own : isOpenBelow closed ((path ++ [name]).length - 1) file.path =
            (!closed (path ++ [name]) && isOpenBelow closed (path ++ [name]).length file.path) :=
          isOpenBelow_eq_and ((List.prefix_append _ [e.name]).trans below) (by omega) (by simp)
        simpa using own
      rw [filesOf, filesOf, if_neg Bool.false_ne_true, List.filter_congr split]
      by_cases hclosed : closed (path ++ [name]) = true
      · simp [hclosed]
      · rw [if_neg hclosed, filesOfAll_eq_map closed (path ++ [name]) entries, ← filter_arrange]
        simp [hclosed]

/-- So have the entries of a folder, one by one. -/
theorem filesOfAll_eq_map (closed : List String → Bool) (path : List String) :
    ∀ es : List Entry, filesOfAll closed path es =
      (filesOfAll (fun _ => false) path es).map fun listed =>
        (listed.1, listed.2.filter fun file => isOpenBelow closed path.length file.path)
  | [] => rfl
  | e :: es => by
      rw [filesOfAll, filesOfAll, List.map_cons, filesOf_eq_filter closed path e,
        filesOfAll_eq_map closed path es]

end

/-- **A walk finds those of all files that stand below no closed folder, in the same order.** -/
theorem walk_eq_filter (closed : List String → Bool) (f : Folder) :
    walk closed [] f =
      f.files.filter fun file => (foldersAbove file.path).all fun d => !closed d := by
  rw [files, walk, walk, filesOfAll_eq_map closed [], ← filter_arrange]
  exact List.filter_congr fun file _ => isOpenBelow_zero file.path

/-! ## What is looked up is listed -/

/-- An entry that is found is in the folder, and has the name. -/
theorem mem_of_entry?_eq_some {f : Folder} {name : String} {e : Entry} (h : f.entry? name = some e) :
    e ∈ f ∧ e.name = name := by
  unfold entry? at h
  have same := List.find?_some h
  exact ⟨List.mem_of_find?_eq_some h, beq_iff_eq.1 same⟩

/-- A folder that is found is in the folder. -/
theorem mem_of_folder?_eq_some {f inner : Folder} {name : String} (h : f.folder? name = some inner) :
    .folder name inner ∈ f := by
  rw [folder?] at h
  split at h
  · next own entries found =>
    obtain ⟨he, rfl⟩ := mem_of_entry?_eq_some found
    cases h
    exact he
  · cases h

/-- A file that is found is in the folder. -/
theorem mem_of_file?_eq_some {f : Folder} {name : String} {content : Content}
    (h : f.file? name = some content) : .file name content ∈ f := by
  rw [file?] at h
  split at h
  · next own content found =>
    obtain ⟨he, rfl⟩ := mem_of_entry?_eq_some found
    cases h
    exact he
  · cases h

/-- **A file that is found at a path is among the files of the folder.** -/
theorem mem_files_of_fileAt? {f : Folder} {path : List String} {content : Content}
    (h : f.fileAt? path = some content) : ⟨path, content⟩ ∈ f.files := by
  -- the folders on the way, from the folder at `above` on
  have below (above folders : List String) (name : String) (f g : Folder)
      (found : f.at? folders = some g) (file : g.file? name = some content) :
      ⟨above ++ folders ++ [name], content⟩ ∈ walk (fun _ => false) above f := by
    induction folders generalizing above f with
    | nil =>
      cases found
      refine mem_walk_iff.2 ⟨_, mem_of_file?_eq_some file, ?_⟩
      rw [filesOf, List.append_nil]
      exact List.mem_singleton_self _
    | cons folder folders ih =>
      obtain ⟨inner, there, found⟩ := Option.bind_eq_some_iff.1 found
      refine mem_walk_iff.2 ⟨_, mem_of_folder?_eq_some there, ?_⟩
      have own := ih (above ++ [folder]) inner found
      rwa [List.append_assoc above, List.singleton_append] at own
  rw [fileAt?] at h
  obtain ⟨name, last, h⟩ := Option.bind_eq_some_iff.1 h
  obtain ⟨g, found, file⟩ := Option.bind_eq_some_iff.1 h
  have whole := below [] path.dropLast name f g found file
  rwa [List.nil_append, List.dropLast_append_getLast? name last] at whole

end Concord.Folder
