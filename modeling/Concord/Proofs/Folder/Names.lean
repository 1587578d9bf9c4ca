import Mathlib
import Concord.Proofs.Folder.Outside
import Concord.Proofs.Folder.Walk

/-!
# Concord.Proofs.Folder.Names

Names of entries.  In a directory tree that was made by writing and removing, the entries of every
folder have different names, and each of them can be read back from a path.

* `namesOf_join` — the names on a path are read back from its text;
* `Change.isWellNamed` — writing and removing keep names as they should be;
* `isWellNamed_of_changes` — so they are in every tree that comes of an empty one.
-/

namespace Concord.Folder

/-! ## Names -/

/-- What is asked of the name of an entry, so that it can be read back from a path. -/
structure IsFileName (name : String) : Prop where
  nonempty : name ≠ ""
  noDot : name ≠ "."
  noSlash : '/' ∉ name.toList

/-- Whether the entries of a folder have such names, no two of them the same, and so do those of the
folders below it. -/
inductive IsWellNamed : Folder → Prop
  | intro {f : Folder} (names : ∀ e ∈ f, IsFileName e.name) (distinct : (f.map (·.name)).Nodup)
      (below : ∀ name inner, .folder name inner ∈ f → IsWellNamed inner) : IsWellNamed f

/-- Every folder within a well-named one is well named. -/
theorem IsWellNamed.at? {f : Folder} (h : IsWellNamed f) {path : List String} {g : Folder}
    (found : f.at? path = some g) : IsWellNamed g := by
  induction path generalizing f with
  | nil =>
    cases found
    exact h
  | cons name path ih =>
    obtain ⟨inner, there, rest⟩ := Option.bind_eq_some_iff.1 found
    obtain ⟨-, -, below⟩ := h
    exact ih (below name inner (mem_of_folder?_eq_some there)) rest

/-- Every project within a well-named folder is well named. -/
theorem IsWellNamed.project? {f : Folder} (h : IsWellNamed f) {root : String} {place : List String}
    {project : Folder} (found : f.project? root = some (place, project)) : IsWellNamed project := by
  obtain ⟨goal, -, found⟩ := Option.bind_eq_some_iff.1 found
  obtain ⟨inner, there, same⟩ := Option.map_eq_some_iff.1 found
  cases same
  exact h.at? there

/-- **The names on a path are read back from it.** -/
theorem namesOf_join {path : List String} (names : ∀ n ∈ path, IsFileName n) :
    namesOf (Path.join path) = path := by
  have text : (Path.join path).toList = ['/'].intercalate (path.map String.toList) :=
    String.toList_intercalate
  cases path with
  | nil => rfl
  | cons n rest =>
    have split : List.splitOn '/' (['/'].intercalate ((n :: rest).map String.toList)) =
        (n :: rest).map String.toList := by
      refine List.splitOn_intercalate '/' (fun l hl => ?_) (by simp)
      obtain ⟨m, hm, rfl⟩ := List.mem_map.1 hl
      exact (names m hm).noSlash
    have kept : ((n :: rest).map String.toList).filter (fun s => s ≠ [] ∧ s ≠ ['.']) =
        (n :: rest).map String.toList := by
      refine List.filter_eq_self.2 fun l hl => ?_
      obtain ⟨m, hm, rfl⟩ := List.mem_map.1 hl
      have dot : ['.'] = ".".toList := rfl
      rw [decide_eq_true_iff, dot]
      exact ⟨fun empty => (names m hm).nonempty (String.toList_eq_nil_iff.1 empty),
        fun same => (names m hm).noDot (String.toList_inj.1 same)⟩
    have read : Path.names (Path.join (n :: rest)).toList = (n :: rest).map String.toList := by
      rw [Path.names, text, split]
      simpa using kept
    rw [namesOf, read, List.map_map]
    simp

/-! ## Changes -/

/-- One change of a directory tree: something is written at a path of sound names, or removed. -/
inductive Change : Folder → Folder → Prop
  | write {f : Folder} (content? : Option Content) {path : List String}
      (names : ∀ n ∈ path, IsFileName n) : Change f (f.write content? path)
  | remove {f : Folder} (path : List String) : Change f (f.remove path)

theorem isWellNamed_nil : IsWellNamed [] := .intro (by simp) (by simp) (by simp)

/-- An entry of the changed folder is the one put in, or was there. -/
theorem mem_put {e x : Entry} {f : Folder} (h : x ∈ f.put e) : x = e ∨ x ∈ f := by
  induction f with
  | nil => exact .inl (List.mem_singleton.1 h)
  | cons d f ih =>
    rw [put] at h
    split at h
    · exact (List.mem_cons.1 h).imp_right (List.mem_cons_of_mem d)
    · rcases List.mem_cons.1 h with rfl | h
      · exact .inr List.mem_cons_self
      · exact (ih h).imp_right (List.mem_cons_of_mem d)

/-- An entry takes the place of the one with its name, or comes last. -/
theorem map_name_put (e : Entry) (f : Folder) :
    (f.put e).map (·.name) =
      if e.name ∈ f.map (·.name) then f.map (·.name) else f.map (·.name) ++ [e.name] := by
  induction f with
  | nil => rfl
  | cons d f ih =>
    rw [put]
    by_cases same : d.name = e.name
    · simp [same]
    · rw [if_neg (by simpa using same), List.map_cons, List.map_cons, ih]
      have other : ¬ e.name = d.name := fun h => same h.symm
      simp only [List.mem_cons, other, false_or]
      split <;> rfl

namespace IsWellNamed

variable {f : Folder}

/-- A well-named folder stays so with a well-named entry put in. -/
theorem put (h : IsWellNamed f) {e : Entry} (name : IsFileName e.name)
    (inside : ∀ name inner, e = .folder name inner → IsWellNamed inner) :
    IsWellNamed (f.put e) := by
  obtain ⟨names, distinct, below⟩ := h
  refine .intro (fun x hx => ?_) ?_ fun name inner hx => ?_
  · rcases mem_put hx with rfl | hx
    · exact name
    · exact names x hx
  · rw [map_name_put]
    split
    · exact distinct
    · next new => exact List.nodup_append.2 ⟨distinct, by simp, by simpa using new⟩
  · rcases mem_put hx with same | hx
    · exact inside name inner same.symm
    · exact below name inner hx

/-- A folder that is not there counts as empty. -/
theorem folder?_getD (h : IsWellNamed f) (name : String) :
    IsWellNamed ((f.folder? name).getD []) := by
  cases there : f.folder? name with
  | none => exact isWellNamed_nil
  | some inner =>
    obtain ⟨-, -, below⟩ := h
    exact below name inner (mem_of_folder?_eq_some there)

/-- Writing under proper names keeps a folder well named. -/
theorem write (h : IsWellNamed f) (content? : Option Content) {path : List String}
    (names : ∀ n ∈ path, IsFileName n) : IsWellNamed (f.write content? path) := by
  induction path generalizing f with
  | nil => exact h
  | cons name path ih =>
    have own : IsFileName name := names name List.mem_cons_self
    cases path with
    | nil =>
      cases content? with
      | some content => exact h.put own nofun
      | none =>
        simp only [Folder.write]
        split
        · exact h
        · refine h.put own fun m inner same => ?_
          cases same
          exact isWellNamed_nil
    | cons second path =>
      rw [Folder.write]
      · refine h.put own fun m inner same => ?_
        cases same
        exact ih (h.folder?_getD name) fun n hn => names n (List.mem_cons_of_mem _ hn)
      · nofun

/-- Removing keeps a folder well named. -/
theorem remove (h : IsWellNamed f) (path : List String) : IsWellNamed (f.remove path) := by
  induction path generalizing f with
  | nil => exact isWellNamed_nil
  | cons name path ih =>
    cases path with
    | nil =>
      obtain ⟨names, distinct, below⟩ := h
      rw [Folder.remove]
      exact .intro (fun e he => names e (List.mem_filter.1 he).1)
        (distinct.sublist (List.filter_sublist.map _))
        fun m inner hm => below m inner (List.mem_filter.1 hm).1
    | cons second path =>
      rw [Folder.remove]
      · split
        · next inner there =>
          obtain ⟨names, -, below⟩ := id h
          have mem := mem_of_folder?_eq_some there
          have own : IsFileName name := names (.folder name inner) mem
          refine h.put own fun m inner' same => ?_
          cases same
          exact ih (below name inner mem)
        · exact h
      · nofun

end IsWellNamed

/-- **Writing and removing keep names as they should be.** -/
theorem Change.isWellNamed {f g : Folder} (change : Change f g) (h : IsWellNamed f) :
    IsWellNamed g := by
  cases change with
  | write content? names => exact h.write content? names
  | remove path => exact h.remove path

/-- **In every tree that comes of an empty one names are as they should be.** -/
theorem isWellNamed_of_changes {f : Folder} (changes : Relation.ReflTransGen Change [] f) :
    IsWellNamed f := by
  induction changes with
  | refl => exact isWellNamed_nil
  | tail _ change ih => exact change.isWellNamed ih

end Concord.Folder
