import Concord.Folder.Analyze

/-!
# Concord.Proofs.Folder.Outside

Reading a project depends on nothing but the project and the files that stand in the folders around
it.  Two directory trees that agree outside of a place (`AgreeOutside`) are the same to a path that
leads past that place and not to a folder around it (`ClearOf`):

* `AgreeOutside.project?` — the path leads to the same folder;
* `AgreeOutside.ignoreRules` — the same rules hold there;
* `AgreeOutside.analyze` — so the analysis is the same.
-/

namespace Concord.Folder

/-! ## Places and paths -/

/-- Whether two directory trees agree outside of a place.  There may be a folder or nothing at that
place, but no file; folders around it may differ in what they hold there. -/
structure AgreeOutside (place : List String) (f g : Folder) : Prop where
  folders : ∀ path, ¬ place <+: path → (f.at? path).isSome = (g.at? path).isSome
  content : ∀ path, ¬ place <+: path → ¬ path <+: place → f.at? path = g.at? path
  files : ∀ path, ¬ place <+: path → f.fileAt? path = g.fileAt? path
  noFile : f.fileAt? place = none ∧ g.fileAt? place = none

/-- The names on a path. -/
def namesOf (path : String) : List String := (Path.names path.toList).map String.ofList

/-- Whether a path leads past a place, and not to a folder around it. -/
structure ClearOf (place : List String) (path : String) : Prop where
  way : ∀ k ≤ (namesOf path).length, ¬ place <+: Path.follow [] ((namesOf path).take k)
  goal : ¬ Path.follow [] (namesOf path) <+: place

variable {place : List String} {f g : Folder}

theorem AgreeOutside.refl (noFile : f.fileAt? place = none) : AgreeOutside place f f :=
  ⟨fun _ _ => rfl, fun _ _ _ => rfl, fun _ _ => rfl, noFile, noFile⟩

/-- Folders that agree with one between agree with each other. -/
theorem AgreeOutside.trans {h : Folder} (fg : AgreeOutside place f g)
    (gh : AgreeOutside place g h) : AgreeOutside place f h where
  folders path outside := (fg.folders path outside).trans (gh.folders path outside)
  content path outside around :=
    (fg.content path outside around).trans (gh.content path outside around)
  files path outside := (fg.files path outside).trans (gh.files path outside)
  noFile := ⟨fg.noFile.1, gh.noFile.2⟩

/-! ## Following a path -/

theorem follow_cons (start : List String) (name : String) (rest : List String) :
    Path.follow start (name :: rest) = Path.follow (Path.follow start [name]) rest := rfl

/-- The first of several names is passed if it leads up or to a folder. -/
theorem follow?_cons_cons (start : List String) (name second : String) (rest : List String) :
    f.follow? start (name :: second :: rest) =
      if name = ".." ∨ (f.at? (Path.follow start [name])).isSome = true then
        f.follow? (Path.follow start [name]) (second :: rest)
      else none := by
  rw [follow?]
  · by_cases up : name = ".."
    · subst up
      rfl
    · have down : Path.follow start [name] = start ++ [name] := if_neg up
      rw [if_neg up, down]
      simp only [up, false_or]
  · simp

/-- Names lead where they lead by themselves, if all folders on the way are there. -/
theorem eq_follow_of_follow? {names start goal : List String}
    (h : f.follow? start names = some goal) : goal = Path.follow start names := by
  induction names generalizing start with
  | nil => exact (Option.some.inj h).symm
  | cons name rest ih =>
      cases rest with
      | nil => exact (Option.some.inj h).symm
      | cons second rest =>
          rw [follow?_cons_cons] at h
          split at h
          · rw [follow_cons]
            exact ih h
          · contradiction

/-- Names that pass by a place lead to the same in both trees. -/
theorem AgreeOutside.follow? (agree : AgreeOutside place f g) {names start : List String}
    (way : ∀ k ≤ names.length, ¬ place <+: Path.follow start (names.take k)) :
    f.follow? start names = g.follow? start names := by
  induction names generalizing start with
  | nil => rfl
  | cons name rest ih =>
      cases rest with
      | nil => rfl
      | cons second rest =>
          have first : ¬ place <+: Path.follow start [name] := way 1 (by simp)
          have others : ∀ k ≤ (second :: rest).length,
              ¬ place <+: Path.follow (Path.follow start [name]) ((second :: rest).take k) := by
            intro k hk
            rw [← follow_cons, ← List.take_succ_cons]
            exact way (k + 1) (Nat.succ_le_succ hk)
          rw [follow?_cons_cons, follow?_cons_cons, agree.folders _ first, ih others]

/-! ## Projects -/

theorem ClearOf.outside {path : String} (clear : ClearOf place path) :
    ¬ place <+: Path.follow [] (namesOf path) := by
  have := clear.way (namesOf path).length (Nat.le_refl _)
  rwa [List.take_length] at this

/-- A path that is clear of a place leads to the same project in both trees. -/
theorem AgreeOutside.project? (agree : AgreeOutside place f g) {path : String}
    (clear : ClearOf place path) : f.project? path = g.project? path := by
  have samePlace : f.place? path = g.place? path := agree.follow? clear.way
  unfold Folder.project?
  rw [← samePlace]
  cases found : f.place? path with
  | none => rfl
  | some goal =>
      have hgoal : goal = Path.follow [] (namesOf path) := eq_follow_of_follow? found
      rw [Option.bind_some, Option.bind_some, hgoal, agree.content _ clear.outside clear.goal]

/-- A project is found at the place that its path leads to. -/
theorem place_of_project? {path : String} {goal : List String} {project : Folder}
    (h : f.project? path = some (goal, project)) : goal = Path.follow [] (namesOf path) := by
  unfold Folder.project? at h
  cases found : f.place? path with
  | none => rw [found] at h; contradiction
  | some own =>
      rw [found] at h
      obtain ⟨inner, -, heq⟩ := Option.map_eq_some_iff.1 h
      obtain ⟨rfl, -⟩ := Prod.mk.inj heq
      exact eq_follow_of_follow? found

/-! ## Rules -/

/-- Steps that agree on each member agree on the list. -/
theorem mapM_congr {β γ : Type} {step step' : β → Except Failure γ} {xs : List β}
    (h : ∀ x ∈ xs, step x = step' x) : xs.mapM step = xs.mapM step' := by
  induction xs with
  | nil => rfl
  | cons x xs ih =>
      rw [List.mapM_cons, List.mapM_cons, h x List.mem_cons_self,
        ih fun y hy => h y (List.mem_cons_of_mem x hy)]

/-- A file in a folder outside of the place is the same in both trees.  A file at the place itself
would stand in a folder around it, but there is none. -/
theorem AgreeOutside.fileAt? (agree : AgreeOutside place f g) {folder : List String}
    (outside : ¬ place <+: folder) (name : String) :
    f.fileAt? (folder ++ [name]) = g.fileAt? (folder ++ [name]) := by
  by_cases below : place <+: folder ++ [name]
  · rcases List.prefix_concat_iff.1 below with rfl | inside
    · rw [agree.noFile.1, agree.noFile.2]
    · exact absurd inside outside
  · exact agree.files _ below

/-- Outside of the place the same rules hold in both trees. -/
theorem AgreeOutside.ignoreRules (agree : AgreeOutside place f g) {path : List String}
    (outside : ¬ place <+: path) : f.ignoreRules path = g.ignoreRules path := by
  unfold Folder.ignoreRules
  have same : (upwards path).mapM (ownIgnoreRules f) = (upwards path).mapM (ownIgnoreRules g) := by
    refine mapM_congr fun folder hfolder => ?_
    obtain ⟨i, -, rfl⟩ := List.mem_map.1 hfolder
    have above : ¬ place <+: path.take (path.length - i) := fun h =>
      outside (h.trans (List.take_prefix _ _))
    rw [ownIgnoreRules, ownIgnoreRules, agree.fileAt? above]
  rw [same]

/-! ## Analyses -/

/-- What is collected from a path clear of the place does not depend on the place. -/
theorem AgreeOutside.collect (agree : AgreeOutside place f g) {path : String}
    (clear : ClearOf place path) (options : CollectOptions) (tag? : Option String) :
    f.collect options tag? path = g.collect options tag? path := by
  unfold Folder.collect
  rw [← agree.project? clear]
  cases found : f.project? path with
  | none => rfl
  | some result =>
      obtain ⟨goal, project⟩ := result
      obtain rfl := place_of_project? found
      simp only [agree.ignoreRules clear.outside]

theorem AgreeOutside.detect (agree : AgreeOutside place f g) {path : String}
    (clear : ClearOf place path) : f.detect path = g.detect path := by
  unfold Folder.detect
  rw [agree.project? clear]

theorem AgreeOutside.projectName (agree : AgreeOutside place f g) {path : String}
    (clear : ClearOf place path) (language? : Option Language) :
    f.projectName path language? = g.projectName path language? := by
  unfold Folder.projectName
  rw [agree.project? clear]

/-- **The analysis of a project is the same in both trees.** -/
theorem AgreeOutside.analyze (agree : AgreeOutside place f g) {path : String}
    (clear : ClearOf place path) (options : ReadOptions) (language? name? : Option String) :
    f.analyze options path language? name? = g.analyze options path language? name? := by
  unfold Folder.analyze
  rw [← agree.project? clear]
  simp only [agree.collect clear, agree.detect clear, agree.projectName clear]

/-! ## Entries of the outermost folder -/

/-- An entry that is put into a folder is found by its name, any other as before. -/
theorem entry?_put (e : Entry) (name : String) :
    entry? (f.put e) name = if e.name = name then some e else f.entry? name := by
  unfold entry?
  induction f with
  | nil => by_cases h : e.name = name <;> simp [put, h]
  | cons d f ih =>
      rw [put]
      by_cases same : d.name = e.name
      · rw [if_pos (by simpa using same)]
        by_cases h : e.name = name
        · simp [h]
        · simp [h, same]
      · rw [if_neg (by simpa using same)]
        by_cases h : d.name = name
        · subst h
          simp [Ne.symm same]
        · rw [List.find?_cons_of_neg (by simpa using h), ih,
            List.find?_cons_of_neg (by simpa using h)]

/-- Removing an entry leaves the others. -/
theorem entry?_remove_of_ne {name other : String} (h : other ≠ name) :
    entry? (f.remove [name]) other = f.entry? other := by
  unfold entry? remove
  rw [List.find?_filter]
  congr 1
  funext e
  by_cases he : e.name = other
  · simp [he, h]
  · simp [he]

/-- A removed entry is no longer found. -/
theorem entry?_remove_self (name : String) : entry? (f.remove [name]) name = none := by
  unfold entry? remove
  rw [List.find?_filter, List.find?_eq_none]
  simp

theorem fileAt?_concat (front : List String) (name : String) :
    f.fileAt? (front ++ [name]) = (f.at? front).bind (·.file? name) := by
  simp [fileAt?]

/-- Two directory trees agree outside of a place in their outermost folder if their other entries
agree, and neither has a file there. -/
theorem agreeOutside_of_entries {name : String} (others : ∀ m, m ≠ name → f.entry? m = g.entry? m)
    (hf : f.file? name = none) (hg : g.file? name = none) : AgreeOutside [name] f g := by
  have folder (m : String) (h : m ≠ name) : f.folder? m = g.folder? m := by
    rw [folder?, folder?, others m h]
  have descend (m : String) (rest : List String) (h : ¬ [name] <+: m :: rest) : m ≠ name := by
    rintro rfl
    exact h (List.cons_prefix_cons.2 ⟨rfl, List.nil_prefix⟩)
  have inside (path : List String) (h : ¬ [name] <+: path) (hne : path ≠ []) :
      f.at? path = g.at? path := by
    cases path with
    | nil => contradiction
    | cons m rest => rw [at?, at?, folder m (descend m rest h)]
  refine ⟨fun path h => ?_, fun path h around => ?_, fun path h => ?_, ?_⟩
  · by_cases hne : path = []
    · subst hne
      rfl
    · rw [inside path h hne]
  · refine inside path h ?_
    rintro rfl
    exact around List.nil_prefix
  · rcases List.eq_nil_or_concat path with rfl | ⟨front, m, rfl⟩
    · rfl
    · rw [List.concat_eq_append] at h ⊢
      rw [fileAt?_concat, fileAt?_concat]
      by_cases hne : front = []
      · subst hne
        simp only [at?, Option.bind_some, file?, others m (descend m [] h)]
      · rw [inside front (fun hfront => h (hfront.trans (List.prefix_append _ _))) hne]
  · exact ⟨hf, hg⟩

end Concord.Folder
