import Mathlib
import Concord.Proofs.Table
import Concord.Settings.Lax
import Concord.Settings.Load

/-!
# Concord.Proofs.Settings.Override

What the settings are once overrides are put over those of a file.  Both are documents, and a place
in a document is told by the keys that lead there:

```
file       loop: {max_iterations: 9, stuck_window: 4}
overrides  loop: {max_iterations: 2}
merged     loop: {max_iterations: 2, stuck_window: 4}
```

* `at?_mergeValue` — reading a place and merging may change their order, wherever the overrides have
  tables around the place;
* `at?_override` — so the merged document is known at all those places; a null of the overrides
  says nothing at the top and stands for itself below;
* `load_merges_overrides` — the document that is checked keeps the usual rule of precedence, except
  where a null below the top hides what the file has.
-/

namespace Concord.Document

/-! ## Places -/

namespace Value

/-- What stands at a place. -/
def at? : List String → Value → Option Value
  | [], v => some v
  | key :: path, v => (v.get? key).bind (at? path)

/-- Whether no key occurs twice in a table, nor in the tables below it. -/
inductive HasDistinctKeys : Value → Prop where
  | table {entries : List (String × Value)} (keys : (entries.map (·.1)).Nodup)
      (values : ∀ e ∈ entries, HasDistinctKeys e.2) : HasDistinctKeys (.table entries)
  | other {v : Value} (single : ∀ entries, v ≠ .table entries) : HasDistinctKeys v

/-- Whether there is a table. -/
def IsTable (v? : Option Value) : Prop := ∃ entries, v? = some (.table entries)

/-- Whether all places around the one at a path are tables. -/
def HasTablesAround (path : List String) (v : Value) : Prop :=
  ∀ front, front <+: path → front ≠ path → IsTable (v.at? front)

theorem HasDistinctKeys.of_table {entries : List (String × Value)}
    (h : HasDistinctKeys (.table entries)) :
    (entries.map (·.1)).Nodup ∧ ∀ e ∈ entries, HasDistinctKeys e.2 := by
  cases h with
  | table keys values => exact ⟨keys, values⟩
  | other single => exact absurd rfl (single entries)

/-- Tables around a longer path are a table in front and those around the rest. -/
theorem HasTablesAround.of_cons {key : String} {path : List String} {v : Value}
    (h : v.HasTablesAround (key :: path)) :
    ∃ entries, v = .table entries ∧
      ∀ inner, entries.lookup key = some inner → inner.HasTablesAround path := by
  obtain ⟨entries, hv⟩ := h [] List.nil_prefix (List.cons_ne_nil _ _).symm
  obtain rfl : v = .table entries := Option.some.inj hv
  refine ⟨entries, rfl, fun inner found front on ne => ?_⟩
  have := h (key :: front) ((List.prefix_cons_inj key).2 on) (by simpa using ne)
  simpa only [at?, get?, found, Option.bind_some] using this

theorem hasTablesAround_nil (v : Value) : v.HasTablesAround [] :=
  fun _ on ne => absurd (List.prefix_nil.1 on) ne

theorem hasTablesAround_cons {key : String} {path : List String}
    {entries : List (String × Value)} {inner : Value} (found : entries.lookup key = some inner)
    (below : inner.HasTablesAround path) : (Value.table entries).HasTablesAround (key :: path) := by
  intro front on ne
  cases front with
  | nil => exact ⟨entries, rfl⟩
  | cons first front =>
      obtain ⟨rfl, rest⟩ := List.cons_prefix_cons.1 on
      simpa only [at?, get?, found, Option.bind_some] using
        below front rest fun same => ne (same ▸ rfl)

end Value

/-! ## Tables -/

/-- A key that is put is found with its value, any other as before. -/
theorem lookup_put (key other : String) (v : Value) (entries : List (String × Value)) :
    (put key v entries).lookup other = if key = other then some v else entries.lookup other := by
  induction entries with
  | nil => rw [put, lookup_cons_eq_ite]
  | cons e entries ih =>
      rw [put]
      by_cases same : e.1 = key
      · simp only [same, BEq.rfl, if_true, lookup_cons_eq_ite]
        split <;> rfl
      · simp only [beq_eq_false_iff_ne.2 same, Bool.false_eq_true, if_false, lookup_cons_eq_ite, ih]
        split
        · next first => rw [if_neg fun again => same (first.trans again.symm)]
        · rfl

/-- Filtering a table with different keys filters what is found in it. -/
theorem lookup_filter {entries : List (String × Value)} (distinct : (entries.map (·.1)).Nodup)
    (q : Value → Bool) (key : String) :
    (entries.filter fun e => q e.2).lookup key = (entries.lookup key).filter q := by
  induction entries with
  | nil => rfl
  | cons e entries ih =>
      rw [List.map_cons, List.nodup_cons] at distinct
      have fresh := lookup_eq_none_iff_notMem.2 distinct.1
      rw [lookup_cons_eq_ite, List.filter_cons]
      by_cases same : e.1 = key
      · subst same
        cases kept : q e.2 with
        | true => simp [lookup_cons_eq_ite, Option.filter_some, kept]
        | false => simp [ih distinct.2, fresh, Option.filter_some, kept]
      · cases q e.2 with
        | true => simp [lookup_cons_eq_ite, same, ih distinct.2]
        | false => simp [same, ih distinct.2]

end Concord.Document

namespace Concord.Settings

open Document

/-! ## Merging -/

/-- What is left of an old value under a new one, either of which may be missing. -/
def merged? (old? new? : Option Value) : Option Value :=
  match new? with
  | none => old?
  | some new => some (mergeValue old? new)

/-- What is found in merged tables is what is found in both, merged. -/
theorem lookup_mergeEntries {new : List (String × Value)} (distinct : (new.map (·.1)).Nodup)
    (old : List (String × Value)) (key : String) :
    (mergeEntries old new).lookup key = merged? (old.lookup key) (new.lookup key) := by
  induction new generalizing old with
  | nil => simp [mergeEntries, merged?]
  | cons e new ih =>
      obtain ⟨first, v⟩ := e
      rw [List.map_cons, List.nodup_cons] at distinct
      rw [mergeEntries, ih distinct.2, lookup_put]
      by_cases same : first = key
      · subst same
        simp [lookup_eq_none_iff_notMem.2 distinct.1, merged?]
      · rw [if_neg same, lookup_cons_eq_ite, if_neg same]

theorem mergeValue_tables (old new : List (String × Value)) :
    mergeValue (some (.table old)) (.table new) = .table (mergeEntries old new) := by
  rw [mergeValue]

/-- What is no table replaces what was there. -/
theorem mergeValue_of_single {new : Value} (single : ∀ entries, new ≠ .table entries)
    (old? : Option Value) : mergeValue old? new = new := by
  cases new with
  | table entries => exact absurd rfl (single entries)
  | _ => rw [mergeValue]; exact single

/-- Where there was no table the new value stands. -/
theorem mergeValue_of_new {old? : Option Value} (h : ¬ Value.IsTable old?) (new : Value) :
    mergeValue old? new = new := by
  cases new with
  | table entries =>
      cases old? with
      | none => rw [mergeValue]; simp
      | some old =>
          rw [mergeValue]
          exact fun inner same => h ⟨inner, same⟩
  | _ => exact mergeValue_of_single (by simp) old?

theorem merged?_none_left (new? : Option Value) : merged? none new? = new? := by
  cases new? with
  | none => rfl
  | some new => rw [merged?, mergeValue_of_new (by rintro ⟨_, h⟩; contradiction)]

/-- Reading a place and merging may change their order, wherever the new document has tables around
the place. -/
theorem at?_mergeValue {path : List String} {old? : Option Value} {new : Value}
    (distinct : new.HasDistinctKeys) (around : new.HasTablesAround path) :
    (mergeValue old? new).at? path = merged? (old?.bind (·.at? path)) (new.at? path) := by
  induction path generalizing old? new with
  | nil => cases old? <;> simp [Value.at?, merged?]
  | cons key path ih =>
      obtain ⟨entries, rfl, inner⟩ := around.of_cons
      obtain ⟨keys, values⟩ := distinct.of_table
      by_cases old : Value.IsTable old?
      · obtain ⟨old, rfl⟩ := old
        rw [mergeValue_tables]
        simp only [Value.at?, Value.get?, lookup_mergeEntries keys, Option.bind_some]
        cases found : entries.lookup key with
        | none => simp [merged?]
        | some v =>
            have held := (lookup_eq_some_iff_mem keys key v).1 found
            have below := @ih (old.lookup key) v (values _ held) (inner v found)
            simpa [merged?] using below
      · have nothing : old?.bind (·.at? (key :: path)) = none := by
          cases old? with
          | none => rfl
          | some v =>
              cases v with
              | table old' => exact absurd ⟨old', rfl⟩ old
              | _ => rfl
        rw [mergeValue_of_new old, nothing, merged?_none_left]

/-! ## Overrides -/

variable {entries overrides : List (String × Value)}

/-- An override of an entry that is null is passed over. -/
theorem lookup_override (distinct : (overrides.map (·.1)).Nodup) (key : String) :
    (override entries overrides).lookup key =
      merged? (entries.lookup key) ((overrides.lookup key).filter (!isNull ·)) := by
  have kept : ((overrides.filter fun e => !isNull e.2).map (·.1)).Nodup :=
    distinct.sublist (List.filter_sublist.map _)
  rw [override, lookup_mergeEntries kept]
  exact congrArg _ (lookup_filter distinct (!isNull ·) key)

theorem isNull_eq_true_iff {v : Value} : isNull v = true ↔ v = .null := by
  cases v <;> simp [isNull]

/-- An override that is null leaves the entry of the file. -/
theorem at?_override_of_null (distinct : (overrides.map (·.1)).Nodup) {key : String}
    (null : (Value.table overrides).at? [key] = some .null) :
    (Value.table (override entries overrides)).at? [key] = (Value.table entries).at? [key] := by
  have found : overrides.lookup key = some .null := by
    simpa [Value.at?, Value.get?] using null
  simp [Value.at?, Value.get?, lookup_override distinct, found, Option.filter_some, isNull, merged?]

/-- What the overrides leave at any other place where both documents are merged. -/
theorem at?_override (distinct : (Value.table overrides).HasDistinctKeys) {key : String}
    {path : List String}
    (around : (Value.table overrides).HasTablesAround (key :: path))
    (given : path = [] → (Value.table overrides).at? [key] ≠ some .null) :
    (Value.table (override entries overrides)).at? (key :: path) =
      merged? ((Value.table entries).at? (key :: path))
        ((Value.table overrides).at? (key :: path)) := by
  obtain ⟨keys, values⟩ := distinct.of_table
  obtain ⟨_, same, inner⟩ := around.of_cons
  obtain rfl := Value.table.inj same
  simp only [Value.at?, Value.get?, lookup_override keys]
  cases found : overrides.lookup key with
  | none => simp [merged?]
  | some v =>
      have present : isNull v = false := by
        cases path with
        | nil =>
            rw [Bool.eq_false_iff, ne_eq, isNull_eq_true_iff]
            rintro rfl
            exact given rfl (by simp [Value.at?, Value.get?, found])
        | cons second path =>
            obtain ⟨_, rfl, -⟩ := (inner v found).of_cons
            rfl
      have held := (lookup_eq_some_iff_mem keys key v).1 found
      rw [Option.filter_some, present, Bool.not_false, if_pos rfl, merged?, Option.bind_some,
        Option.bind_some, at?_mergeValue (values _ held) (inner v found)]

/-- The usual rule of precedence at a place: what the overrides do not say is as in the file, two
tables are merged, and in any other case the overrides count. -/
structure KeepsPrecedence (file overrides merged : Value) (path : List String) : Prop where
  unsaid : overrides.at? path = none ∨ overrides.at? path = some .null →
    merged.at? path = file.at? path
  tables : Value.IsTable (file.at? path) → Value.IsTable (overrides.at? path) →
    Value.IsTable (merged.at? path)
  said : ∀ v, overrides.at? path = some v → v ≠ .null →
    ¬ (Value.IsTable (file.at? path) ∧ Value.IsTable (overrides.at? path)) →
      merged.at? path = some v

/-- Where a place is as the merging of two values has it, the rule of precedence is kept but for a
null. -/
theorem keepsPrecedence_iff {file overrides merged : Value} {path : List String}
    (h : merged.at? path = merged? (file.at? path) (overrides.at? path)) :
    KeepsPrecedence file overrides merged path ↔
      (overrides.at? path = some .null → file.at? path = some .null) := by
  constructor
  · intro keeps null
    rw [← keeps.unsaid (.inr null), h, null]
    rfl
  · intro hidden
    refine ⟨?_, ?_, ?_⟩
    · rintro (none' | null)
      · rw [h, none', merged?]
      · rw [h, hidden null, null]
        rfl
    · rintro ⟨old, hold⟩ ⟨new, hnew⟩
      exact ⟨mergeEntries old new, by rw [h, hold, hnew, merged?, mergeValue_tables]⟩
    · intro v hv _ apart
      rw [h, hv, merged?]
      by_cases old : Value.IsTable (file.at? path)
      · rw [mergeValue_of_single fun entries same => apart ⟨old, entries, hv.trans (same ▸ rfl)⟩]
      · rw [mergeValue_of_new old]

/-- Where the file is kept under a null, the rule of precedence is kept. -/
theorem keepsPrecedence_of_null {file overrides merged : Value} {path : List String}
    (null : overrides.at? path = some .null) (kept : merged.at? path = file.at? path) :
    KeepsPrecedence file overrides merged path where
  unsaid _ := kept
  tables := by
    rintro - ⟨new, hnew⟩
    exact Value.noConfusion (Option.some.inj (null.symm.trans hnew))
  said v hv present := absurd (Option.some.inj (hv.symm.trans null)) present

/-- The document that is checked is that of the file with the overrides put over it. -/
theorem load_eq {c : Coercions} {f : Folder} {path? : Option String} {notes : List String}
    (read : fileEntries f path? = .ok (entries, notes)) (overrides : List (String × Value)) :
    load c f path? overrides =
      match check c (override entries overrides) with
      | .valid s => .ok (s, notes ++ warnings s)
      | .invalid problems => .error (.invalid problems) := by
  simp only [load, read, bind, Except.bind]
  cases check c (override entries overrides) <;> rfl

/-- **Overrides go before the file.**  The settings are those of the file with the overrides put
over them, entry by entry and at every depth; the rule of precedence holds at a place exactly if it
is not one below the top where the overrides have a null and the file has not. -/
theorem load_merges_overrides (c : Coercions) (f : Folder) (path? : Option String)
    {entries overrides : List (String × Value)} {notes : List String}
    (read : fileEntries f path? = .ok (entries, notes))
    (distinct : (Value.table overrides).HasDistinctKeys) :
    (load c f path? overrides =
        match check c (override entries overrides) with
        | .valid s => .ok (s, notes ++ warnings s)
        | .invalid problems => .error (.invalid problems)) ∧
      ∀ path, path ≠ [] → (Value.table overrides).HasTablesAround path →
        (KeepsPrecedence (.table entries) (.table overrides)
            (.table (override entries overrides)) path ↔
          ((Value.table overrides).at? path = some .null →
            path.length = 1 ∨ (Value.table entries).at? path = some .null)) ∧
        ((Value.table overrides).at? path = some .null → 1 < path.length →
          (Value.table (override entries overrides)).at? path = some .null) := by
  constructor
  · exact load_eq read overrides
  · intro path nonempty around
    obtain ⟨key, path, rfl⟩ := List.exists_cons_of_ne_nil nonempty
    by_cases top : path = [] ∧ (Value.table overrides).at? [key] = some .null
    · obtain ⟨rfl, null⟩ := top
      have kept := @at?_override_of_null entries overrides distinct.of_table.1 key null
      refine ⟨iff_of_true (keepsPrecedence_of_null null kept) fun _ => .inl rfl, fun _ long => ?_⟩
      simp at long
    · have given : path = [] → (Value.table overrides).at? [key] ≠ some .null :=
        fun only null => top ⟨only, null⟩
      have whole := @at?_override entries overrides distinct key path around given
      refine ⟨(keepsPrecedence_iff whole).trans (forall_congr' fun null => ?_), fun null _ => ?_⟩
      · have below : (key :: path).length ≠ 1 := by
          intro short
          obtain rfl : path = [] := by simpa using short
          exact top ⟨rfl, null⟩
        rw [or_iff_right below]
      · rw [whole, null]
        rfl

/-- One entry of a section is overridden, and a null at the top says nothing. -/
theorem load_merges_overrides_of_one_entry :
    let document : List (String × Value) :=
      [("loop", .table [("max_iterations", .int 9), ("stuck_window", .int 4)]),
        ("include_tests", .bool true)]
    let overrides : List (String × Value) :=
      [("loop", .table [("max_iterations", .int 2)]), ("include_tests", .null)]
    let f : Folder := [.file usualPath ⟨[], .data (.table document)⟩]
    let merged : Value := .table (override document overrides)
    (fileEntries f none = .ok (document, []) ∧ (Value.table overrides).HasDistinctKeys) ∧
      KeepsPrecedence (.table document) (.table overrides) merged ["loop", "max_iterations"] ∧
      merged.at? ["loop", "max_iterations"] = some (.int 2) ∧
      KeepsPrecedence (.table document) (.table overrides) merged ["include_tests"] ∧
      merged.at? ["include_tests"] = some (.bool true) := by
  intro document overrides f merged
  have read : fileEntries f none = .ok (document, []) := by cbv
  have distinct : (Value.table overrides).HasDistinctKeys := by
    refine .table (by decide) ?_
    simp only [overrides, List.forall_mem_cons, List.not_mem_nil, false_imp_iff, implies_true,
      and_true]
    exact ⟨.table (by decide) (by simpa using .other (by simp)), .other (by simp)⟩
  have law := (load_merges_overrides .lax f none read distinct).2
  have inner : (Value.table overrides).HasTablesAround ["loop", "max_iterations"] :=
    Value.hasTablesAround_cons rfl (Value.hasTablesAround_cons rfl (Value.hasTablesAround_nil _))
  have outer : (Value.table overrides).HasTablesAround ["include_tests"] :=
    Value.hasTablesAround_cons rfl (Value.hasTablesAround_nil _)
  refine ⟨⟨read, distinct⟩, ?_, rfl, ?_, rfl⟩
  · exact (law _ (by simp) inner).1.2 fun null => Value.noConfusion (Option.some.inj null)
  · exact (law _ (by simp) outer).1.2 fun _ => .inl rfl

/-- An override that is null below the top hides the entry of the file, and the settings are
rejected. -/
theorem inner_null_hides_entry :
    let document : List (String × Value) := [("loop", .table [("max_iterations", .int 9)])]
    let overrides : List (String × Value) := [("loop", .table [("max_iterations", .null)])]
    let f : Folder := [.file usualPath ⟨[], .data (.table document)⟩]
    ¬ KeepsPrecedence (.table document) (.table overrides) (.table (override document overrides))
        ["loop", "max_iterations"] ∧
      load .lax f none overrides = .error (.invalid [⟨["loop", "max_iterations"], .noInteger⟩]) := by
  intro document overrides f
  have hidden : override document overrides = overrides := by rfl
  have read : fileEntries f none = .ok (document, []) := by cbv
  have rejected : check .lax overrides = .invalid [⟨["loop", "max_iterations"], .noInteger⟩] := by rfl
  constructor
  · intro keeps
    have kept := keeps.unsaid (.inr rfl)
    rw [hidden] at kept
    exact Value.noConfusion (Option.some.inj kept)
  · rw [load_eq read, hidden, rejected]

end Concord.Settings
