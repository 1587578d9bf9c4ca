import Mathlib.Data.List.Basic
import Mathlib.Data.List.Induction
import Concord.NameTable

/-!
# Concord.Proofs.Table

Names in the order of first occurrence, and tables of values under such names.

* `FirstSeen` — some names are those of a list, each once, in the order of first occurrence; one
  more name keeps this (`FirstSeen.add`), and so does any number of them
  (`firstSeen_foldl`, `FirstSeen.addNames`);
* `foldl_eq_append` — names that are added to others stand behind them;
* `alter` — changing the value under one key of a table; what a table holds that is filled entry by
  entry is told by `firstSeen_keys_foldl_alter` and `lookup_foldl_alter`.
-/

namespace Concord

/-- What is collected along a list if only one of its members has anything. -/
theorem flatMap_eq_of_unique {ι β : Type} {items : List ι} (distinct : items.Nodup) {i : ι}
    (h : i ∈ items) {make : ι → List β} (others : ∀ j ∈ items, j ≠ i → make j = []) :
    items.flatMap make = make i := by
  obtain ⟨before, behind, rfl⟩ := List.append_of_mem h
  rw [List.nodup_append, List.nodup_cons] at distinct
  have first : before.flatMap make = [] := List.flatMap_eq_nil_iff.2 fun j hj =>
    others j (by simp [hj]) (distinct.2.2 j hj i List.mem_cons_self)
  have last : behind.flatMap make = [] := List.flatMap_eq_nil_iff.2 fun j hj =>
    others j (by simp [hj]) fun same => distinct.2.1.1 (same ▸ hj)
  rw [List.flatMap_append, List.flatMap_cons, first, last, List.nil_append, List.append_nil]

/-! ## Names in the order of first occurrence -/

/-- Whether some names are those of a list, each once and in the order of first occurrence. -/
structure FirstSeen (all seen : List String) : Prop where
  mem_iff : ∀ n, n ∈ seen ↔ n ∈ all
  order : seen.Pairwise fun m n => all.idxOf m < all.idxOf n

namespace FirstSeen

variable {all seen : List String}

theorem nil : FirstSeen [] [] := ⟨fun _ => Iff.rfl, .nil⟩

/-- Each member is seen once. -/
theorem nodup (h : FirstSeen all seen) : seen.Nodup := by
  refine h.order.imp ?_
  rintro m _ before rfl
  exact Nat.lt_irrefl _ before

/-- **One more name goes behind the others, unless it has been seen.** -/
theorem add (h : FirstSeen all seen) (n : String) :
    FirstSeen (all ++ [n]) (if n ∈ seen then seen else seen ++ [n]) := by
  have stays {m : String} (hm : m ∈ seen) : (all ++ [n]).idxOf m = all.idxOf m :=
    List.idxOf_append_of_mem ((h.mem_iff m).1 hm)
  have order : seen.Pairwise fun l m => (all ++ [n]).idxOf l < (all ++ [n]).idxOf m :=
    h.order.imp_of_mem fun hl hm before => by rwa [stays hl, stays hm]
  by_cases known : n ∈ seen
  · rw [if_pos known]
    refine ⟨fun m => ?_, order⟩
    rw [List.mem_append, List.mem_singleton, ← h.mem_iff]
    exact ⟨Or.inl, fun hm => hm.elim id fun same => same ▸ known⟩
  · rw [if_neg known]
    refine ⟨fun m => by rw [List.mem_append, List.mem_append, h.mem_iff], ?_⟩
    refine List.pairwise_append.2 ⟨order, List.pairwise_singleton _ _, fun m hm k hk => ?_⟩
    obtain rfl := List.mem_singleton.1 hk
    have unseen : k ∉ all := fun hk => known ((h.mem_iff k).2 hk)
    rw [stays hm, List.idxOf_append_of_notMem unseen]
    have known : all.idxOf m < all.length := List.idxOf_lt_length_iff.2 ((h.mem_iff m).1 hm)
    exact Nat.lt_of_lt_of_le known (Nat.le_add_right _ _)

/-- Names that are empty are passed over. -/
theorem addName (h : FirstSeen all seen) (n : String) :
    FirstSeen (all ++ [n].filter (· ≠ "")) (Concord.addName seen n) := by
  by_cases empty : n = ""
  · subst empty
    simpa [Concord.addName] using h
  · have added : Concord.addName seen n = if n ∈ seen then seen else seen ++ [n] := by
      simp [Concord.addName, empty]
    rw [added, List.filter_cons_of_pos (by simpa using empty)]
    exact h.add n

/-- **So are they where any number of names are added.** -/
theorem addNames (h : FirstSeen all seen) (new : List String) :
    FirstSeen (all ++ new.filter (· ≠ "")) (Concord.addNames seen new) := by
  induction new generalizing all seen with
  | nil => simpa [Concord.addNames] using h
  | cons n new ih =>
    have next := ih (h.addName n)
    rwa [List.append_assoc, ← List.filter_append] at next

end FirstSeen

/-- **Where names are added that are not there yet, behind the old names stand the new ones, each once
and in the order of first occurrence.** -/
theorem foldl_eq_append {step : List String → String → List String} (names new : List String)
    (hstep : ∀ kept, ∀ n ∈ new, step kept n = if n ∈ kept then kept else kept ++ [n]) :
    ∃ added, new.foldl step names = names ++ added ∧ FirstSeen (new.filter (· ∉ names)) added := by
  induction new using List.reverseRecOn with
  | nil => exact ⟨[], by simp, .nil⟩
  | append_singleton new n ih =>
    obtain ⟨added, eq, seen⟩ := ih fun kept m hm => hstep kept m (List.mem_append_left _ hm)
    have last : (new ++ [n]).foldl step names =
        if n ∈ names ++ added then names ++ added else names ++ added ++ [n] := by
      rw [List.foldl_append, eq]
      exact hstep _ n (List.mem_append_right _ List.mem_cons_self)
    rw [last, List.filter_append]
    by_cases known : n ∈ names
    · refine ⟨added, if_pos (List.mem_append_left _ known), ?_⟩
      rwa [List.filter_cons_of_neg (by simpa using known), List.filter_nil, List.append_nil]
    · rw [List.filter_cons_of_pos (by simpa using known), List.filter_nil]
      refine ⟨_, ?_, seen.add n⟩
      by_cases again : n ∈ added <;> simp [known, again]

/-- Added are the names that are neither empty nor there. -/
theorem addNames_eq_append (names new : List String) :
    ∃ added, addNames names new = names ++ added ∧
      FirstSeen ((new.filter (· ≠ "")).filter (· ∉ names)) added := by
  have filled : addNames names new = (new.filter (· ≠ "")).foldl addName names := by
    rw [addNames, List.foldl_filter]
    congr 1
    funext kept n
    by_cases empty : n = "" <;> simp [addName, empty]
  rw [filled]
  refine foldl_eq_append names _ fun kept n hn => ?_
  have nonempty : n ≠ "" := by simpa using (List.mem_filter.1 hn).2
  simp [addName, nonempty]

/-- The names that were there stay in front. -/
theorem prefix_addNames (names new : List String) : names <+: addNames names new := by
  obtain ⟨added, eq, -⟩ := addNames_eq_append names new
  exact ⟨added, eq.symm⟩

/-- What is there then was there or is one of the names that are not empty. -/
theorem mem_addNames {names new : List String} {n : String} :
    n ∈ addNames names new ↔ n ∈ names ∨ (n ∈ new ∧ n ≠ "") := by
  obtain ⟨added, eq, seen⟩ := addNames_eq_append names new
  rw [eq, List.mem_append, seen.mem_iff, List.mem_filter, List.mem_filter, decide_eq_true_iff,
    decide_eq_true_iff]
  tauto

/-- What is made of a list item by item holds the names of the items, if each item adds its own. -/
theorem firstSeen_foldl {ι β : Type} (name : ι → String) (step : β → ι → β)
    (names : β → List String)
    (hstep : ∀ made i, names (step made i) =
      if name i ∈ names made then names made else names made ++ [name i])
    {start : β} (hstart : names start = []) (items : List ι) :
    FirstSeen (items.map name) (names (items.foldl step start)) := by
  induction items using List.reverseRecOn with
  | nil =>
    rw [List.foldl_nil, hstart]
    exact .nil
  | append_singleton items i ih =>
    rw [List.foldl_append, List.foldl_cons, List.foldl_nil, hstep, List.map_append]
    exact ih.add (name i)

/-! ## Tables -/

section Tables

variable {β : Type} (initial : β)

/-- Changes the value under a key, which is added behind the others if it does not occur. -/
def alter (key : String) (change : β → β) : List (String × β) → List (String × β)
  | [] => [(key, change initial)]
  | (k, value) :: rest =>
    if k == key then (k, change value) :: rest else (k, value) :: alter key change rest

/-- An altered key keeps its place, or comes last. -/
theorem keys_alter (key : String) (change : β → β) (table : List (String × β)) :
    (alter initial key change table).map (·.1) =
      if key ∈ table.map (·.1) then table.map (·.1) else table.map (·.1) ++ [key] := by
  induction table with
  | nil => rfl
  | cons entry rest ih =>
    rw [alter]
    by_cases here : entry.1 = key
    · simp [here]
    · have other : ¬ key = entry.1 := fun same => here same.symm
      simp only [beq_iff_eq, here, if_false, List.map_cons, ih, List.mem_cons, other, false_or]
      split <;> rfl

/-- What is found under a key, entry by entry. -/
theorem lookup_cons_eq_ite (entry : String × β) (rest : List (String × β)) (k : String) :
    List.lookup k (entry :: rest) = if entry.1 = k then some entry.2 else rest.lookup k := by
  rw [List.lookup_cons]
  by_cases here : entry.1 = k
  · rw [if_pos here, ← here, beq_self_eq_true]
  · rw [if_neg here, beq_false_of_ne (Ne.symm here)]

theorem lookup_cons_getD (entry : String × β) (rest : List (String × β)) (k : String) :
    (List.lookup k (entry :: rest)).getD initial =
      if entry.1 = k then entry.2 else (rest.lookup k).getD initial := by
  rw [lookup_cons_eq_ite]
  split <;> rfl

/-- Altering a key changes what is found under this key only. -/
theorem lookup_alter (key : String) (change : β → β) (table : List (String × β)) (k : String) :
    ((alter initial key change table).lookup k).getD initial =
      if key = k then change ((table.lookup k).getD initial)
      else (table.lookup k).getD initial := by
  induction table with
  | nil => rw [alter, lookup_cons_getD]; rfl
  | cons entry rest ih =>
    rw [alter, lookup_cons_getD]
    by_cases here : entry.1 = key
    · rw [if_pos (beq_iff_eq.2 here), lookup_cons_getD, here]
      by_cases same : key = k <;> simp only [same, if_true, if_false]
    · rw [if_neg (mt beq_iff_eq.1 here), lookup_cons_getD, ih]
      by_cases same : entry.1 = k
      · have other : ¬ key = k := fun heq => here (same.trans heq.symm)
        simp only [same, other, if_true, if_false]
      · simp only [same, if_false]

variable {ι : Type} (key : ι → String) (change : ι → β → β) (items : List ι)

/-- **The keys of a table that is filled entry by entry are those of the entries.** -/
theorem firstSeen_keys_foldl_alter :
    FirstSeen (items.map key)
      ((items.foldl (fun t i => alter initial (key i) (change i) t) []).map (·.1)) :=
  firstSeen_foldl key _ (fun t => t.map (·.1)) (fun t i => keys_alter initial (key i) (change i) t)
    rfl items

/-- **Under each key is what the entries with this key make of the initial value.** -/
theorem lookup_foldl_alter (k : String) :
    ((items.foldl (fun t i => alter initial (key i) (change i) t) []).lookup k).getD initial =
      (items.filter (key · == k)).foldl (fun value i => change i value) initial := by
  induction items using List.reverseRecOn with
  | nil => rfl
  | append_singleton items i ih =>
    rw [List.foldl_append, List.foldl_cons, List.foldl_nil, lookup_alter, List.filter_append,
      List.foldl_append, ih]
    by_cases same : key i = k <;> simp [same]

/-- Nothing is found under what is no key. -/
theorem lookup_eq_none_iff_notMem {table : List (String × β)} {k : String} :
    table.lookup k = none ↔ k ∉ table.map (·.1) := by
  rw [List.lookup_eq_none_iff, List.mem_map]
  constructor
  · rintro none_has ⟨entry, hentry, rfl⟩
    simpa using none_has entry hentry
  · intro fresh entry hentry
    exact bne_iff_ne.2 fun same => fresh ⟨entry, hentry, same.symm⟩

/-- In a table with different keys every entry is found under its key. -/
theorem lookup_of_mem {table : List (String × β)} (distinct : (table.map (·.1)).Nodup)
    {entry : String × β} (h : entry ∈ table) : table.lookup entry.1 = some entry.2 := by
  obtain ⟨before, behind, rfl⟩ := List.append_of_mem h
  refine List.lookup_eq_some_iff.2 ⟨before, behind, rfl, fun other hother => bne_iff_ne.2 ?_⟩
  rw [List.map_append, List.nodup_append] at distinct
  exact Ne.symm (distinct.2.2 _ (List.mem_map_of_mem hother) _ (by simp))

/-- What is found under a key is the value of the entry that has it. -/
theorem lookup_eq_some_iff_mem {table : List (String × β)} (distinct : (table.map (·.1)).Nodup)
    (k : String) (value : β) : table.lookup k = some value ↔ (k, value) ∈ table := by
  refine ⟨fun found => ?_, lookup_of_mem distinct⟩
  obtain ⟨before, behind, rfl, -⟩ := List.lookup_eq_some_iff.1 found
  exact List.mem_append_right before List.mem_cons_self

/-- The order of the entries makes no difference to what is found. -/
theorem lookup_eq_of_perm {table table' : List (String × β)} (perm : table.Perm table')
    (distinct : (table.map (·.1)).Nodup) (k : String) : table.lookup k = table'.lookup k := by
  have distinct' : (table'.map (·.1)).Nodup := (perm.map _).nodup_iff.1 distinct
  refine Option.ext fun value => ?_
  rw [lookup_eq_some_iff_mem distinct, lookup_eq_some_iff_mem distinct', perm.mem_iff]

end Tables
end Concord
