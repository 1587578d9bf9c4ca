import Concord.Proofs.Outline.Private

/-!
# Concord.Proofs.Outline.Whole

The outline of a project is the whole of its files: nothing is lost, and nothing is there twice.

1. Of the types of one name there is one, the first that was declared.  Files may add methods,
   interfaces and variants to it, but change nothing else (`IsCompletionOf`).
2. Functions and notices are those of the files, one file behind the other.
3. Every method is among the methods of the type that it names as its receiver.
4. The call graph has one entry for each function name, with the names that the functions of this
   name call, each once and in the order of first occurrence.

`merge_isWholeOf` states this of every list of files.
-/

namespace Concord

/-- A table of names is changed like any other table. -/
theorem NameTable.update_eq_alter (table : NameTable) (key : String)
    (change : List String → List String) : table.update key change = alter [] key change table := by
  induction table with
  | nil => rfl
  | cons entry rest ih => rw [NameTable.update, alter, ih]

namespace Outline

/-! ## Types -/

/-- The first declarations have the declared names, each once. -/
theorem firstSeen_firstDeclarations (types : List TypeDecl) :
    FirstSeen (types.map (·.name)) ((firstDeclarations types).map (·.name)) := by
  refine firstSeen_foldl (·.name) _ (List.map TypeDecl.name) (fun kept t => ?_)
    List.map_nil types
  have known : kept.any (·.name == t.name) = true ↔ t.name ∈ kept.map (·.name) := by simp
  by_cases h : t.name ∈ kept.map (·.name)
  · rw [if_pos h, if_pos (known.2 h)]
  · rw [if_neg h, if_neg (mt known.1 h), List.map_append, List.map_singleton]

/-- A type that counts is the first that was declared under its name. -/
theorem find?_of_mem_firstDeclarations {types : List TypeDecl} {t : TypeDecl}
    (h : t ∈ firstDeclarations types) : types.find? (·.name == t.name) = some t := by
  induction types with
  | nil => contradiction
  | cons u types ih =>
    rw [firstDeclarations_cons] at h
    rcases List.mem_cons.1 h with rfl | behind
    · exact List.find?_cons_of_pos (beq_self_eq_true _)
    · obtain ⟨counts, other⟩ := List.mem_filter.1 behind
      rw [List.find?_cons_of_neg (by simpa using other)]
      exact ih counts

/-- Whether a type is a declared one, completed by what files say of it elsewhere. -/
structure IsCompletionOf (functions : List FunctionDecl) (d t : TypeDecl) : Prop where
  declared : t =
    { d with
      kind := t.kind, aliasOf? := t.aliasOf?, variants := t.variants, methods := t.methods
      implements := t.implements }
  /-- Only an alias becomes something else, an enumeration. -/
  kind : (t.kind = d.kind ∧ t.aliasOf? = d.aliasOf? ∧ t.variants = d.variants) ∨
    (d.kind = .synonym ∧ t.kind = .enum ∧ t.aliasOf? = none ∧ d.variants <+: t.variants)
  /-- Behind the declared methods are those that are not declared, each once. -/
  methods : ∃ added, t.methods = d.methods ++ added ∧
    FirstSeen (((functions.filter (·.receiver? == some d.name)).map (·.name)).filter
      (· ∉ d.methods)) added
  implements : d.implements <+: t.implements

/-- A completed type is the declaration with what the files add to it. -/
theorem completed_isCompletionOf (files : List FileOutline) (d : TypeDecl) :
    IsCompletionOf (files.flatMap (·.functions)) d (completed files d) := by
  have name := withConstants_name (gather (·.constants) files) d
  have methods := withConstants_methods (gather (·.constants) files) d
  refine ⟨?_, ?_, ?_, ?_⟩
  · simp only [completed, withImplementations, withMethods, withConstants]
    split <;> rfl
  · simp only [completed, withImplementations, withMethods, withConstants]
    split
    · next isAlias _ => exact .inr ⟨isAlias, rfl, rfl, prefix_addNames _ _⟩
    · exact .inl ⟨rfl, rfl, rfl⟩
  · have own : (completed files d).methods =
        (((files.flatMap (·.functions)).filter (·.receiver? == some d.name)).map (·.name)).foldl
          addMethod d.methods := by
      simp only [completed, withImplementations, withMethods, name, methods]
    rw [own]
    exact foldl_addMethod_eq _ _
  · have own : (withConstants (gather (·.constants) files) d).implements = d.implements := by
      rw [withConstants]
      split <;> rfl
    rw [← own]
    exact prefix_addNames _ _

/-- The methods of a completed type are the declared ones and those that name it as their
receiver. -/
theorem IsCompletionOf.mem_methods {functions : List FunctionDecl} {d t : TypeDecl}
    (h : IsCompletionOf functions d t) {f : FunctionDecl} (hf : f ∈ functions)
    (own : f.receiver? = some t.name) : f.name ∈ t.methods := by
  obtain ⟨added, eq, seen⟩ := h.methods
  have name : t.name = d.name := congrArg (·.name) h.declared
  rw [eq, List.mem_append, seen.mem_iff]
  by_cases known : f.name ∈ d.methods
  · exact .inl known
  · refine .inr (List.mem_filter.2 ⟨List.mem_map.2 ⟨f, ?_, rfl⟩, by simpa using known⟩)
    exact List.mem_filter.2 ⟨hf, by simpa [name] using own⟩

/-- **A type of a project is the first that was declared under its name, completed.** -/
theorem exists_declared_of_mem_mergedTypes {files : List FileOutline} {t : TypeDecl}
    (h : t ∈ mergedTypes files) :
    ∃ d, (files.flatMap (·.types)).find? (·.name == t.name) = some d ∧
      IsCompletionOf (files.flatMap (·.functions)) d t := by
  rw [mergedTypes_eq] at h
  obtain ⟨d, hd, rfl⟩ := List.mem_map.1 h
  refine ⟨d, ?_, completed_isCompletionOf files d⟩
  rw [completed_name]
  exact find?_of_mem_firstDeclarations hd

/-! ## Calls -/

theorem callGraph_eq_foldl_alter (functions : List FunctionDecl) :
    callGraph functions =
      functions.foldl (fun graph f => alter [] f.name (addNames · f.calls) graph) [] := by
  simp only [callGraph, NameTable.update_eq_alter]

/-- The call graph has one entry for each function name. -/
theorem firstSeen_callGraph (functions : List FunctionDecl) :
    FirstSeen (functions.map (·.name)) ((callGraph functions).map (·.1)) := by
  rw [callGraph_eq_foldl_alter]
  exact firstSeen_keys_foldl_alter [] (·.name) _ functions

/-- **The entry of a name holds what the functions of this name call.** -/
theorem firstSeen_of_mem_callGraph {functions : List FunctionDecl} {entry : String × List String}
    (h : entry ∈ callGraph functions) :
    FirstSeen (((functions.filter (·.name == entry.1)).flatMap (·.calls)).filter (· ≠ ""))
      entry.2 := by
  have found := lookup_of_mem (firstSeen_callGraph functions).nodup h
  have filled := lookup_foldl_alter [] (·.name) (fun f => (addNames · f.calls)) functions entry.1
  rw [← callGraph_eq_foldl_alter, found, Option.getD_some] at filled
  have joined : entry.2 =
      addNames [] ((functions.filter (·.name == entry.1)).flatMap (·.calls)) := by
    rw [filled, addNames, List.foldl_flatMap]
    rfl
  rw [joined]
  exact FirstSeen.nil.addNames _

/-! ## The whole -/

/-- Whether an outline is the whole of some files. -/
structure IsWholeOf (files : List FileOutline) (o : Outline) : Prop where
  /-- Every declared name has exactly one type. -/
  typeNames : FirstSeen ((files.flatMap (·.types)).map (·.name)) (o.types.map (·.name))
  distinctTypes : (o.types.map (·.name)).Nodup
  types : ∀ t ∈ o.types, ∃ d, (files.flatMap (·.types)).find? (·.name == t.name) = some d ∧
    IsCompletionOf o.functions d t
  functions : o.functions = files.flatMap (·.functions)
  notices : o.notices = files.flatMap (·.notices)
  methods : ∀ f ∈ o.functions, ∀ t ∈ o.types, f.receiver? = some t.name → f.name ∈ t.methods
  callers : FirstSeen (o.functions.map (·.name)) (o.calls.map (·.1))
  calls : ∀ entry ∈ o.calls,
    FirstSeen (((o.functions.filter (·.name == entry.1)).flatMap (·.calls)).filter (· ≠ "")) entry.2

/-- **The outline of a project is the whole of its files.** -/
theorem merge_isWholeOf (language : Language) (files : List FileOutline) (name : Document.Value)
    (root : String) (localPrefixes : List String) :
    IsWholeOf files (merge language files name root localPrefixes) := by
  have names : (mergedTypes files).map (·.name) =
      (firstDeclarations (files.flatMap (·.types))).map (·.name) := by
    simp [mergedTypes_eq, Function.comp_def, completed_name]
  have seen := firstSeen_firstDeclarations (files.flatMap (·.types))
  rw [← names] at seen
  refine
    { typeNames := seen, distinctTypes := seen.nodup
      types := fun t ht => exists_declared_of_mem_mergedTypes ht, functions := rfl, notices := rfl
      methods := ?_, callers := firstSeen_callGraph _, calls := ?_ }
  · intro f hf t ht own
    obtain ⟨d, -, completion⟩ := exists_declared_of_mem_mergedTypes ht
    exact completion.mem_methods hf own
  · intro entry hentry
    exact firstSeen_of_mem_callGraph hentry

end Outline
end Concord
