import Mathlib.Data.List.Nodup
import Concord.Proofs.Outline.Whole
import Concord.Proofs.Reader.Go

/-!
# Concord.Proofs.Outline.Interfaces

Interfaces of Go projects.  A type implements what it embeds, and every interface all of whose
methods it has.

* `lookup_typeGraph` — among types with different names, the entry of each is made of what is
  declared for it and of the interfaces that it satisfies (`satisfiedNames`);
* `mem_methods_of_mem_mergedTypes` — in Go a type other than an interface has the methods that name
  it as their receiver, and no others;
* `hasInterfaces_merge` — so the graph of a project tells the interfaces as its functions have them.
-/

namespace Concord

/-! ## Tables -/

/-- Changing the entry of a key changes what is found under this key only. -/
theorem NameTable.lookup_update (table : NameTable) (key : String)
    (change : List String → List String) (k : String) :
    (table.update key change).lookup k =
      if key = k then some (change (table.names k)) else table.lookup k := by
  induction table with
  | nil =>
    rw [update, lookup_cons_eq_ite]
    rfl
  | cons entry rest ih =>
    rw [update, names, lookup_cons_eq_ite]
    by_cases here : entry.1 = key
    · by_cases same : key = k <;> simp [here, same, lookup_cons_eq_ite]
    · rw [if_neg (by simpa using here), lookup_cons_eq_ite, ih]
      by_cases front : entry.1 = k
      · have other : ¬ key = k := fun same => here (front.trans same.symm)
        simp only [front, other, if_true, if_false]
      · simp only [front, if_false, names]

section Folding

variable {ι σ α : Type} {key : ι → String} {step : σ → ι → σ} (read : String → σ → α)
  (change : ι → α → α)

/-- What has another key is passed over. -/
theorem read_foldl_of_notMem
    (hstep : ∀ made i k, read k (step made i) =
      if key i = k then change i (read k made) else read k made)
    {items : List ι} {k : String} (fresh : k ∉ items.map key) (start : σ) :
    read k (items.foldl step start) = read k start := by
  induction items generalizing start with
  | nil => rfl
  | cons i items ih =>
    rw [List.map_cons, List.mem_cons, not_or] at fresh
    rw [List.foldl_cons, ih fresh.2, hstep, if_neg (Ne.symm fresh.1)]

/-- **Of items with different keys, only the one with a key changes what is read under it.** -/
theorem read_foldl_of_mem
    (hstep : ∀ made i k, read k (step made i) =
      if key i = k then change i (read k made) else read k made)
    {items : List ι} (distinct : (items.map key).Nodup) {i : ι} (hi : i ∈ items) (start : σ) :
    read (key i) (items.foldl step start) = change i (read (key i) start) := by
  induction items generalizing start with
  | nil => cases hi
  | cons j items ih =>
    rw [List.map_cons, List.nodup_cons] at distinct
    rw [List.foldl_cons]
    -- nothing behind the item has its key, and nothing in front of it
    rcases List.mem_cons.1 hi with rfl | behind
    · rw [read_foldl_of_notMem read change hstep distinct.1, hstep, if_pos rfl]
    · have other : key j ≠ key i := fun same => distinct.1 (same ▸ List.mem_map_of_mem behind)
      rw [ih distinct.2 behind, hstep, if_neg other]

end Folding

namespace Outline

variable {types : List TypeDecl} {t : TypeDecl}

/-! ## The graph of types -/

/-- The names of the interfaces that a type satisfies.  An interface satisfies none. -/
def satisfiedNames (types : List TypeDecl) (t : TypeDecl) : List String :=
  if t.kind == .interface then [] else (types.filter (satisfies t)).map (·.name)

/-- An entry, if there is one, with more names in it. -/
def extended (names? : Option (List String)) (names : List String) : Option (List String) :=
  names.foldl (fun names? name => some (addName (names?.getD []) name)) names?

/-- Extended names are the names with the further ones added. -/
theorem getD_extended (names? : Option (List String)) (names : List String) :
    (extended names? names).getD [] = addNames (names?.getD []) names := by
  induction names generalizing names? with
  | nil => rfl
  | cons name names ih => exact ih _

/-- The names that are declared for a type, if there are any. -/
def declared? (t : TypeDecl) : Option (List String) :=
  if t.implements = [] then none else some t.implements

/-- A type that declares no interface implements none. -/
theorem getD_declared? (t : TypeDecl) : (declared? t).getD [] = t.implements := by
  rw [declared?]
  split
  · next none_declared => rw [none_declared, Option.getD_none]
  · rfl

/-- What a type declares to implement is found under its name. -/
theorem lookup_declaredGraph (distinct : (types.map (·.name)).Nodup) (ht : t ∈ types) :
    (declaredGraph types).lookup t.name = declared? t := by
  refine read_foldl_of_mem (fun k graph => List.lookup k graph)
    (fun t names? => if t.implements = [] then names? else some t.implements)
    (fun graph t k => ?_) distinct ht []
  by_cases bare : t.implements = []
  · simp [bare]
  · simp [bare, NameTable.lookup_update]

/-- Adding what a type satisfies changes what is found under its name only. -/
theorem lookup_addSatisfied (types : List TypeDecl) (graph : NameTable) (t : TypeDecl) (k : String) :
    (addSatisfied types graph t).lookup k =
      if t.name = k then extended (graph.lookup k) (satisfiedNames types t)
      else graph.lookup k := by
  rw [addSatisfied, satisfiedNames]
  by_cases isInterface : t.kind = .interface
  · simp [isInterface, extended]
  · simp only [beq_iff_eq, isInterface, if_false]
    generalize types.filter (satisfies t) = satisfied
    induction satisfied generalizing graph with
    | nil => simp [extended]
    | cons i satisfied ih =>
      rw [List.foldl_cons, ih, NameTable.lookup_update]
      split <;> rfl

/-- **The entry of a type is made of what is declared for it and the interfaces that it
satisfies.** -/
theorem lookup_typeGraph (distinct : (types.map (·.name)).Nodup) (ht : t ∈ types) :
    (typeGraph true types).lookup t.name =
      extended (declared? t) (satisfiedNames types t) := by
  rw [typeGraph, if_pos rfl, ← lookup_declaredGraph distinct ht]
  exact read_foldl_of_mem (fun k graph => List.lookup k graph)
    (fun t names? => extended names? (satisfiedNames types t))
    (lookup_addSatisfied types) distinct ht _

/-- Interfaces have an entry of their own only. -/
theorem lookup_typeGraph_of_interface (distinct : (types.map (·.name)).Nodup) (ht : t ∈ types)
    (isInterface : t.kind = .interface) : (typeGraph true types).lookup t.name = declared? t := by
  rw [lookup_typeGraph distinct ht, satisfiedNames, isInterface]
  rfl

/-- **A type implements what is declared for it, and the interfaces that it satisfies.** -/
theorem mem_names_typeGraph (distinct : (types.map (·.name)).Nodup) (ht : t ∈ types)
    (notInterface : t.kind ≠ .interface) {n : String} :
    n ∈ (typeGraph true types).names t.name ↔
      n ∈ t.implements ∨ (n ≠ "" ∧ ∃ i ∈ types, satisfies t i = true ∧ i.name = n) := by
  rw [NameTable.names, lookup_typeGraph distinct ht, getD_extended, getD_declared?, mem_addNames,
    satisfiedNames, if_neg (by simpa using notInterface)]
  simp only [List.mem_map, List.mem_filter, and_assoc]
  tauto

theorem satisfies_iff {t i : TypeDecl} : satisfies t i = true ↔
    i.kind = .interface ∧ i.methods ≠ [] ∧ ∀ m ∈ i.methods, m ∈ t.methods := by
  simp [satisfies, and_assoc]

/-- Different types have different names, so that a name tells which interface it is. -/
theorem satisfies_of_name (distinct : (types.map (·.name)).Nodup) {i : TypeDecl} (hi : i ∈ types) :
    (∃ j ∈ types, satisfies t j = true ∧ j.name = i.name) ↔ satisfies t i = true := by
  refine ⟨fun ⟨j, hj, satisfied, same⟩ => ?_, fun satisfied => ⟨i, hi, satisfied, rfl⟩⟩
  rwa [← List.inj_on_of_nodup_map distinct hj hi same]

/-! ## Methods in Go -/

/-- Only interfaces declare methods. -/
theorem methods_of_isType {s : Source} {d : TypeDecl} (h : Reader.Go.IsType s d)
    (notInterface : d.kind ≠ .interface) : d.methods = [] := by
  obtain ⟨anchor, spec, rfl⟩ := h
  revert notInterface
  rw [Reader.Go.readType]
  dsimp only
  split
  · exact fun _ => rfl
  · exact fun notInterface => absurd rfl notInterface
  · exact fun _ => rfl

theorem isType_of_mem_goOutline {f : ConcreteFile} {d : TypeDecl} (h : d ∈ f.goOutline.types) :
    Reader.Go.IsType f.source d :=
  Reader.Go.of_mem_read (Reader.mem_types_ofDeclarations.1 h)

/-- A completed type is an interface only if it was declared as one. -/
theorem IsCompletionOf.kind_ne_interface {functions : List FunctionDecl} {d t : TypeDecl}
    (h : IsCompletionOf functions d t) (notInterface : t.kind ≠ .interface) :
    d.kind ≠ .interface := by
  rcases h.kind with same | isAlias
  · rwa [← same.1]
  · simp [isAlias.1]

/-- **A type other than an interface has the methods that name it as their receiver, and no
others.** -/
theorem mem_methods_of_mem_mergedTypes {files : List ConcreteFile} {t : TypeDecl}
    (ht : t ∈ mergedTypes (files.map (·.goOutline))) (notInterface : t.kind ≠ .interface)
    {m : String} : m ∈ t.methods ↔
      ∃ f ∈ (files.map (·.goOutline)).flatMap (·.functions),
        f.receiver? = some t.name ∧ f.name = m := by
  rw [mergedTypes_eq] at ht
  obtain ⟨d, hd, rfl⟩ := List.mem_map.1 ht
  have completion := completed_isCompletionOf (files.map (·.goOutline)) d
  obtain ⟨outline, houtline, declared⟩ := List.mem_flatMap.1 (mem_of_mem_firstDeclarations hd)
  obtain ⟨file, -, rfl⟩ := List.mem_map.1 houtline
  have bare : d.methods = [] :=
    methods_of_isType (isType_of_mem_goOutline declared) (completion.kind_ne_interface notInterface)
  obtain ⟨added, eq, seen⟩ := completion.methods
  rw [eq, bare, List.nil_append, seen.mem_iff, completed_name]
  simp [bare, and_assoc]

/-! ## Projects -/

/-- The types of a project have different names. -/
theorem nodup_names_mergedTypes (files : List FileOutline) :
    ((mergedTypes files).map (·.name)).Nodup := by
  have names : (·.name) ∘ completed files = (·.name) := funext (completed_name files)
  rw [mergedTypes_eq, List.map_map, names]
  exact (firstSeen_firstDeclarations _).nodup

/-- Whether an outline tells which types implement which interfaces: those that they embed, and
those all of whose methods are among their own. -/
structure HasInterfaces (o : Outline) : Prop where
  types : ∀ t ∈ o.types, t.kind ≠ .interface → ∀ i ∈ o.types, i.kind = .interface → i.name ≠ "" →
    (i.name ∈ o.implements.names t.name ↔
      i.name ∈ t.implements ∨
        (i.methods ≠ [] ∧
          ∀ m ∈ i.methods, ∃ f ∈ o.functions, f.receiver? = some t.name ∧ f.name = m))
  /-- An interface implements what it embeds, and has no entry if there is nothing of the kind. -/
  interfaces : ∀ i ∈ o.types, i.kind = .interface →
    o.implements.lookup i.name = if i.implements = [] then none else some i.implements

/-- **The outline of a Go project tells which types implement which interfaces.** -/
theorem hasInterfaces_merge (files : List ConcreteFile) (name : Document.Value) (root : String)
    (localPrefixes : List String) :
    HasInterfaces (merge .go (files.map (·.goOutline)) name root localPrefixes) := by
  have distinct := nodup_names_mergedTypes (files.map (·.goOutline))
  refine ⟨fun t ht notInterface i hi isInterface named => ?_, fun i hi isInterface => ?_⟩
  · have graph : i.name ∈ (typeGraph true (mergedTypes (files.map (·.goOutline)))).names t.name ↔ _ :=
      mem_names_typeGraph distinct ht notInterface
    refine graph.trans (or_congr_right ?_)
    -- what is named like `i` among the satisfied interfaces is `i`
    rw [and_iff_right named, satisfies_of_name distinct hi, satisfies_iff,
      and_iff_right isInterface]
    refine and_congr_right fun _ => forall₂_congr fun m _ => ?_
    exact mem_methods_of_mem_mergedTypes ht notInterface
  · exact lookup_typeGraph_of_interface distinct hi isInterface

/-- A structure satisfies an interface by a method from a third file. -/
theorem hasInterfaces_merge_threeFiles :
    let leaf (kind role : String) (start stop : Nat) : Node := .mk kind true false start stop role []
    let node (kind role : String) (start stop : Nat) : List Node → Node :=
      .mk kind true false start stop role
    let getter : ConcreteFile :=
      .onText "get.go" "func(T)Get(){}" <| node "source_file" "" 0 14
        [node "method_declaration" "" 0 14
          [node "parameter_list" "receiver" 4 7
            [node "parameter_declaration" "" 5 6 [leaf "type_identifier" "type" 5 6]],
           leaf "field_identifier" "name" 7 10, leaf "parameter_list" "parameters" 10 12,
           leaf "block" "body" 12 14]]
    let reader : ConcreteFile :=
      .onText "reader.go" "type R interface{Get()}" <| node "source_file" "" 0 23
        [node "type_declaration" "" 0 23
          [node "type_spec" "" 5 23
            [leaf "type_identifier" "name" 5 6,
             node "interface_type" "type" 7 23
              [node "method_elem" "" 17 22
                [leaf "field_identifier" "name" 17 20, leaf "parameter_list" "parameters" 20 22]]]]]
    let struct : ConcreteFile :=
      .onText "t.go" "type T struct{}" <| node "source_file" "" 0 15
        [node "type_declaration" "" 0 15
          [node "type_spec" "" 5 15
            [leaf "type_identifier" "name" 5 6,
             node "struct_type" "type" 7 15 [leaf "field_declaration_list" "" 13 15]]]]
    let o := merge .go ([getter, reader, struct].map (·.goOutline))
    ∃ t ∈ o.types, ∃ i ∈ o.types, t.kind = .struct ∧ i.kind = .interface ∧ i.name = "R" ∧
      i.name ∉ t.implements ∧ i.name ∈ o.implements.names t.name := by
  intro leaf node getter reader struct o
  let i := o.types.get ⟨0, by decide +kernel⟩
  let t := o.types.get ⟨1, by decide +kernel⟩
  have notInterface : t.kind ≠ .interface := by decide +kernel
  have isInterface : i.kind = .interface := by decide +kernel
  have methods : i.methods ≠ [] ∧
      ∀ m ∈ i.methods, ∃ f ∈ o.functions, f.receiver? = some t.name ∧ f.name = m := by
    decide +kernel
  have tells := (hasInterfaces_merge [getter, reader, struct] (.text "") "" []).types t
    (List.get_mem _ _) notInterface i (List.get_mem _ _) isInterface (by decide +kernel)
  exact ⟨t, List.get_mem _ _, i, List.get_mem _ _, by decide +kernel, isInterface,
    by decide +kernel, by decide +kernel, tells.2 (.inr methods)⟩

end Outline
end Concord
