import Concord.Proofs.Outline.PathOrder
import Concord.Proofs.Reader.Go

/-!
# Concord.Proofs.Outline.Enums

Enumerations of Go projects.  A type with a name of its own for another type is an enumeration as
soon as constants are declared with it, in whatever file.

* `lookup_gather` — what the files of a project declare under a name is gathered file by file;
* `completed_kind_eq_enum_iff` — a type becomes an enumeration exactly if it is an alias with
  constants;
* `isEnumeratedBy_of_mem_ofFiles` — so the types of a project are enumerations as their first
  specifications and the labels in the blocks of constants have it.

A label is what stands in the role of a name.  In a specification of several constants the commas
between them stand in this role as well, and so they count as constants:
`comma_is_a_variant`.
-/

namespace Concord

/-! ## Gathering -/

/-- Under a key is what was collected with it. -/
theorem Declaration.names_collect (pairs : List (String × String)) (k : String) :
    (Declaration.collect pairs).names k = (pairs.filter (·.1 == k)).map (·.2) := by
  have filled := lookup_foldl_alter [] (·.1) (fun e => (· ++ [e.2])) pairs k
  simp only [Declaration.collect, NameTable.names, NameTable.update_eq_alter, filled]
  generalize pairs.filter (·.1 == k) = own
  induction own using List.reverseRecOn with
  | nil => rfl
  | append_singleton own e ih =>
    rw [List.foldl_append, ih, List.foldl_cons, List.foldl_nil, List.map_append, List.map_singleton]

theorem Declaration.firstSeen_keys_collect (pairs : List (String × String)) :
    FirstSeen (pairs.map (·.1)) ((Declaration.collect pairs).map (·.1)) := by
  simp only [Declaration.collect, NameTable.update_eq_alter]
  exact firstSeen_keys_foldl_alter [] (·.1) _ pairs

namespace Outline

variable {table : FileOutline → NameTable} {files : List FileOutline}

theorem gather_eq_foldl_alter (table : FileOutline → NameTable) (files : List FileOutline) :
    gather table files =
      (files.flatMap table).foldl (fun all e => alter [] e.1 (· ++ e.2) all) [] := by
  simp only [gather, NameTable.append, NameTable.update_eq_alter, List.foldl_flatMap]

/-- In a table with different keys there is one entry for each. -/
theorem flatMap_filter_eq_names {t : NameTable} (distinct : (t.map (·.1)).Nodup) (k : String) :
    (t.filter (·.1 == k)).flatMap (·.2) = t.names k := by
  induction t with
  | nil => rfl
  | cons entry rest ih =>
    rw [List.map_cons, List.nodup_cons] at distinct
    rw [NameTable.names, lookup_cons_getD, List.filter_cons]
    by_cases here : entry.1 = k
    · have none_left : rest.filter (·.1 == k) = [] := by
        refine List.filter_eq_nil_iff.2 fun e he same => distinct.1 ?_
        rw [here, ← beq_iff_eq.1 same]
        exact List.mem_map_of_mem he
      simp [here, none_left]
    · simpa [here, NameTable.names] using ih distinct.2

/-- **Under each name is gathered what the files have under it, one file after the other.** -/
theorem names_gather (distinct : ∀ f ∈ files, ((table f).map (·.1)).Nodup) (k : String) :
    (gather table files).names k = files.flatMap fun f => (table f).names k := by
  have filled := lookup_foldl_alter [] (·.1) (fun e => (· ++ e.2)) (files.flatMap table) k
  have joined (entries : List (String × List String)) (start : List String) :
      entries.foldl (fun names e => names ++ e.2) start = start ++ entries.flatMap (·.2) := by
    induction entries generalizing start with
    | nil => simp
    | cons e entries ih => simp [ih]
  rw [NameTable.names, gather_eq_foldl_alter, filled, joined, List.nil_append, List.filter_flatMap,
    List.flatMap_assoc]
  exact List.flatMap_congr fun f hf => flatMap_filter_eq_names (distinct f hf) k

/-- A key is gathered exactly if it is in the table of some file. -/
theorem mem_keys_gather {k : String} :
    k ∈ (gather table files).map (·.1) ↔ ∃ f ∈ files, k ∈ (table f).map (·.1) := by
  rw [gather_eq_foldl_alter,
    (firstSeen_keys_foldl_alter [] (·.1) (fun e => (· ++ e.2)) (files.flatMap table)).mem_iff]
  simp only [List.mem_map, List.mem_flatMap]
  grind

/-- Whether a table is filled pair by pair, so that no name stands in it without something under
it. -/
def IsCollected (t : NameTable) : Prop := ∃ pairs, t = Declaration.collect pairs

theorem IsCollected.distinct {t : NameTable} (h : IsCollected t) : (t.map (·.1)).Nodup := by
  obtain ⟨pairs, rfl⟩ := h
  exact (Declaration.firstSeen_keys_collect pairs).nodup

/-- A collected table has the keys that have names. -/
theorem IsCollected.mem_keys_iff {t : NameTable} (h : IsCollected t) {k : String} :
    k ∈ t.map (·.1) ↔ t.names k ≠ [] := by
  obtain ⟨pairs, rfl⟩ := h
  rw [(Declaration.firstSeen_keys_collect pairs).mem_iff, Declaration.names_collect, ne_eq,
    List.map_eq_nil_iff, List.filter_eq_nil_iff]
  simp

/-- A name stands among the gathered ones exactly if something is gathered under it. -/
theorem mem_keys_gather_iff (collected : ∀ f ∈ files, IsCollected (table f)) {k : String} :
    k ∈ (gather table files).map (·.1) ↔ (gather table files).names k ≠ [] := by
  rw [names_gather (fun f hf => (collected f hf).distinct), mem_keys_gather, ne_eq,
    List.flatMap_eq_nil_iff]
  push Not
  exact exists_congr fun f => and_congr_right fun hf => (collected f hf).mem_keys_iff

/-! ## Aliases with constants -/

/-- **A type becomes an enumeration exactly if it is an alias with constants.** -/
theorem completed_kind_eq_enum_iff {d : TypeDecl} (declared : d.kind ≠ .enum) :
    (completed files d).kind = .enum ↔
      d.kind = .synonym ∧ d.name ∈ (gather (·.constants) files).map (·.1) := by
  have own : (completed files d).kind = (withConstants (gather (·.constants) files) d).kind := rfl
  have known : d.name ∈ (gather (·.constants) files).map (·.1) ↔
      (gather (·.constants) files).lookup d.name ≠ none := by
    rw [ne_eq, lookup_eq_none_iff_notMem, not_not]
  rw [own, known, withConstants]
  split
  · next isAlias found => simp [isAlias, found]
  · next other =>
    refine iff_of_false declared fun h => ?_
    obtain ⟨names, found⟩ := Option.ne_none_iff_exists'.1 h.2
    exact other names h.1 found

/-- An alias that becomes an enumeration has the constants as variants and stands for no type. -/
theorem completed_of_kind_eq_enum {d : TypeDecl} (declared : d.kind ≠ .enum)
    (isEnum : (completed files d).kind = .enum) :
    (completed files d).variants =
        addNames d.variants ((gather (·.constants) files).names d.name) ∧
      (completed files d).aliasOf? = none := by
  have variants : (completed files d).variants =
      (withConstants (gather (·.constants) files) d).variants := rfl
  have aliasOf : (completed files d).aliasOf? =
      (withConstants (gather (·.constants) files) d).aliasOf? := rfl
  have own : (withConstants (gather (·.constants) files) d).kind = .enum := isEnum
  rw [variants, aliasOf, NameTable.names]
  rw [withConstants] at own ⊢
  split at own
  · next _ found => simp [found]
  · exact absurd own declared

end Outline

/-! ## What a Go file says of a type -/

namespace Reader.Go

variable (s : Source)

/-- Whether a specification lists the members of a structure or of an interface. -/
def listsMembers (spec : Node) : Bool :=
  (spec.child? "type").any fun type => type.kind == "struct_type" || type.kind == "interface_type"

/-- The name that a specification declares. -/
def declaredName (spec : Node) : String := s.text? (spec.child? "name")

/-- The constants that a specification names: its labels without the commas between them. -/
def constantNames (spec : Node) : List String :=
  (((spec.childrenIn "name").filter (·.isNamed)).map s.text).filter (· ≠ "_")

/-- What a block of constants has under a type, if `names` are the names in a specification. -/
def namesOfType (names : Node → List String) (type : String) (specs : List Node) : List String :=
  (sitesAfter [] specs).flatMap fun site =>
    if typeInForce? s (site.node :: site.before) = some type then names site.node else []

variable {s}

/-- A type that is read from a specification has its name. -/
theorem IsReadFrom.name {spec : Node} {t : TypeDecl} (h : IsReadFrom s spec t) :
    t.name = declaredName s spec := by
  obtain ⟨anchor, rfl⟩ := h
  rw [readType]
  split <;> rfl

/-- A type is read as an alias exactly if no members are listed, never as an enumeration, and
without variants. -/
theorem IsReadFrom.kind {spec : Node} {t : TypeDecl} (h : IsReadFrom s spec t) :
    (t.kind = .synonym ↔ listsMembers spec = false) ∧ t.kind ≠ .enum ∧ t.variants = [] := by
  obtain ⟨anchor, rfl⟩ := h
  rw [readType, listsMembers]
  cases spec.child? "type" with
  | none => simp
  | some type =>
    dsimp only [Option.map_some, Option.any_some]
    split
    · simp_all
    · simp_all
    · simp_all

/-- The pairs of a block with one type are its labels under this type. -/
theorem map_filter_typedConstants (type : String) (specs : List Node) :
    ((typedConstants s none specs).filter (·.1 == type)).map (·.2) =
      namesOfType s (labels s) type specs := by
  have all : typedConstants s none specs = _ := typedConstants_eq s [] specs
  rw [all, List.filter_flatMap, List.map_flatMap, namesOfType]
  refine List.flatMap_congr fun site _ => ?_
  cases typeInForce? s (site.node :: site.before) with
  | none => simp
  | some other =>
    by_cases same : other = type <;>
      simp [same, List.filter_map, Function.comp_def]

end Reader.Go

namespace Outline

open Reader.Go

/-- The first specification of a type with this name in some files. -/
def firstSpec? (files : List ConcreteFile) (name : String) : Option Node :=
  files.findSome? fun f => (typeSpecs f.root).find? (declaredName f.source · == name)

/-- The constants of a type in some files, if `names` are the names in a specification. -/
def constantsOf (names : Source → Node → List String) (files : List ConcreteFile) (type : String) :
    List String :=
  files.flatMap fun f =>
    (constantBlocks f.root).flatMap (namesOfType f.source (names f.source) type)

/-- Whether a type is an enumeration as the files have it: its first specification lists no members,
and there are constants of it; these are the variants, each once, and nothing else is named. -/
structure IsEnumeratedBy (names : Source → Node → List String) (files : List ConcreteFile)
    (t : TypeDecl) : Prop where
  kind : ∃ spec, firstSpec? files t.name = some spec ∧
    (t.kind = .enum ↔ listsMembers spec = false ∧ constantsOf names files t.name ≠ [])
  variants : t.kind = .enum →
    FirstSeen ((constantsOf names files t.name).filter (· ≠ "")) t.variants
  aliasOf : t.kind = .enum → t.aliasOf? = none

/-- The constants of a file, pair by pair. -/
def constantPairs (f : ConcreteFile) : List (String × String) :=
  (constantBlocks f.root).flatMap (typedConstants f.source none)

theorem constants_goOutline (f : ConcreteFile) :
    f.goOutline.constants = Declaration.collect (constantPairs f) :=
  congrArg Declaration.collect (constants_read f.source f.root)

/-- The constants of a type in a file are those of its blocks, in order. -/
theorem names_goOutline (f : ConcreteFile) (type : String) :
    f.goOutline.constants.names type =
      (constantBlocks f.root).flatMap (namesOfType f.source (labels f.source) type) := by
  rw [constants_goOutline, Declaration.names_collect, constantPairs, List.filter_flatMap,
    List.map_flatMap]
  exact List.flatMap_congr fun block _ => map_filter_typedConstants type block

/-- **Gathered are the labels of all files.** -/
theorem gather_goOutline (files : List ConcreteFile) (type : String) :
    let gathered := gather (·.constants) (files.map (·.goOutline))
    gathered.names type = constantsOf labels files type ∧
      (type ∈ gathered.map (·.1) ↔ constantsOf labels files type ≠ []) := by
  have collected : ∀ f ∈ files.map (·.goOutline), IsCollected f.constants := by
    intro f hf
    obtain ⟨file, -, rfl⟩ := List.mem_map.1 hf
    exact ⟨_, constants_goOutline file⟩
  have names : (gather (·.constants) (files.map (·.goOutline))).names type =
      constantsOf labels files type := by
    rw [names_gather (fun f hf => (collected f hf).distinct), List.flatMap_map, constantsOf]
    exact List.flatMap_congr fun f _ => names_goOutline f type
  exact ⟨names, names ▸ mem_keys_gather_iff collected⟩

/-! ## First specifications -/

/-- Lists that go together have first members that go together. -/
theorem rel_find? {α β : Type} {R : α → β → Prop} {p : α → Bool} {q : β → Bool}
    (agree : ∀ a b, R a b → p a = q b) {as : List α} {bs : List β} (h : List.Forall₂ R as bs) :
    Option.Rel R (as.find? p) (bs.find? q) := by
  induction h with
  | nil => exact .none
  | @cons a b as bs hab _ ih =>
    rw [List.find?_cons, List.find?_cons, agree a b hab]
    cases q b with
    | true => exact .some hab
    | false => exact ih

/-- **The first type of a name is read from the first specification of this name.** -/
theorem rel_firstSpec? (files : List ConcreteFile) (name : String) :
    Option.Rel (fun spec t => ∃ s, IsReadFrom s spec t) (firstSpec? files name)
      (((files.map (·.goOutline)).flatMap (·.types)).find? (·.name == name)) := by
  induction files with
  | nil => exact .none
  | cons f files ih =>
    rw [firstSpec?, List.findSome?_cons, List.map_cons, List.flatMap_cons, List.find?_append]
    have first : Option.Rel (IsReadFrom f.source)
        ((typeSpecs f.root).find? (declaredName f.source · == name))
        (f.goOutline.types.find? (·.name == name)) :=
      rel_find? (fun spec t h => by rw [h.name]) (types_read f.source f.root)
    revert first
    generalize (typeSpecs f.root).find? _ = spec?
    generalize f.goOutline.types.find? _ = type?
    rintro (related | -)
    · exact .some ⟨_, related⟩
    · exact ih

/-! ## Projects -/

/-- Whether some files are the others that count in a Go project, by their paths. -/
structure AreInPathOrder (includeTests : Bool) (ordered files : List ConcreteFile) : Prop where
  perm : ordered.Perm (files.filter fun f => isEligible .go includeTests f.path)
  ordered : ordered.Pairwise (·.path < ·.path)

/-- The files that are read are those given, by their paths. -/
theorem AreInPathOrder.eligible_eq {includeTests : Bool} {ordered files : List ConcreteFile}
    (h : AreInPathOrder includeTests ordered files) :
    eligible .go includeTests (files.map (·.toFile)) = ordered.map (·.toFile) := by
  refine IsPathOrder.eligible_eq ⟨?_, List.pairwise_map.2 h.ordered⟩
  rw [List.filter_map]
  exact h.perm.map _

/-- Every type of a project is an enumeration as the labels in its files have it. -/
theorem isEnumeratedBy_labels {files : List ConcreteFile} {t : TypeDecl}
    (h : t ∈ mergedTypes (files.map (·.goOutline))) : IsEnumeratedBy labels files t := by
  rw [mergedTypes_eq] at h
  obtain ⟨d, hd, rfl⟩ := List.mem_map.1 h
  -- the declaration that counts was read from the first specification of its name
  have first := rel_firstSpec? files d.name
  rw [find?_of_mem_firstDeclarations hd] at first
  generalize found : firstSpec? files d.name = spec? at first
  obtain ⟨s, readFrom⟩ | - := first
  next spec =>
  obtain ⟨isAlias, declared, bare⟩ := readFrom.kind
  obtain ⟨names, known⟩ := gather_goOutline files d.name
  refine ⟨⟨spec, ?_, ?_⟩, fun isEnum => ?_, fun isEnum => ?_⟩
  · rwa [completed_name]
  · rw [completed_name, completed_kind_eq_enum_iff declared, isAlias, known]
  · rw [completed_name, (completed_of_kind_eq_enum declared isEnum).1, bare, names]
    exact FirstSeen.nil.addNames _
  · exact (completed_of_kind_eq_enum declared isEnum).2

/-- Only what is named in the files makes the difference. -/
theorem IsEnumeratedBy.congr {names names' : Source → Node → List String}
    {files : List ConcreteFile} {t : TypeDecl} (h : IsEnumeratedBy names files t)
    (same : constantsOf names files t.name = constantsOf names' files t.name) :
    IsEnumeratedBy names' files t where
  kind := same ▸ h.kind
  variants := same ▸ h.variants
  aliasOf := h.aliasOf

/-- Where nothing but names stands in the role of a name, the labels are the constants. -/
theorem constantsOf_labels {files : List ConcreteFile}
    (bare : ∀ f ∈ files, ∀ block ∈ constantBlocks f.root, ∀ spec ∈ block,
      ∀ n ∈ spec.childrenIn "name", n.isNamed = true) (type : String) :
    constantsOf labels files type = constantsOf constantNames files type := by
  refine List.flatMap_congr fun f hf => List.flatMap_congr fun block hblock => ?_
  refine List.flatMap_congr fun site hsite => ?_
  have hspec : site.node ∈ block := by
    rw [← map_node_sitesAfter [] block]
    exact List.mem_map_of_mem hsite
  rw [labels, constantNames, List.filter_eq_self.2 (bare f hf block hblock site.node hspec)]

/-- **Types are enumerations as the labels in the files have it**, and as the constants have it
where no comma stands in the role of a name. -/
theorem isEnumeratedBy_of_mem_ofFiles {includeTests : Bool} {ordered files : List ConcreteFile}
    (order : AreInPathOrder includeTests ordered files) (name : Document.Value) (root : String)
    (localPrefixes : List String) {t : TypeDecl}
    (h : t ∈ (ofFiles .go includeTests (files.map (·.toFile)) name root localPrefixes).types) :
    IsEnumeratedBy labels ordered t ∧
      ((∀ f ∈ ordered, ∀ block ∈ constantBlocks f.root, ∀ spec ∈ block,
          ∀ n ∈ spec.childrenIn "name", n.isNamed = true) →
        IsEnumeratedBy constantNames ordered t) := by
  have read : (ofFiles .go includeTests (files.map (·.toFile)) name root localPrefixes).types =
      mergedTypes (ordered.map (·.goOutline)) := by
    rw [ofFiles, order.eligible_eq, List.map_map]
    rfl
  have enumerated := isEnumeratedBy_labels (read ▸ h)
  exact ⟨enumerated, fun bare => enumerated.congr (constantsOf_labels bare t.name)⟩

/-- The constants of a type in two files, which do not come in the order of their paths; the last
constant repeats the type of the one in front. -/
theorem isEnumeratedBy_of_mem_ofFiles_twoFiles :
    let leaf (kind role : String) (start : Nat) : Node := .mk kind true false start (start + 1) role []
    let node (kind : String) (start stop : Nat) : List Node → Node := .mk kind true false start stop ""
    let declaring : ConcreteFile :=
      .onText "a.go" "type T U;const A T" <| node "source_file" 0 18
        [node "type_declaration" 0 8
          [node "type_spec" 5 8 [leaf "type_identifier" "name" 5, leaf "type_identifier" "type" 7]],
         node "const_declaration" 9 18
          [node "const_spec" 15 18 [leaf "identifier" "name" 15, leaf "type_identifier" "type" 17]]]
    let adding : ConcreteFile :=
      .onText "b.go" "const (B T;C)" <| node "source_file" 0 13
        [node "const_declaration" 0 13
          [node "const_spec" 7 10 [leaf "identifier" "name" 7, leaf "type_identifier" "type" 9],
           node "const_spec" 11 12 [leaf "identifier" "name" 11]]]
    AreInPathOrder false [declaring, adding] [adding, declaring] ∧
      ∃ t ∈ (ofFiles .go false ([adding, declaring].map (·.toFile))).types,
        t.kind = .enum ∧ t.variants = ["A", "B", "C"] ∧
          IsEnumeratedBy labels [declaring, adding] t ∧
          IsEnumeratedBy constantNames [declaring, adding] t := by
  intro leaf node declaring adding
  have eligible : [adding, declaring].filter (fun f => isEligible .go false f.path) =
      [adding, declaring] := List.filter_eq_self.2 (by decide +kernel)
  have order : AreInPathOrder false [declaring, adding] [adding, declaring] :=
    ⟨by rw [eligible]; exact List.Perm.swap _ _ [], List.pairwise_pair.2 (by decide +kernel)⟩
  have types : (ofFiles .go false ([adding, declaring].map (·.toFile))).types =
      mergedTypes [declaring.goOutline, adding.goOutline] := by
    rw [ofFiles, order.eligible_eq]
    rfl
  have bare : ∀ f ∈ [declaring, adding], ∀ block ∈ constantBlocks f.root, ∀ spec ∈ block,
      ∀ n ∈ spec.childrenIn "name", n.isNamed = true := by decide +kernel
  have member : (mergedTypes [declaring.goOutline, adding.goOutline]).head (by decide +kernel) ∈
      (ofFiles .go false ([adding, declaring].map (·.toFile))).types := by
    rw [types]
    exact List.head_mem _
  have both := isEnumeratedBy_of_mem_ofFiles order (.text "") "" [] member
  exact ⟨order, _, member, by decide +kernel, by decide +kernel, both.1, both.2 bare⟩

/-- Of two constants in one specification, the comma between them becomes a variant. -/
theorem comma_is_a_variant :
    let leaf (kind role : String) (isNamed : Bool) (start : Nat) : Node :=
      .mk kind isNamed false start (start + 1) role []
    let node (kind : String) (start stop : Nat) : List Node → Node := .mk kind true false start stop ""
    let file : ConcreteFile :=
      .onText "a.go" "type T U;const A,B T" <| node "source_file" 0 20
        [node "type_declaration" 0 8
          [node "type_spec" 5 8
            [leaf "type_identifier" "name" true 5, leaf "type_identifier" "type" true 7]],
         node "const_declaration" 9 20
          [node "const_spec" 15 20
            [leaf "identifier" "name" true 15, leaf "," "name" false 16,
             leaf "identifier" "name" true 17, leaf "type_identifier" "type" true 19]]]
    constantsOf constantNames [file] "T" = ["A", "B"] ∧
      ∃ t ∈ (ofFiles .go false [file.toFile]).types,
        t.name = "T" ∧ t.variants = ["A", ",", "B"] ∧ ¬ IsEnumeratedBy constantNames [file] t := by
  intro leaf node file
  have constants : constantsOf constantNames [file] "T" = ["A", "B"] := by decide +kernel
  refine ⟨constants, (ofFiles .go false [file.toFile]).types.head (by decide +kernel),
    List.head_mem _, by decide +kernel, by decide +kernel, fun claimed => ?_⟩
  have name : ((ofFiles .go false [file.toFile]).types.head (by decide +kernel)).name = "T" := by
    decide +kernel
  have seen := claimed.variants (by decide +kernel)
  rw [name, constants] at seen
  exact absurd ((seen.mem_iff ",").1 (by decide +kernel)) (by decide)

end Outline
end Concord
