import Mathlib.Data.List.Forall2
import Concord.Proofs.Reader.Declared
import Concord.Proofs.Syntax.Tree

/-!
# Concord.Proofs.Reader.Go

What a Go file declares, told by its syntax tree alone: the specifications of its types (`typeSpecs`)
and its blocks of constants (`constantBlocks`), both at the top level and in the order of the text.

* `types_read` — the types of a file are read from the specifications, one from each;
* `constants_read` — its constants are those of the blocks, one block behind the other;
* `typedConstants_eq` — in a block a constant belongs to the type in force where it stands
  (`typeInForce?`), which is a matter of the specifications in front of it.
-/

namespace Concord

/-! ## Nodes with their siblings -/

/-- Nodes with what stands in front of them are the nodes. -/
theorem map_node_sitesAfter (before nodes : List Node) :
    (sitesAfter before nodes).map (·.node) = nodes := by
  induction nodes generalizing before with
  | nil => rfl
  | cons n ns ih => rw [sitesAfter, List.map_cons, ih]

/-- The named sites of a node are its named children. -/
theorem Node.map_node_sites (n : Node) : n.sites.map (·.node) = n.named := by
  have all : (sitesAfter [] n.children).map (·.node) = n.children := map_node_sitesAfter [] _
  rw [Node.named, ← all, List.filter_map]
  rfl

theorem Node.map_node_sitesOf (n : Node) (kinds : List String) :
    (n.sitesOf kinds).map (·.node) = n.ofKinds kinds := by
  rw [Node.ofKinds, ← n.map_node_sites, List.filter_map]
  rfl

/-! ## Files -/

/-- A file with its concrete syntax tree. -/
structure ConcreteFile where
  path : String
  bytes : List UInt8
  tree : Tree

namespace ConcreteFile

/-- The text of the file. -/
def source (f : ConcreteFile) : Source := .ofTree f.path f.bytes f.tree

/-- The top of its tree. -/
def root (f : ConcreteFile) : Node := f.tree.root

/-- The file as it is read. -/
def toFile (f : ConcreteFile) : SourceFile := ⟨f.path, f.bytes, .concrete f.tree⟩

/-- The outline of the file in Go. -/
def goOutline (f : ConcreteFile) : FileOutline := Reader.read .go f.path f.bytes (.concrete f.tree)

/-- A file with a text, and a tree over it whose parser tells what it is documented to tell. -/
def onText (path text : String) (root : Node) : ConcreteFile :=
  { path, bytes := text.toUTF8.toList, tree := .onText text.toUTF8.toList root }

end ConcreteFile

namespace Reader.Go

/-! ## Declarations at the top level -/

/-- The nodes at the top level of a kind. -/
def topLevel (kind : String) (root : Node) : List Node := root.named.filter (·.kind == kind)

/-- The specifications of types in a file. -/
def typeSpecs (root : Node) : List Node :=
  (topLevel "type_declaration" root).flatMap (·.ofKinds ["type_spec", "type_alias"])

/-- The blocks of constants in a file, each with its specifications. -/
def constantBlocks (root : Node) : List (List Node) :=
  (topLevel "const_declaration" root).map (·.ofKinds ["const_spec"])

variable (s : Source)

/-- Whether a type is read from a specification. -/
def IsReadFrom (spec : Node) (t : TypeDecl) : Prop := ∃ anchor, t = readType s anchor spec

/-- Only declarations of types declare types. -/
theorem filterMap_type?_readTop (site : Site) :
    (readTop s site).filterMap (·.type?) =
      if site.node.kind == "type_declaration" then (readTypes s site).filterMap (·.type?)
      else [] := by
  by_cases h : site.node.kind = "type_declaration"
  · simp [readTop, h]
  · rw [readTop]
    dsimp only
    split <;> simp_all [Declaration.type?, readImports, List.filterMap_map]

/-- Only declarations of constants declare constants. -/
theorem filterMap_constant?_readTop (site : Site) :
    (readTop s site).filterMap (·.constant?) =
      if site.node.kind == "const_declaration" then
        typedConstants s none (site.node.ofKinds ["const_spec"])
      else [] := by
  by_cases h : site.node.kind = "const_declaration"
  · simp [readTop, h, Declaration.constant?, List.filterMap_map]
  · rw [readTop]
    dsimp only
    split <;> simp_all [Declaration.constant?, readImports, readTypes, List.filterMap_map]

/-- What stands at the top level, by kind. -/
theorem flatMap_topLevel {β : Type} (kind : String) (root : Node) (make : Node → List β) :
    (topLevel kind root).flatMap make =
      root.sites.flatMap fun site => if site.node.kind == kind then make site.node else [] := by
  rw [topLevel, ← root.map_node_sites, List.filter_map, List.flatMap_map]
  induction root.sites with
  | nil => rfl
  | cons site sites ih =>
    rw [List.filter_cons, List.flatMap_cons, ← ih]
    by_cases h : site.node.kind = kind <;> simp [h]

/-- From each specification of a declaration one type is read. -/
theorem types_readTypes (site : Site) :
    List.Forall₂ (IsReadFrom s) (site.node.ofKinds ["type_spec", "type_alias"])
      ((readTypes s site).filterMap (·.type?)) := by
  -- a lone specification is documented above the declaration, which the relation leaves open
  have types : (readTypes s site).filterMap (·.type?) =
      (site.node.sitesOf ["type_spec", "type_alias"]).map fun spec =>
        readType s (if (site.node.sitesOf ["type_spec", "type_alias"]).length = 1 then site
          else spec) spec.node := by
    simp [readTypes, List.filterMap_map, Declaration.type?]
  rw [types, ← site.node.map_node_sitesOf, List.forall₂_map_left_iff, List.forall₂_map_right_iff]
  exact List.forall₂_same.2 fun spec _ => ⟨_, rfl⟩

/-- **The types of a file are read from its specifications, one from each.** -/
theorem types_read (root : Node) :
    List.Forall₂ (IsReadFrom s) (typeSpecs root) ((read s root).filterMap (·.type?)) := by
  have types : (read s root).filterMap (·.type?) =
      root.sites.flatMap fun site =>
        if site.node.kind == "type_declaration" then (readTypes s site).filterMap (·.type?)
        else [] := by
    simp only [read, List.filterMap_flatMap, filterMap_type?_readTop]
  rw [types, typeSpecs, flatMap_topLevel]
  refine List.rel_flatMap (R := Eq) (List.forall₂_refl root.sites) ?_
  rintro site _ rfl
  dsimp only
  split
  · exact types_readTypes s site
  · exact .nil

/-- **The constants of a file are those of its blocks.** -/
theorem constants_read (root : Node) :
    (read s root).filterMap (·.constant?) =
      (constantBlocks root).flatMap (typedConstants s none) := by
  rw [constantBlocks, List.flatMap_map, flatMap_topLevel]
  simp only [read, List.filterMap_flatMap, filterMap_constant?_readTop]

/-! ## Constants of a block -/

/-- The type in force at the first of some specifications of constants, behind the others, the
nearest first: its own; none where it has only a value; and where it has neither, the one in force
at the specification in front. -/
def typeInForce? : List Node → Option String
  | [] => none
  | spec :: before =>
    match spec.child? "type", spec.child? "value" with
    | some type, _ => some (s.text type)
    | none, some _ => none
    | none, none => typeInForce? before

/-- What stands in the role of a name in a specification of constants, `_` apart. -/
def labels (spec : Node) : List String := ((spec.childrenIn "name").map s.text).filter (· ≠ "_")

theorem governingType?_eq (before : List Node) (spec : Node) :
    governingType? s (typeInForce? s before) spec = typeInForce? s (spec :: before) := by
  rw [governingType?, typeInForce?]
  cases spec.child? "type" <;> cases spec.child? "value" <;> rfl

/-- **Each label of a block belongs to the type in force where it stands.** -/
theorem typedConstants_eq (before specs : List Node) :
    typedConstants s (typeInForce? s before) specs =
      (sitesAfter before specs).flatMap fun site =>
        match typeInForce? s (site.node :: site.before) with
        | none => []
        | some type => (labels s site.node).map fun label => (type, label) := by
  induction specs generalizing before with
  | nil => rfl
  | cons spec specs ih =>
    rw [typedConstants, sitesAfter, List.flatMap_cons, governingType?_eq, ih (spec :: before)]
    rfl

end Reader.Go
end Concord
