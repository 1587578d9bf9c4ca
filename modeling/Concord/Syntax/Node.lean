/-!
# Concord.Syntax.Node

Concrete syntax trees.  A node has a kind, a span of bytes, the name of its role in the node above,
and children; punctuation and keywords are children that are not *named*.  `walk` lists a tree from
the top down and from left to right; it keeps the nodes that are left to visit on a stack.
-/

namespace Concord

/-- A node of a concrete syntax tree.  The role is empty if the node has none. -/
inductive Node where
  | mk (kind : String) (isNamed isMissing : Bool) (start stop : Nat) (role : String)
      (children : List Node)
deriving Inhabited

namespace Node

/-- The kind of a node. -/
def kind : Node → String
  | mk kind .. => kind

/-- Whether the node is more than punctuation or a keyword. -/
def isNamed : Node → Bool
  | mk _ isNamed .. => isNamed

/-- Whether the node stands for something that the text lacks. -/
def isMissing : Node → Bool
  | mk _ _ isMissing .. => isMissing

/-- The offset of the first byte. -/
def start : Node → Nat
  | mk _ _ _ start .. => start

/-- The offset behind the last byte. -/
def stop : Node → Nat
  | mk _ _ _ _ stop .. => stop

/-- The name of the node's role in the node above. -/
def role : Node → String
  | mk _ _ _ _ _ role _ => role

/-- The nodes below. -/
def children : Node → List Node
  | mk _ _ _ _ _ _ children => children

/-- The named nodes below. -/
def named (n : Node) : List Node := n.children.filter (·.isNamed)

/-- The first node below that has the role. -/
def child? (n : Node) (role : String) : Option Node := n.children.find? (·.role == role)

/-- The first node below in one of the roles, which are tried in turn. -/
def childIn? (n : Node) (roles : List String) : Option Node := roles.findSome? n.child?

/-- All nodes below that have the role. -/
def childrenIn (n : Node) (role : String) : List Node := n.children.filter (·.role == role)

/-- The named nodes below of some kinds. -/
def ofKinds (n : Node) (kinds : List String) : List Node :=
  n.named.filter fun c => kinds.contains c.kind

/-- Whether some node below has one of the kinds. -/
def hasKind (n : Node) (kinds : List String) : Bool := n.children.any fun c => kinds.contains c.kind

mutual

/-- The number of nodes in a tree. -/
def size : Node → Nat
  | mk _ _ _ _ _ _ children => totalSize children + 1

/-- The number of nodes in several trees. -/
def totalSize : List Node → Nat
  | [] => 0
  | n :: ns => size n + totalSize ns

end

theorem size_eq (n : Node) : n.size = totalSize n.children + 1 := by
  cases n
  rfl

theorem totalSize_append (ns ms : List Node) :
    totalSize (ns ++ ms) = totalSize ns + totalSize ms := by
  induction ns with
  | nil => simp [totalSize]
  | cons n ns ih => rw [List.cons_append, totalSize, totalSize, ih, Nat.add_assoc]

/-- A stack, its top first, with nodes pushed onto it one after the other. -/
def pushAll (stack nodes : List Node) : List Node := nodes.foldl (fun stack n => n :: stack) stack

/-- Pushed from the last to the first, nodes stand on the stack in order. -/
theorem pushAll_reverse (stack nodes : List Node) :
    pushAll stack nodes.reverse = nodes ++ stack := by
  rw [pushAll, List.foldl_reverse]
  induction nodes with
  | nil => rfl
  | cons n ns ih => rw [List.foldr_cons, ih, List.cons_append]

-- The recursion is on the number of nodes left to visit.  It may be unfolded all the same, so that
-- the walk through a given tree is evaluated by `rfl`.
/-- The nodes that are visited from a stack until it is empty: the top is taken off and visited, and
the nodes below it are pushed, the last of them first. -/
@[semireducible] def visit : List Node → List Node
  | [] => []
  | n :: stack => n :: visit (pushAll stack n.children.reverse)
termination_by stack => totalSize stack
decreasing_by
  rw [pushAll_reverse, totalSize_append, totalSize, size_eq]
  omega

/-- The node and all below it, a node before those below it and these from left to right. -/
def walk (n : Node) : List Node := visit [n]

mutual

/-- The named nodes below that are reached through named nodes only, from the top down and from
left to right; nothing below a node of the kinds `found` is listed, and nothing at or below one of
the kinds `barred`. -/
def namedBelow (found barred : List String) : Node → List Node
  | mk _ _ _ _ _ _ children => namedAmong found barred children

/-- The same for several trees whose tops count. -/
def namedAmong (found barred : List String) : List Node → List Node
  | [] => []
  | n :: ns =>
    (if !n.isNamed || barred.contains n.kind then []
      else if found.contains n.kind then [n]
      else n :: namedBelow found barred n) ++ namedAmong found barred ns

end

mutual

/-- The named nodes below, with those below it in the place of a node of the kind. -/
def flattened (kind : String) : Node → List Node
  | mk _ _ _ _ _ _ children => flattenedAll kind children

/-- The same for nodes in a row. -/
def flattenedAll (kind : String) : List Node → List Node
  | [] => []
  | n :: ns =>
    (if !n.isNamed then [] else if n.kind = kind then flattened kind n else [n]) ++
      flattenedAll kind ns

end

end Node

/-- A concrete syntax tree, with what its parser tells beside the nodes. -/
structure Tree where
  root : Node
  /-- Whether some place in the text could not be parsed. -/
  hasError : Bool
  /-- The row on which an offset lies; rows count from zero. -/
  row : Nat → Nat

/-- A node with its siblings in front of it, the nearest first. -/
structure Site where
  node : Node
  before : List Node

/-- Nodes in a row, behind the siblings `before`. -/
def sitesAfter (before : List Node) : List Node → List Site
  | [] => []
  | n :: ns => ⟨n, before⟩ :: sitesAfter (n :: before) ns

/-- The named nodes below, each with its siblings in front of it. -/
def Node.sites (n : Node) : List Site := (sitesAfter [] n.children).filter (·.node.isNamed)

/-- The named nodes below of some kinds, each with its siblings in front of it. -/
def Node.sitesOf (n : Node) (kinds : List String) : List Site :=
  n.sites.filter fun s => kinds.contains s.node.kind

end Concord
