/-!
# Concord.Syntax.Term

Abstract syntax trees.  A node has a kind, the lines of a statement, the text of an expression, and
parts; a part knows its role in the node above, and the parts in one role are in order.  `walk`
lists the nodes of a tree level by level.
-/

namespace Concord

/-- The value of a literal, as far as it matters to a declaration. -/
inductive Literal where
  | text (s : String)
  | ellipsis
  | other
deriving DecidableEq, Repr

/-- A part of an abstract syntax tree: a node, a literal, or what else a node may hold in a role. -/
inductive Term where
  | node (role kind : String) (first last : Nat) (text : String) (parts : List Term)
  | literal (role text : String) (value : Literal)
  | word (role word : String)
  | number (role : String) (n : Int)
  | absent (role : String)
deriving Inhabited

namespace Term

/-- The role of a part in the node above. -/
def role : Term → String
  | node role .. => role
  | literal role .. => role
  | word role _ => role
  | number role _ => role
  | absent role => role

/-- The kind of a node, which is empty for anything else. -/
def kind : Term → String
  | node _ kind .. => kind
  | _ => ""

/-- The text of an expression. -/
def text : Term → String
  | node _ _ _ _ text _ => text
  | literal _ text _ => text
  | _ => ""

/-- The parts of a node. -/
def parts : Term → List Term
  | node _ _ _ _ _ parts => parts
  | _ => []

/-- The first line of a statement. -/
def first : Term → Nat
  | node _ _ first .. => first
  | _ => 0

/-- The last line of a statement. -/
def last : Term → Nat
  | node _ _ first last .. => if last = 0 then first else last
  | _ => 0

/-- Whether a part is a node or a literal. -/
def isNode : Term → Bool
  | node .. => true
  | literal .. => true
  | _ => false

/-- The nodes in a role. -/
def nodesIn (t : Term) (role : String) : List Term :=
  t.parts.filter fun p => p.role == role && p.isNode

/-- The node in a role that holds at most one. -/
def node? (t : Term) (role : String) : Option Term := (t.nodesIn role).head?

/-- What stands in a role whose places may be empty. -/
def placesIn (t : Term) (role : String) : List (Option Term) :=
  (t.parts.filter (·.role == role)).map fun p => if p.isNode then some p else none

/-- The word in a role, if there is one. -/
def word? (t : Term) (role : String) : Option String :=
  t.parts.findSome? fun
    | word r w => if r = role then some w else none
    | _ => none

/-- The number in a role. -/
def number? (t : Term) (role : String) : Option Int :=
  t.parts.findSome? fun
    | number r n => if r = role then some n else none
    | _ => none

/-- The levels of two rows of trees that stand side by side. -/
def beside : List (List Term) → List (List Term) → List (List Term)
  | [], right => right
  | left, [] => left
  | l :: left, r :: right => (l ++ r) :: beside left right

mutual

/-- The nodes of a tree, those of each level in order. -/
def levels : Term → List (List Term)
  | node role kind first last text parts =>
    [node role kind first last text parts] :: levelsAll parts
  | literal role text value => [[literal role text value]]
  | _ => []

/-- The nodes of trees side by side, those of each level in order. -/
def levelsAll : List Term → List (List Term)
  | [] => []
  | t :: ts => beside (levels t) (levelsAll ts)

end

/-- The nodes of a tree, level by level and each level from left to right. -/
def walk (t : Term) : List Term := t.levels.flatten

end Term
end Concord
