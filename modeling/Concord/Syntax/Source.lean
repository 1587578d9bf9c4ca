import Concord.NameTable
import Concord.Symbol
import Concord.Syntax.Callee
import Concord.Syntax.Node
import Concord.Text.Comment
import Concord.Text.Digest
import Concord.Text.Utf8
import Concord.Text.Word

/-!
# Concord.Syntax.Source

The text of a source file, and what its syntax tree says about it: the texts and lines of nodes,
digests of declarations, documentation in front of them, the names called in a body and how much it
branches.
-/

namespace Concord

open Text

/-- The digest of the lines from `first` to `last`, which count from one, without the white space
around them and without blank lines.  There is none for a file without lines or for an empty span;
a last line below zero counts from the end. -/
def digestLines (lines : List (List Char)) (first last : Int) : String :=
  if lines.isEmpty || last < first then ""
  else
    let stop := if last < 0 then (lines.length + last).toNat else last.toNat
    let span := (lines.take stop).drop (first - 1).toNat
    Digest.md5 (Utf8.encode (['\n'].intercalate ((span.map trim).filter (· ≠ []))))

/-- The bytes of a file, its lines as they are read for digests, and the rows on which the parser of
a concrete tree puts offsets. -/
structure Source where
  path : String
  bytes : List UInt8
  lines : List (List Char)
  row : Nat → Nat := fun _ => 0

namespace Source

/-- The source of a tree over these bytes. -/
def ofTree (path : String) (bytes : List UInt8) (tree : Tree) : Source :=
  ⟨path, bytes, Text.lines (Utf8.decodeLossy bytes), tree.row⟩

/-- The text between two offsets. -/
def slice (s : Source) (start stop : Nat) : List Char :=
  Utf8.decodeLossy ((s.bytes.take stop).drop start)

/-- The text of a node. -/
def chars (s : Source) (n : Node) : List Char := s.slice n.start n.stop

/-- The text of a node that may not be there. -/
def chars? (s : Source) (n : Option Node) : List Char := (n.map s.chars).getD []

/-- The text of a node. -/
def text (s : Source) (n : Node) : String := String.ofList (s.chars n)

/-- The text of a node that may not be there, in which case it is empty. -/
def text? (s : Source) (n : Option Node) : String := String.ofList (s.chars? n)

/-- The line on which a node begins. -/
def firstLine (s : Source) (n : Node) : Nat := s.row n.start + 1

/-- The line on which a node ends. -/
def lastLine (s : Source) (n : Node) : Nat := s.row n.stop + 1

/-- Where a node stands. -/
def location (s : Source) (n : Node) : Location :=
  ⟨s.path, s.firstLine n, s.lastLine n⟩

/-- The digest of the lines of a node. -/
def digest (s : Source) (n : Node) : String := digestLines s.lines (s.firstLine n) (s.lastLine n)

/-- The text of a declaration up to its body, in one line. -/
def header (s : Source) (n : Node) (body? : Option Node) : String :=
  let stop := (body?.map (·.start)).getD n.stop
  let line := [' '].intercalate (fields (s.slice n.start stop))
  String.ofList (trim (trimEndBy (fun c => c = '\x7b' || c = ';' || c = ' ') line))

/-! ## Documentation -/

/-- The comments directly above row `row` among the nodes `before`, the nearest first: each ends on
the row above the next, or later, and begins with one of the marks. -/
def commentsAbove (s : Source) (kinds marks : List String) (row : Nat) : List Node → List (List Char)
  | [] => []
  | n :: before =>
    let text := s.chars n
    if !kinds.contains n.kind || s.row n.stop + 1 < row || !marks.any (begins · text) then []
    else text :: s.commentsAbove kinds marks (s.row n.start) before

/-- The text of the comments directly above a node, if there is any. -/
def docAbove (s : Source) (kinds marks : List String) (site : Site) : Option String :=
  let comments := s.commentsAbove kinds marks (s.row site.node.start) site.before
  let text := cleanComment (['\n'].intercalate comments.reverse)
  if text.isEmpty then none else some (String.ofList text)

/-- The site of the first of the nodes of a kind that stand directly in front. -/
def skipBack (kind : String) (site : Site) : Site :=
  go site.node site.before
where
  /-- Goes back as long as the node in front has the kind. -/
  go (node : Node) : List Node → Site
    | [] => ⟨node, []⟩
    | n :: before => if n.kind = kind then go n before else ⟨node, n :: before⟩

/-! ## Bodies -/

/-- The names called in a body, each once, in the order in which they first occur. -/
def calls (s : Source) (kinds roles : List String) (body? : Option Node) : List String :=
  let nodes := (body?.map Node.walk).getD []
  let names := nodes.filterMap fun n =>
    if kinds.contains n.kind then (n.childIn? roles).map fun c => Syntax.calleeName (s.chars c)
    else none
  addNames [] ((names.filter isIdentifier).map String.ofList)

/-- Whether a node is a branch: one of the kinds, or else a binary expression with one of the
operators. -/
def isBranch (kinds operators : List String) (n : Node) : Bool :=
  kinds.contains n.kind || (n.kind = "binary_expression" && n.hasKind operators)

/-- One more than the number of branches in a body. -/
def complexity (kinds operators : List String) (body? : Option Node) : Nat :=
  1 + ((body?.map Node.walk).getD []).countP (isBranch kinds operators)

/-! ## Errors -/

/-- Whether a node marks a place that could not be parsed. -/
def isError (n : Node) : Bool := n.kind = "ERROR" || n.isMissing

/-- A notice about a place that could not be parsed. -/
def errorNotice (s : Source) (n : Node) : Notice :=
  { file := s.path
    message := "syntax error near line " ++ toString (s.firstLine n)
    line := s.firstLine n }

/-- A notice about the first place in a tree that could not be parsed; the tree is not searched if
its parser tells of none. -/
def syntaxNotices (s : Source) (tree : Tree) : List Notice :=
  if tree.hasError then ((tree.root.walk.find? isError).map s.errorNotice).toList else []

end Source
end Concord
