import Concord.Folder.Basic

/-!
# Concord.Proofs.Syntax.Tree

Trees whose parser tells what its documentation says beside the nodes.  The readers take any parser
at its word; these are the trees on which theorems about all trees are tried.
-/

namespace Concord

/-- A tree over some bytes whose parser tells of an error exactly if a node marks one, and counts
line feeds for rows. -/
def Tree.onText (bytes : List UInt8) (root : Node) : Tree where
  root
  hasError := root.walk.any Source.isError
  row offset := (bytes.take offset).count 10

/-- A text with such a tree over it, as the content of a file. -/
def Content.onText (text : String) (root : Node) : Content where
  bytes := text.toUTF8.toList
  parsed := .concrete (.onText text.toUTF8.toList root)

/-- A text with such a tree over it, as a file. -/
def SourceFile.onText (path text : String) (root : Node) : SourceFile :=
  ⟨path, (Content.onText text root).bytes, (Content.onText text root).parsed⟩

end Concord
