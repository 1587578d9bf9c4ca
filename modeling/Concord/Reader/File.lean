import Concord.Document.Value
import Concord.Reader.CSharp
import Concord.Reader.Go
import Concord.Reader.Java
import Concord.Reader.Python
import Concord.Reader.Rust
import Concord.Reader.TypeScript

/-!
# Concord.Reader.File

The outline of a file in any language, from its bytes and what a parser made of them.  No file is
ever refused: what could not be parsed is told by a notice.
-/

namespace Concord

/-- What a parser made of a file. -/
inductive Parsed where
  /-- A tree of everything in the text; nodes may mark what could not be parsed. -/
  | concrete (tree : Tree)
  /-- A tree of what the text means. -/
  | abstract (root : Term)
  /-- The text breaks the rules of the language; line zero stands for an unknown line. -/
  | malformed (message : String) (line : Nat)
  /-- The text could not be parsed at all. -/
  | refused (message : String)
  /-- The text is a data document. -/
  | data (document : Document.Value)

/-- A file with its path below the root of its project, and what a parser made of it. -/
structure SourceFile where
  path : String
  bytes : List UInt8
  parsed : Parsed

namespace Reader

/-- The declarations in a concrete tree.  Python is read from abstract ones. -/
def declarations : Language → Source → Node → List Declaration
  | .go => Go.read
  | .rust => Rust.read
  | .java => Java.read
  | .csharp => CSharp.read
  | .typescript => TypeScript.read
  | .python => fun _ _ => []

/-- The outline of a file. -/
def read (language : Language) (path : String) (bytes : List UInt8) : Parsed → FileOutline
  | .concrete tree =>
    let s := Source.ofTree path bytes tree
    .ofDeclarations path language (s.syntaxNotices tree) (declarations language s tree.root)
  | .abstract root =>
    .ofDeclarations path language [] (Python.read (Python.source path bytes) root)
  | .malformed message line =>
    { path, language
      notices := [{ file := path, message := "syntax error: " ++ message, line }] }
  | .refused message => { path, language, notices := [{ file := path, message }] }
  | .data _ => { path, language }

/-- The warning about a file that could not be parsed at all. -/
def warning? (path : String) : Parsed → Option String
  | .refused message => some ("   Warning: Error processing " ++ path ++ ": " ++ message)
  | _ => none

end Reader
end Concord
