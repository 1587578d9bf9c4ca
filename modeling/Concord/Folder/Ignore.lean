import Concord.Failure
import Concord.Folder.Basic
import Concord.Text.Glob
import Concord.Text.Line

/-!
# Concord.Folder.Ignore

Files that a project leaves out.  A file `.gitignore` holds a pattern on each line; its patterns are
about the paths below its folder.

* A pattern with a slash at its start or inside stands for a whole path or for its beginning.
* Any other pattern stands for one name on the path.
* A slash at the end of a pattern restricts it to folders.

What is ignored is judged for the root of an analysis: names at or above the root never decide.
-/

namespace Concord

open Text

/-- A pattern taken apart. -/
structure IgnorePattern where
  glob : List Char
  /-- Whether the pattern stands for a path from its folder on, and not for one name. -/
  isPath : Bool
  onlyFolders : Bool
deriving DecidableEq, Repr

/-- A pattern with the folder of the file that holds it. -/
structure IgnoreRule where
  pattern : String
  folder : List String
deriving DecidableEq, Repr

namespace IgnorePattern

/-- A pattern taken apart.  Backslashes count as slashes; nothing is left of a pattern that has
nothing else. -/
def ofText? (s : List Char) : Option IgnorePattern :=
  let s := (trim s).map fun c => if c = '\\' then '/' else c
  let body := s.dropWhile (· = '/')
  let glob := trimEndBy (· = '/') body
  if glob.isEmpty then none
  else some ⟨glob, s.head? = some '/' || glob.contains '/', body.getLast? = some '/'⟩

/-- Whether a pattern stands for a path below its folder of which the first `above` names lead to
the root.  `accepts` tells whether a pattern stands for a text. -/
def covers (accepts : List Char → List Char → Bool) (p : IgnorePattern) (above : Nat)
    (path : List String) : Bool :=
  let names := if p.onlyFolders then path.dropLast else path
  if p.isPath then
    (List.range names.length).any fun i =>
      above ≤ i && accepts p.glob (Path.join (names.take (i + 1))).toList
  else (names.drop above).any fun name => accepts p.glob name.toList

end IgnorePattern

namespace IgnoreRule

/-- The number of names from the folder of a rule to the root of an analysis below it. -/
def namesAbove (folder : List String) (root? : Option (List String)) : Nat :=
  ((root?.bind (Path.below? folder)).map List.length).getD 0

/-- Whether a rule ignores the file at `path` in an analysis with this root.  `accepts` tells
whether a pattern stands for a text. -/
def ignoresBy (accepts : List Char → List Char → Bool) (rule : IgnoreRule)
    (root? : Option (List String)) (path : List String) : Bool :=
  match IgnorePattern.ofText? rule.pattern.toList, Path.below? rule.folder path with
  | some p, some below =>
    p.covers accepts (namesAbove rule.folder root?) (if below.isEmpty then ["."] else below)
  | _, _ => false

/-- Whether a rule ignores the file at `path` in an analysis with this root. -/
def ignores (rule : IgnoreRule) (root? : Option (List String)) (path : List String) : Bool :=
  rule.ignoresBy globAccepts root? path

/-- Whether one of the rules ignores the file at `path` in an analysis with this root. -/
def anyIgnores (rules : List IgnoreRule) (root? : Option (List String)) (path : List String) :
    Bool :=
  rules.any fun rule => rule.ignores root? path

end IgnoreRule

namespace Folder

/-- The patterns in the text of a file.  Blank lines, comments and negated patterns are none. -/
def ignorePatterns (s : List Char) : List String :=
  (((unixLines s).map trim).filter fun line =>
    !line.isEmpty && line.head? ≠ some '#' && line.head? ≠ some '!').map String.ofList

/-- The rules of the file in one folder.  The file has to be well-formed text. -/
def ownIgnoreRules (f : Folder) (path : List String) : Except Failure (List IgnoreRule) :=
  match f.fileAt? (path ++ [".gitignore"]) with
  | none => .ok []
  | some content =>
    match Utf8.decode? content.bytes with
    | some s => .ok ((ignorePatterns s).map fun pattern => ⟨pattern, path⟩)
    | none => .error .malformedText

/-- The folders from the one at a path up to the outermost. -/
def upwards (path : List String) : List (List String) :=
  (List.range (path.length + 1)).map fun i => path.take (path.length - i)

/-- The rules that hold in the folder at a path: its own, then those of the folders above it. -/
def ignoreRules (f : Folder) (path : List String) : Except Failure (List IgnoreRule) := do
  return (← (upwards path).mapM (ownIgnoreRules f)).flatten

end Folder
end Concord
