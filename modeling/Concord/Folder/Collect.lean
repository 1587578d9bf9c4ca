import Concord.Folder.Ignore
import Concord.Language.Files

/-!
# Concord.Folder.Collect

The files of a project.  Hidden folders, folders with one of the ignored names and folders whose
content a rule ignores are not entered; files that a rule ignores are left out, and so are files in
another language if a language is given.
-/

namespace Concord.Folder

/-- How files are collected. -/
structure CollectOptions where
  /-- Names of folders that are not entered. -/
  ignoredNames : List String
  /-- Whether the rules of `.gitignore` files hold. -/
  respectsRules : Bool

/-- Whether an entry is hidden. -/
def isHidden (name : String) : Bool := Text.begins "." name.toList

/-- Whether the folder at a path below the root is not entered: it is hidden, has an ignored name,
or a rule ignores what it holds. -/
def isClosed (ignoredNames : List String) (rules : List IgnoreRule) (root path : List String) :
    Bool :=
  let name := path.getLastD ""
  isHidden name || ignoredNames.contains name ||
    IgnoreRule.anyIgnores rules (some root) (root ++ path ++ ["_"])

/-- The files below the root that are collected, with their paths below it. -/
def collectBy (ignoredNames : List String) (rules : List IgnoreRule) (language? : Option Language)
    (root : List String) (f : Folder) : List Found :=
  (walk (isClosed ignoredNames rules root) [] f).filter fun file =>
    language?.all (·.isSource (Path.join file.path)) &&
      !IgnoreRule.anyIgnores rules (some root) (root ++ file.path)

/-- The files of the project at a path, with their paths below it.  If the tag of a language is
given, only files in that language count. -/
def collect (f : Folder) (options : CollectOptions) (tag? : Option String) (root : String) :
    Except Failure (List SourceFile) :=
  match f.project? root with
  | none => .error (.unreadableRoot (Path.normalize root) "not a readable directory")
  | some (place, project) => do
    let language? ← tag?.mapM Language.resolve
    let rules ← if options.respectsRules then f.ignoreRules place else pure []
    return (collectBy options.ignoredNames rules language? place project).map fun file =>
      ⟨Path.join file.path, file.content.bytes, file.content.parsed⟩

end Concord.Folder
