import Concord.Folder.Detect
import Concord.Folder.Manifest
import Concord.Outline.Files

/-!
# Concord.Folder.Analyze

The outline of the project in a folder.
-/

namespace Concord.Folder

/-- How a project is read. -/
structure ReadOptions extends CollectOptions where
  includesTests : Bool

/-- The beginnings of import paths that lead to the project itself. -/
def localPrefixes (language : Language) (project : Folder) : List String :=
  match language with
  | .go => ((goModule? project).filter (!·.isEmpty)).toList
  | _ => []

/-- The outline of the project at a path, with the warnings on the way.  The language is detected
where none is given, and the name is looked up where none is given. -/
def analyze (options : ReadOptions) (f : Folder) (root : String) (language? : Option String)
    (name? : Option String) : Except Failure (Outline × List String) :=
  match f.project? root with
  | none => .error (.unreadableRoot (Path.normalize root) "directory does not exist")
  | some (_, project) => do
    let language ← match language? with
      | some tag => Language.resolve tag
      | none => f.detect root
    let (name, nameWarnings) := match name?.filter (!·.isEmpty) with
      | some name => (.text name, [])
      | none => f.projectName root (some language)
    let files ← f.collect options.toCollectOptions (some language.tag) root
    return (Outline.ofFiles language options.includesTests files name (Path.normalize root)
        (localPrefixes language project),
      nameWarnings ++ Outline.warnings language options.includesTests files)

end Concord.Folder
