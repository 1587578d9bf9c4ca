import Concord.Folder.Collect

/-!
# Concord.Folder.Detect

The language of a project: the one with the most source files, of several the first in the order of
languages.  Hidden folders and folders of tools and dependencies do not count.
-/

namespace Concord.Folder

/-- Names of folders that do not count. -/
def uncountedNames : List String :=
  ["node_modules", "vendor", "target", "bin", "obj", "build", "dist", "__pycache__"]

/-- Whether a file with this path below the root counts. -/
def counts (path : List String) : Bool :=
  !path.dropLast.any fun name => isHidden name || uncountedNames.contains name

/-- The number of source files of a language in a folder and below it. -/
def countOf (language : Language) (f : Folder) : Nat :=
  f.files.countP fun file =>
    counts file.path && Language.ofPath? (file.path.getLastD "") == some language

/-- The first of the languages with the highest count, if that is not zero. -/
def mostFrequent? (count : Language → Nat) : Option Language :=
  (Language.all.find? fun l => Language.all.all fun other => count other ≤ count l).filter
    (0 < count ·)

/-- The language of the project at a path. -/
def detect (f : Folder) (root : String) : Except Failure Language :=
  let found? := (f.project? root).bind fun project => mostFrequent? (countOf · project.2)
  match found? with
  | some language => .ok language
  | none => .error (.undetectedLanguage (Path.normalize root))

end Concord.Folder
