import Concord.Language.Files
import Concord.Outline.Merge
import Concord.Reader.File

/-!
# Concord.Outline.Files

The outline of a project from its source files.  Files are read in the order of their paths,
whatever order they come in.
-/

namespace Concord

namespace Outline

/-- Whether a file belongs to the outline of a project in a language. -/
def isEligible (language : Language) (includeTests : Bool) (path : String) : Bool :=
  language.isSource path && (includeTests || !language.isTest path)

/-- The files that belong to the outline of a project, by path. -/
def eligible (language : Language) (includeTests : Bool) (files : List SourceFile) :
    List SourceFile :=
  (files.mergeSort fun a b => a.path ≤ b.path).filter fun f =>
    isEligible language includeTests f.path

/-- The outline of the project that consists of these files. -/
def ofFiles (language : Language) (includeTests : Bool) (files : List SourceFile)
    (name : Document.Value := .text "") (root : String := "") (localPrefixes : List String := []) :
    Outline :=
  merge language
    ((eligible language includeTests files).map fun f => Reader.read language f.path f.bytes f.parsed)
    name root localPrefixes

/-- The warnings about files that could not be parsed at all. -/
def warnings (language : Language) (includeTests : Bool) (files : List SourceFile) : List String :=
  (eligible language includeTests files).filterMap fun f => Reader.warning? f.path f.parsed

end Outline
end Concord
