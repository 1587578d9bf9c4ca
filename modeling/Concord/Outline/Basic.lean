import Concord.Document.Value
import Concord.Symbol

/-!
# Concord.Outline.Basic

The outline of a project in one language: all its types and functions, which functions call which
names, which types implement which, and what the project depends on.
-/

namespace Concord

/-- The declarations of a project.  The name is whatever value the manifest of the project gives
it. -/
structure Outline where
  language : Language
  name : Document.Value := .text ""
  root : String := ""
  /-- The paths of the files that were read. -/
  files : List String := []
  types : List TypeDecl := []
  functions : List FunctionDecl := []
  /-- The names that are called in the functions of each name. -/
  calls : NameTable := []
  /-- The types that each type implements or extends. -/
  implements : NameTable := []
  dependencies : List Dependency := []
  notices : List Notice := []

namespace Outline

/-- The first type with this name. -/
def type? (o : Outline) (name : String) : Option TypeDecl := o.types.find? (·.name == name)

/-- The first function with this name. -/
def function? (o : Outline) (name : String) : Option FunctionDecl :=
  o.functions.find? (·.name == name)

/-- Whether the project declares nothing. -/
def isEmpty (o : Outline) : Bool := o.types.isEmpty && o.functions.isEmpty

end Outline
end Concord
