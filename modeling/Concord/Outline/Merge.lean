import Concord.Outline.Basic
import Concord.Outline.Dependencies
import Concord.Outline.Graph

/-!
# Concord.Outline.Merge

The outline of a project from the outlines of its files.  Of several types with one name the first
declaration counts; functions and notices are all kept.  What files say about types declared
elsewhere is then added to these: constants make an alias an enumeration, methods join their
receiver, and implemented interfaces join the type that implements them.
-/

namespace Concord.Outline

/-- The first declaration of each type name. -/
def firstDeclarations (types : List TypeDecl) : List TypeDecl :=
  types.foldl (fun kept t => if kept.any (·.name == t.name) then kept else kept ++ [t]) []

/-- An alias with constants of its own is an enumeration with these as variants. -/
def withConstants (constants : NameTable) (t : TypeDecl) : TypeDecl :=
  match t.kind, constants.lookup t.name with
  | .synonym, some names =>
    { t with kind := .enum, aliasOf? := none, variants := addNames t.variants names }
  | _, _ => t

/-- Adds a method name that is not there yet. -/
def addMethod (methods : List String) (name : String) : List String :=
  if methods.contains name then methods else methods ++ [name]

/-- A type with the functions that name it as their receiver among its methods. -/
def withMethods (functions : List FunctionDecl) (t : TypeDecl) : TypeDecl :=
  let own := functions.filter (·.receiver? == some t.name)
  { t with methods := (own.map (·.name)).foldl addMethod t.methods }

/-- A type with the interfaces that are implemented for it elsewhere. -/
def withImplementations (implementations : NameTable) (t : TypeDecl) : TypeDecl :=
  { t with implements := addNames t.implements (implementations.names t.name) }

/-- All entries of the tables of some files. -/
def gather (table : FileOutline → NameTable) (files : List FileOutline) : NameTable :=
  files.foldl (fun all f => all.append (table f)) []

/-- The types of a project. -/
def mergedTypes (files : List FileOutline) : List TypeDecl :=
  let constants := gather (·.constants) files
  let implementations := gather (·.implementations) files
  let functions := files.flatMap (·.functions)
  (firstDeclarations (files.flatMap (·.types))).map fun t =>
    withImplementations implementations (withMethods functions (withConstants constants t))

/-- The outline of the project that consists of these files. -/
def merge (language : Language) (files : List FileOutline)
    (name : Document.Value := .text "") (root : String := "") (localPrefixes : List String := []) :
    Outline :=
  let types := mergedTypes files
  let functions := files.flatMap (·.functions)
  { language, name, root
    files := files.map (·.path)
    types, functions
    calls := callGraph functions
    implements := typeGraph (language == .go) types
    dependencies := dependenciesOf language localPrefixes files
    notices := files.flatMap (·.notices) }

end Concord.Outline
