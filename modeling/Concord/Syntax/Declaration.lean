import Concord.Symbol

/-!
# Concord.Syntax.Declaration

What a reader finds in a file, one after the other, and how this makes the outline of the file.
-/

namespace Concord

/-- One thing that a file declares. -/
inductive Declaration where
  | package (name? : Option String)
  | imported (i : Import)
  | type (t : TypeDecl)
  | function (f : FunctionDecl)
  /-- An interface that is implemented for a type outside its declaration. -/
  | implementation (type interface : String)
  /-- A constant that is declared with a type. -/
  | constant (type name : String)
deriving DecidableEq, Repr

namespace Declaration

/-- The package of a declaration that names one. -/
def package? : Declaration → Option (Option String)
  | package name? => some name?
  | _ => none

/-- The import in a declaration. -/
def import? : Declaration → Option Import
  | imported i => some i
  | _ => none

/-- The type in a declaration. -/
def type? : Declaration → Option TypeDecl
  | type t => some t
  | _ => none

/-- The function in a declaration. -/
def function? : Declaration → Option FunctionDecl
  | function f => some f
  | _ => none

/-- The implemented interface in a declaration, under its type. -/
def implementation? : Declaration → Option (String × String)
  | implementation t i => some (t, i)
  | _ => none

/-- The constant in a declaration, under its type. -/
def constant? : Declaration → Option (String × String)
  | constant t name => some (t, name)
  | _ => none

/-- Names under keys, all of them, in order. -/
def collect (pairs : List (String × String)) : NameTable :=
  pairs.foldl (fun table e => table.update e.1 (· ++ [e.2])) []

end Declaration

/-- The outline of a file with these declarations.  Of several packages the last counts. -/
def FileOutline.ofDeclarations (path : String) (language : Language) (notices : List Notice)
    (ds : List Declaration) : FileOutline :=
  { path, language, notices
    package? := ((ds.filterMap (·.package?)).getLast?).join
    types := ds.filterMap (·.type?)
    functions := ds.filterMap (·.function?)
    imports := ds.filterMap (·.import?)
    implementations := Declaration.collect (ds.filterMap (·.implementation?))
    constants := Declaration.collect (ds.filterMap (·.constant?)) }

end Concord
