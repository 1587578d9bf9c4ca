import Concord.Language
import Concord.NameTable

/-!
# Concord.Symbol

What source files declare: types with their fields, functions with their parameters, imports.  A
`FileOutline` holds the declarations of one file, an `Outline` those of a whole project.
-/

namespace Concord

/-- A span of lines in a file.  Lines count from one, and line zero stands for the whole file; other
integers are kept as they are given. -/
structure Location where
  file : String
  first : Int := 0
  last : Int := 0
deriving DecidableEq, Repr

/-- A location as text: the file, with the first line if there is one. -/
def Location.text (l : Location) : String :=
  if l.first = 0 then l.file else l.file ++ ":" ++ toString l.first

/-- A field of a type. -/
structure Field where
  name : String
  type : String := ""
  isOptional : Bool := false
  default? : Option String := none
  isPointer : Bool := false
  isArray : Bool := false
  isMap : Bool := false
  doc? : Option String := none
deriving DecidableEq, Repr

/-- A parameter of a function. -/
structure Parameter where
  name : String
  type : String := ""
  isOptional : Bool := false
  isVariadic : Bool := false
  default? : Option String := none
deriving DecidableEq, Repr

/-- The kinds of declared types. -/
inductive TypeKind where
  | struct
  | interface
  | enum
  | synonym
  | classType
deriving DecidableEq, Repr

namespace TypeKind

/-- All kinds. -/
def all : List TypeKind := [struct, interface, enum, synonym, classType]

/-- The word for a kind. -/
def word : TypeKind → String
  | struct => "struct"
  | interface => "interface"
  | enum => "enum"
  | synonym => "alias"
  | classType => "class"

end TypeKind

/-- A declared type.  Only an enumeration has variants, and only an alias names another type. -/
structure TypeDecl where
  name : String
  kind : TypeKind
  fields : List Field := []
  methods : List String := []
  variants : List String := []
  aliasOf? : Option String := none
  generics : List String := []
  implements : List String := []
  isExported : Bool := true
  location? : Option Location := none
  doc? : Option String := none
  digest? : Option String := none
deriving DecidableEq, Repr

/-- A declared function.  A method names the type that it belongs to. -/
structure FunctionDecl where
  name : String
  parameters : List Parameter := []
  returns : List String := []
  isAsync : Bool := false
  isExported : Bool := true
  signature : String := ""
  calls : List String := []
  complexity : Int := 1
  doc? : Option String := none
  location? : Option Location := none
  digest? : Option String := none
  receiver? : Option String := none
deriving DecidableEq, Repr

/-- Whether a function belongs to a type. -/
def FunctionDecl.isMethod (f : FunctionDecl) : Bool := f.receiver?.isSome

/-- An import of a module, a package or a path. -/
structure Import where
  path : String
  alias? : Option String := none
  names : List String := []
deriving DecidableEq, Repr

/-- Something in a file that could not be read. -/
structure Notice where
  file : String
  message : String
  severity : String := "warning"
  line : Int := 0
deriving DecidableEq, Repr

/-- The declarations of one file.  `implementations` holds interfaces that are implemented outside
the declaration of a type, `constants` the constants that are declared with a type. -/
structure FileOutline where
  path : String
  language : Language
  package? : Option String := none
  types : List TypeDecl := []
  functions : List FunctionDecl := []
  imports : List Import := []
  notices : List Notice := []
  implementations : NameTable := []
  constants : NameTable := []
deriving DecidableEq, Repr

/-- What a project depends on. -/
structure Dependency where
  path : String
  isStandard : Bool := false
  isLocal : Bool := false
deriving DecidableEq, Repr

end Concord
