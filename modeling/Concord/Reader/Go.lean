import Concord.Syntax.Declaration
import Concord.Syntax.Source
import Concord.Text.Case

/-!
# Concord.Reader.Go

Declarations of Go files.  Types, functions and constants are read at the top level only.  In a
block of constants a constant without a type and a value repeats the type of the one before it; the
constants of a type make it an enumeration once the files of a project are merged.
-/

namespace Concord.Reader.Go

open Text

/-- The kinds of nodes that branch. -/
def branches : List String :=
  ["if_statement", "for_statement", "expression_case", "type_case", "communication_case"]

/-- The operators that branch. -/
def operators : List String := ["&&", "||"]

/-- The marks of documentation. -/
def docMarks : List String := ["//", "/*"]

/-- Names that begin with a capital are exported. -/
def isExported (name : String) : Bool := name.toList.head?.any isUpper

/-- A text that is empty where there is none. -/
def nonEmpty? (s : String) : Option String := if s.isEmpty then none else some s

/-- The text without quotes at its ends. -/
def unquote (s : List Char) : String :=
  String.ofList (trimBy (fun c => c = '"' || c = '\x60') s)

/-- The imports of an import declaration. -/
def readImports (s : Source) (n : Node) : List Declaration :=
  ((n.namedBelow [] []).filter (·.kind == "import_spec")).map fun spec =>
    .imported
      { path := unquote (s.chars? (spec.child? "path"))
        alias? := nonEmpty? (s.text? (spec.child? "name")) }

/-- The parameters in a parameter list; a type without a name has an empty one. -/
def parameters (s : Source) (list? : Option Node) : List Parameter :=
  let kinds := ["parameter_declaration", "variadic_parameter_declaration"]
  ((list?.map (·.ofKinds kinds)).getD []).flatMap fun p =>
    let type := s.text? (p.child? "type")
    let isVariadic := p.kind == "variadic_parameter_declaration"
    let names := (p.childrenIn "name").map s.text
    (if names.isEmpty then [""] else names).map fun name =>
      { name, type := if isVariadic then "[]" ++ type else type, isVariadic }

/-- The types of results; a type counts once for every name that it is given to. -/
def results (s : Source) (result? : Option Node) : List String :=
  match result? with
  | none => []
  | some r =>
    if r.kind = "parameter_list" then
      (r.ofKinds ["parameter_declaration", "variadic_parameter_declaration"]).flatMap fun p =>
        List.replicate (max 1 (p.childrenIn "name").length) (s.text? (p.child? "type"))
    else [s.text r]

/-- A function or a method. -/
def readFunction (s : Source) (site : Site) (receiver? : Option String) : FunctionDecl :=
  let n := site.node
  let name := s.text? (n.child? "name")
  let body? := n.child? "body"
  { name
    parameters := parameters s (n.child? "parameters")
    returns := results s (n.child? "result")
    isExported := isExported name
    signature := s.header n body?
    calls := s.calls ["call_expression"] ["function"] body?
    complexity := Source.complexity branches operators body?
    doc? := s.docAbove ["comment"] docMarks site
    location? := some (s.location n)
    digest? := some (s.digest n)
    receiver? }

/-- The name of the type that a method belongs to. -/
def receiverType? (s : Source) (n : Node) : Option String :=
  ((n.child? "receiver").map (·.ofKinds ["parameter_declaration"])).getD [] |>.head?.map fun p =>
    String.ofList (Syntax.baseTypeName (s.chars? (p.child? "type")))

/-- The names of type parameters. -/
def typeParameters (s : Source) (spec : Node) : List String :=
  (((spec.child? "type_parameters").map (·.ofKinds ["type_parameter_declaration"])).getD []).flatMap
    fun d => (d.childrenIn "name").map s.text

/-- The declarations of fields in a structure. -/
def fieldDeclarations (struct : Node) : List Node :=
  (struct.ofKinds ["field_declaration_list"]).flatMap (·.ofKinds ["field_declaration"])

/-- The fields of a structure. -/
def structFields (s : Source) (struct : Node) : List Field :=
  (fieldDeclarations struct).flatMap fun d =>
    let type := s.chars? (d.child? "type")
    (d.childrenIn "name").map fun name =>
      { name := s.text name, type := String.ofList type, isOptional := begins "*" type,
        isPointer := begins "*" type, isArray := begins "[" type, isMap := begins "map[" type }

/-- The types embedded in a structure: fields without a name. -/
def embeddedTypes (s : Source) (struct : Node) : List String :=
  (fieldDeclarations struct).filterMap fun d =>
    if (d.childrenIn "name").isEmpty then
      some (String.ofList (Syntax.baseTypeName (s.chars? (d.child? "type"))))
    else none

/-- The methods of an interface. -/
def interfaceMethods (s : Source) (interface : Node) : List String :=
  (interface.ofKinds ["method_elem", "method_spec"]).map fun m => s.text? (m.child? "name")

/-- The interfaces embedded in an interface.  Sets of types are constraints and not embedded. -/
def embeddedInterfaces (s : Source) (interface : Node) : List String :=
  (interface.ofKinds ["type_elem", "constraint_elem", "interface_type_name"]).filterMap fun e =>
    let text := s.chars e
    if text.contains '|' || text.contains '~' then none
    else some (String.ofList (Syntax.baseTypeName text))

/-- A type, documented at `anchor`. -/
def readType (s : Source) (anchor : Site) (spec : Node) : TypeDecl :=
  let name := s.text? (spec.child? "name")
  let base : TypeDecl :=
    { name
      kind := .synonym
      generics := typeParameters s spec
      isExported := isExported name
      location? := some (s.location spec)
      doc? := s.docAbove ["comment"] docMarks anchor
      digest? := some (s.digest spec) }
  let type? := spec.child? "type"
  match type?, type?.map (·.kind) with
  | some t, some "struct_type" =>
    { base with kind := .struct, fields := structFields s t, implements := embeddedTypes s t }
  | some t, some "interface_type" =>
    { base with
      kind := .interface
      methods := interfaceMethods s t
      implements := embeddedInterfaces s t }
  | _, _ => { base with aliasOf? := some (s.text? type?) }

/-- The types of a type declaration.  A comment above the declaration belongs to its only type. -/
def readTypes (s : Source) (site : Site) : List Declaration :=
  let specs := site.node.sitesOf ["type_spec", "type_alias"]
  specs.map fun spec => .type (readType s (if specs.length = 1 then site else spec) spec.node)

/-- The type that governs a constant behind constants governed by `current?`. -/
def governingType? (s : Source) (current? : Option String) (spec : Node) : Option String :=
  match spec.child? "type" with
  | some t => some (s.text t)
  | none => if (spec.child? "value").isSome then none else current?

/-- The constants of a block that are governed by a type, each with its type. -/
def typedConstants (s : Source) (current? : Option String) : List Node → List (String × String)
  | [] => []
  | spec :: rest =>
    let type? := governingType? s current? spec
    let own := match type? with
      | none => []
      | some type =>
        (((spec.childrenIn "name").map s.text).filter (· ≠ "_")).map fun name => (type, name)
    own ++ typedConstants s type? rest

/-- The declarations of a node at the top level. -/
def readTop (s : Source) (site : Site) : List Declaration :=
  let n := site.node
  match n.kind with
  | "package_clause" => [.package (nonEmpty? (s.text? n.named.head?))]
  | "import_declaration" => readImports s n
  | "function_declaration" => [.function (readFunction s site none)]
  | "method_declaration" => [.function (readFunction s site (receiverType? s n))]
  | "type_declaration" => readTypes s site
  | "const_declaration" =>
    (typedConstants s none (n.ofKinds ["const_spec"])).map fun (type, name) => .constant type name
  | _ => []

/-- The declarations of a file. -/
def read (s : Source) (root : Node) : List Declaration := root.sites.flatMap (readTop s)

end Concord.Reader.Go
