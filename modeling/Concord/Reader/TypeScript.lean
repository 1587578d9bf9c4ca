import Concord.Spelling.Bracket
import Concord.Syntax.Declaration
import Concord.Syntax.Source

/-!
# Concord.Reader.TypeScript

Declarations of TypeScript files.  A declaration is documented where its statement begins, which may
be an export or an ambient declaration around it.  A variable that holds a function is a function.
An alias of an object type is a structure, an alias of a union of text literals an enumeration.
-/

namespace Concord.Reader.TypeScript

open Text

/-- The kinds of nodes that branch. -/
def branches : List String :=
  ["if_statement", "for_statement", "for_in_statement", "while_statement", "do_statement",
   "switch_case", "catch_clause", "ternary_expression"]

/-- The operators that branch. -/
def operators : List String := ["&&", "||", "??"]

/-- The documentation in front of a declaration. -/
def docOf (s : Source) (anchor : Site) : Option String := s.docAbove ["comment"] ["/**"] anchor

/-- The text without quotes at its ends. -/
def unquote (s : List Char) : String :=
  String.ofList (trimBy (fun c => c = '"' || c = '\'') s)

/-- The type in the annotation of a node. -/
def typeOf (s : Source) (n : Node) : List Char := Syntax.annotatedType (s.chars? (n.child? "type"))

/-! ## Imports -/

/-- The names that a part of an import clause brings in. -/
def importedNames (s : Source) (part : Node) : List String :=
  match part.kind with
  | "identifier" => [s.text part]
  | "named_imports" =>
    (part.ofKinds ["import_specifier"]).map fun spec => s.text? (spec.child? "name")
  | _ => []

/-- The import of an import statement. -/
def readImport (s : Source) (n : Node) : Import :=
  let parts := (n.ofKinds ["import_clause"]).flatMap (·.named)
  let spaces := parts.filter (·.kind == "namespace_import")
  { path := String.ofList
      (trimBy (fun c => c = '"' || c = '\'' || c = '\x60') (s.chars? (n.child? "source")))
    alias? := spaces.getLast?.bind fun space => space.named.getLast?.map s.text
    names := parts.flatMap (importedNames s) }

/-! ## Functions -/

/-- The parameters of a function: a list, or the only name of a short function. -/
def parameters (s : Source) (list? : Option Node) : List Parameter :=
  match list? with
  | none => []
  | some list =>
    if list.kind = "identifier" then [{ name := s.text list }]
    else
      (list.ofKinds ["required_parameter", "optional_parameter"]).filterMap fun p =>
        let pattern? := p.child? "pattern"
        let name := s.chars? pattern?
        let value? := p.child? "value"
        if name = "this".toList then none
        else some
          { name := String.ofList (name.dropWhile (· = '.'))
            type := String.ofList (typeOf s p)
            isOptional := p.kind == "optional_parameter" || value?.isSome
            isVariadic := pattern?.any (·.kind == "rest_pattern")
            default? := value?.map s.text }

/-- The type that a function returns.  A type guard returns whether it holds, an assertion
nothing. -/
def returns (s : Source) (n : Node) : List String :=
  match n.child? "return_type" with
  | none => []
  | some r =>
    match r.kind with
    | "type_predicate_annotation" => ["boolean"]
    | "asserts_annotation" => []
    | _ =>
      let type := String.ofList (Syntax.annotatedType (s.chars r))
      if type.isEmpty then [] else [type]

/-- A function that is declared by `declaration` and has its parameters and its body in `value`. -/
def functionOf (s : Source) (declaration value : Node) (anchor : Site) (isExported : Bool)
    (receiver? : Option String) : FunctionDecl :=
  let body? := value.child? "body"
  { name := s.text? (declaration.child? "name")
    parameters := parameters s (value.childIn? ["parameters", "parameter"])
    returns := returns s value
    isAsync := value.hasKind ["async"]
    isExported
    signature := s.header declaration body?
    calls := s.calls ["call_expression"] ["function"] body?
    complexity := Source.complexity branches operators body?
    doc? := docOf s anchor
    location? := some (s.location declaration)
    digest? := some (s.digest declaration)
    receiver? }

/-- The functions that the variables of a declaration hold. -/
def readVariables (s : Source) (anchor : Site) (isExported : Bool) (n : Node) : List Declaration :=
  (n.ofKinds ["variable_declarator"]).filterMap fun d =>
    match d.child? "value" with
    | none => none
    | some value =>
      if ["arrow_function", "function_expression", "function"].contains value.kind then
        some (.function (functionOf s d value anchor isExported none))
      else none

/-! ## Types -/

/-- The names of type parameters. -/
def typeParameters (s : Source) (n : Node) : List String :=
  (((n.child? "type_parameters").map (·.ofKinds ["type_parameter"])).getD []).map fun p =>
    s.text? (p.child? "name")

/-- The types that a class or an interface extends or implements. -/
def heritage (s : Source) (n : Node) : List String :=
  let clauses := ["extends_clause", "implements_clause", "extends_type_clause"]
  let nodes := n.namedBelow clauses ["class_body", "interface_body", "object_type"]
  let names := (nodes.filter fun c => clauses.contains c.kind).flatMap fun clause =>
    let text := s.chars clause
    let types := (["extends", "implements"].findSome? (after? · text)).getD text
    (Spelling.splitCommas types).map Syntax.baseTypeName
  (names.filter (· ≠ [])).map String.ofList

/-- The field of a property. -/
def propertyField (s : Source) (member : Node) : Field :=
  let type := typeOf s member
  { name := s.text? (member.child? "name")
    type := String.ofList type
    isOptional := member.hasKind ["?"]
    default? := (member.child? "value").map s.text
    isArray := ends "[]" type || begins "Array<" type
    isMap := begins "Map<" type || begins "Record<" type }

/-- The fields that a constructor declares: its parameters with a modifier. -/
def parameterFields (s : Source) (constructor : Node) : List Field :=
  let kinds := ["required_parameter", "optional_parameter"]
  let modifiers := ["accessibility_modifier", "readonly", "override_modifier"]
  let list := ((constructor.child? "parameters").map (·.ofKinds kinds)).getD []
  (list.filter (·.hasKind modifiers)).map fun p =>
    { name := s.text? (p.child? "pattern")
      type := String.ofList (typeOf s p)
      isOptional := p.kind == "optional_parameter" }

/-- Whether a member of a class is hidden from others. -/
def isPrivate (s : Source) (member : Node) : Bool :=
  (member.ofKinds ["accessibility_modifier"]).any
      (fun m => ["private", "protected"].contains (s.text m)) ||
    (member.child? "name").any fun name =>
      name.kind == "private_property_identifier" || begins "#" (s.chars name)

/-- Whether a member of a class is a method or the constructor. -/
def isCallable (member : Node) : Bool :=
  ["method_definition", "method_signature", "abstract_method_signature"].contains member.kind

/-- Whether a member of a class is the constructor. -/
def isConstructor (s : Source) (member : Node) : Bool :=
  isCallable member && s.text? (member.child? "name") == "constructor"

/-- The fields that a member of a class declares. -/
def memberFields (s : Source) (member : Node) : List Field :=
  if isConstructor s member then parameterFields s member
  else if ["public_field_definition", "property_signature"].contains member.kind then
    [propertyField s member]
  else []

/-- What the declarations of types have in common. -/
def typeBase (s : Source) (kind : TypeKind) (anchor : Site) (isExported : Bool) (n : Node) :
    TypeDecl :=
  { name := s.text? (n.child? "name")
    kind
    generics := if kind = .enum then [] else typeParameters s n
    isExported
    location? := some (s.location n)
    doc? := docOf s anchor
    digest? := some (s.digest n) }

/-- A class and its methods. -/
def readClass (s : Source) (anchor : Site) (isExported : Bool) (n : Node) : List Declaration :=
  let members := ((n.child? "body").map (·.sites)).getD []
  let methods := members.filter fun m => isCallable m.node && !isConstructor s m.node
  let name := s.text? (n.child? "name")
  .type
      { typeBase s .classType anchor isExported n with
        fields := members.flatMap fun m => memberFields s m.node
        methods := methods.map fun m => s.text? (m.node.child? "name")
        implements := heritage s n } ::
    methods.map fun m =>
      .function (functionOf s m.node m.node m (!isPrivate s m.node) (some name))

/-- Whether a member of an object type is a method, which may be written as a property that holds a
function. -/
def isMethod (member : Node) : Bool :=
  member.kind == "method_signature" ||
    (member.kind == "property_signature" &&
      ((member.child? "type").bind (·.named.head?)).any (·.kind == "function_type"))

/-- The fields and the methods of an object type. -/
def objectMembers (s : Source) (body? : Option Node) : List Field × List String :=
  let members := (body?.map (·.named)).getD []
  ((members.filter fun m => m.kind == "property_signature" && !isMethod m).map (propertyField s),
    (members.filter isMethod).map fun m => s.text? (m.child? "name"))

/-- An interface. -/
def readInterface (s : Source) (anchor : Site) (isExported : Bool) (n : Node) : TypeDecl :=
  let members := objectMembers s (n.child? "body")
  { typeBase s .interface anchor isExported n with
    fields := members.1
    methods := members.2
    implements := heritage s n }

/-- An enumeration. -/
def readEnum (s : Source) (anchor : Site) (isExported : Bool) (n : Node) : TypeDecl :=
  let kinds := ["property_identifier", "enum_assignment", "string"]
  { typeBase s .enum anchor isExported n with
    variants := (((n.child? "body").map (·.ofKinds kinds)).getD []).map fun m =>
      unquote (s.chars? (if m.kind = "enum_assignment" then m.child? "name" else some m)) }

/-- Whether a type is a text literal. -/
def isTextLiteral (n : Node) : Bool :=
  n.kind == "literal_type" && n.named.head?.any (·.kind == "string")

/-- The literals of a union that has no other members. -/
def literals? (value : Node) : Option (List Node) :=
  let members := value.flattened "union_type"
  if value.kind = "union_type" && !members.isEmpty && members.all isTextLiteral then some members
  else none

/-- A type alias. -/
def readAlias (s : Source) (anchor : Site) (isExported : Bool) (n : Node) : TypeDecl :=
  let base := typeBase s .synonym anchor isExported n
  let value? := n.child? "value"
  if value?.any (·.kind == "object_type") then
    let members := objectMembers s value?
    { base with kind := .struct, fields := members.1, methods := members.2 }
  else
    match value?.bind literals? with
    | some members =>
      { base with kind := .enum, variants := members.map fun m => unquote (s.chars m) }
    | none => { base with aliasOf? := some (s.text? value?) }

/-! ## Statements -/

/-- The declarations of a statement that holds no others. -/
def readPlain (s : Source) (anchor : Site) (isExported : Bool) (n : Node) : List Declaration :=
  match n.kind with
  | "function_declaration" | "generator_function_declaration" | "function_signature" =>
    [.function (functionOf s n n anchor isExported none)]
  | "class_declaration" | "abstract_class_declaration" => readClass s anchor isExported n
  | "interface_declaration" => [.type (readInterface s anchor isExported n)]
  | "enum_declaration" => [.type (readEnum s anchor isExported n)]
  | "type_alias_declaration" => [.type (readAlias s anchor isExported n)]
  | "lexical_declaration" | "variable_declaration" => readVariables s anchor isExported n
  | _ => []

mutual

/-- The declarations of a statement; an ambient one holds others. -/
def readStatement (s : Source) (anchor : Site) (isExported : Bool) : Node → List Declaration
  | .mk kind isNamed isMissing start stop role children =>
    if kind = "ambient_declaration" then readStatements s anchor isExported children
    else readPlain s anchor isExported (.mk kind isNamed isMissing start stop role children)

/-- The declarations of the named statements in a row. -/
def readStatements (s : Source) (anchor : Site) (isExported : Bool) : List Node → List Declaration
  | [] => []
  | n :: ns =>
    (if n.isNamed then readStatement s anchor isExported n else []) ++
      readStatements s anchor isExported ns

end

/-- The declarations of a statement at the top level. -/
def readTop (s : Source) (site : Site) : List Declaration :=
  match site.node.kind with
  | "import_statement" => [.imported (readImport s site.node)]
  | "export_statement" =>
    ((site.node.child? "declaration").map (readStatement s site true)).getD []
  | _ => readStatement s site false site.node

/-- The declarations of a file. -/
def read (s : Source) (root : Node) : List Declaration := root.sites.flatMap (readTop s)

end Concord.Reader.TypeScript
