import Concord.Spelling.Bracket
import Concord.Syntax.Declaration
import Concord.Syntax.Source

/-!
# Concord.Reader.CSharp

Declarations of C# files.  Namespaces may be nested and their types count like those at the top
level; types nested in types follow the type around them.  Properties are fields.  A method belongs
to the type around it; one without a body is only listed among the methods of its type.  Members of
an interface are exported, all others unless they are private.
-/

namespace Concord.Reader.CSharp

open Text

/-- The kinds of nodes that branch. -/
def branches : List String :=
  ["if_statement", "for_statement", "foreach_statement", "for_each_statement", "while_statement",
   "do_statement", "switch_section", "switch_expression_arm", "catch_clause",
   "conditional_expression"]

/-- The operators that branch. -/
def operators : List String := ["&&", "||", "??"]

/-- The kind of the type that a node declares. -/
def typeKind? (n : Node) : Option TypeKind :=
  match n.kind with
  | "class_declaration" => some .classType
  | "struct_declaration" => some .struct
  | "record_declaration" => some .struct
  | "record_struct_declaration" => some .struct
  | "interface_declaration" => some .interface
  | "enum_declaration" => some .enum
  | _ => none

/-- The documentation of a declaration, which stands in front of its attributes. -/
def docOf (s : Source) (site : Site) : Option String :=
  s.docAbove ["comment"] ["///"] (Source.skipBack "attribute_list" site)

/-- The modifiers of a declaration. -/
def modifiers (s : Source) (n : Node) : List (List Char) :=
  (n.children.filter fun c => ["modifier", "modifiers", "parameter_modifier"].contains c.kind).flatMap
    fun c => fields (s.chars c)

/-- Whether a declaration is exported. -/
def isExported (s : Source) (inInterface : Bool) (n : Node) : Bool :=
  inInterface || !(modifiers s n).contains "private".toList

/-- The import of a using directive, which may give the namespace another name. -/
def readUsing (s : Source) (n : Node) : Import :=
  let text := trimEndBy (· = ';') (trim (s.chars n))
  let text := trim (text.drop "using".length)
  let text := ((after? "static " text).map trim).getD text
  if text.contains '=' then
    { path := String.ofList (trim ((text.dropWhile (· ≠ '=')).drop 1))
      alias? := some (String.ofList (trim (upTo '=' text))) }
  else { path := String.ofList text }

/-! ## Parameters -/

/-- An ordinary parameter.  One with a default may be left out. -/
def readParameter (s : Source) (n : Node) : Parameter :=
  let default? := ((n.children.dropWhile (·.kind != "=")).drop 1).find? (·.isNamed)
  { name := s.text? (n.child? "name")
    type := s.text? (n.child? "type")
    isOptional := default?.isSome
    default? := default?.map s.text }

/-- The parameters among the nodes of a parameter list.  The parameter that takes any number of
arguments has no node of its own: behind its keyword stand its type and its name.  Behind the
keyword `pending?` holds the type, once it is read. -/
def readParameters (s : Source) (pending? : Option (Option Node)) : List Node → List Parameter
  | [] => []
  | n :: ns =>
    if n.kind = "parameter" then readParameter s n :: readParameters s pending? ns
    else if n.kind = "params" then readParameters s (some none) ns
    else
      match pending? with
      | none => readParameters s none ns
      | some type? =>
        if n.kind = "identifier" then
          { name := s.text n, type := s.text? type?, isVariadic := true } ::
            readParameters s none ns
        else if n.isNamed && n.kind != "attribute_list" then readParameters s (some (some n)) ns
        else readParameters s pending? ns

/-- The parameters in a parameter list. -/
def parameters (s : Source) (list? : Option Node) : List Parameter :=
  readParameters s none ((list?.map (·.children)).getD [])

/-! ## Types -/

/-- The names of type parameters. -/
def typeParameters (s : Source) (n : Node) : List String :=
  let list? := (n.child? "type_parameters").orElse fun _ =>
    (n.ofKinds ["type_parameter_list"]).head?
  ((list?.map (·.ofKinds ["type_parameter"])).getD []).map fun p =>
    s.text ((p.child? "name").getD p)

/-- The types that a type is based on.  One that is called to construct the base is left out. -/
def bases (s : Source) (n : Node) : List String :=
  match n.ofKinds ["base_list"] with
  | [] => []
  | list :: _ =>
    let types := Spelling.splitCommas ((s.chars list).dropWhile (· = ':'))
    (types.filter fun type => !type.contains '(').map fun type =>
      String.ofList (Syntax.baseTypeName type)

/-- A field with what its type says about it. -/
def fieldOf (name : String) (type : List Char) : Field :=
  let head := Syntax.typeHead type
  { name
    type := String.ofList type
    isOptional := ends "?" type
    isArray := ends "[]" type || ["List", "IList", "IEnumerable", "ICollection"].contains head
    isMap := ["Dictionary", "IDictionary", "IReadOnlyDictionary"].contains head }

/-- The fields that a member declares. -/
def memberFields (s : Source) (member : Node) : List Field :=
  match member.kind with
  | "property_declaration" =>
    [fieldOf (s.text? (member.child? "name")) (s.chars? (member.childIn? ["type", "returns"]))]
  | "field_declaration" =>
    (member.ofKinds ["variable_declaration"]).flatMap fun d =>
      (d.ofKinds ["variable_declarator"]).map fun v =>
        fieldOf (s.text? ((v.child? "name").orElse fun _ => v.named.head?))
          (s.chars? (d.child? "type"))
  | _ => []

/-- The fields of a record that are its parameters. -/
def recordFields (s : Source) (n : Node) : List Field :=
  (n.ofKinds ["parameter_list"]).flatMap fun list =>
    (parameters s (some list)).map fun p => fieldOf p.name p.type.toList

/-- A type of some kind without what is nested in it.  An enumeration has no members but its
constants. -/
def readType (s : Source) (inInterface : Bool) (kind : TypeKind) (site : Site) : TypeDecl :=
  let n := site.node
  let body? := n.child? "body"
  let members := if kind = .enum then [] else (body?.map (·.named)).getD []
  { name := s.text? (n.child? "name")
    kind
    fields := recordFields s n ++ members.flatMap (memberFields s)
    methods := (members.filter (·.kind == "method_declaration")).map fun m =>
      s.text? (m.child? "name")
    variants :=
      if kind = .enum then
        ((body?.map (·.ofKinds ["enum_member_declaration"])).getD []).map fun c =>
          s.text? (c.child? "name")
      else []
    generics := typeParameters s n
    implements := bases s n
    isExported := isExported s inInterface n
    location? := some (s.location n)
    doc? := docOf s site
    digest? := some (s.digest n) }

/-! ## Methods -/

/-- The type around a member. -/
structure Owner where
  name : String
  kind : TypeKind

/-- The body of a method: a block, or an expression behind an arrow. -/
def methodBody? (n : Node) : Option Node :=
  (n.child? "body").orElse fun _ => (n.ofKinds ["arrow_expression_clause"]).head?

/-- A method of a type. -/
def readMethod (s : Source) (owner : Owner) (site : Site) : FunctionDecl :=
  let n := site.node
  let body? := methodBody? n
  let returned := s.text? (n.childIn? ["returns", "type"])
  { name := s.text? (n.child? "name")
    parameters := parameters s (n.child? "parameters")
    returns := if returned.isEmpty then [] else [returned]
    isAsync := (modifiers s n).contains "async".toList
    isExported := isExported s (owner.kind == .interface) n
    signature := s.header n body?
    calls := s.calls ["invocation_expression"] ["function"] body?
    complexity := Source.complexity branches operators body?
    doc? := docOf s site
    location? := some (s.location n)
    digest? := some (s.digest n)
    receiver? := some owner.name }

/-- The function that a member declares, if it is a method with a body. -/
def memberFunction (s : Source) (owner : Owner) (site : Site) : List Declaration :=
  if site.node.kind = "method_declaration" && (methodBody? site.node).isSome then
    [.function (readMethod s owner site)]
  else []

/-! ## Nesting -/

mutual

/-- The declarations of a type behind the siblings `before`: the type itself, then what its members
declare. -/
def readTypes (s : Source) (inInterface : Bool) (kind : TypeKind) (before : List Node) :
    Node → List Declaration
  | .mk word isNamed isMissing start stop role children =>
    let n := Node.mk word isNamed isMissing start stop role children
    .type (readType s inInterface kind ⟨n, before⟩) ::
      (if kind = .enum then [] else readBody s ⟨s.text? (n.child? "name"), kind⟩ children)

/-- The declarations in the body of a type, given the nodes below the type. -/
def readBody (s : Source) (owner : Owner) : List Node → List Declaration
  | [] => []
  | n :: ns => if n.role = "body" then readMembersBelow s owner n else readBody s owner ns

/-- The declarations of the members in a body. -/
def readMembersBelow (s : Source) (owner : Owner) : Node → List Declaration
  | .mk _ _ _ _ _ _ children => readMembers s owner [] children

/-- The declarations of members in a row behind the siblings `before`. -/
def readMembers (s : Source) (owner : Owner) (before : List Node) : List Node → List Declaration
  | [] => []
  | n :: ns =>
    (if n.isNamed then
      match typeKind? n with
      | some kind => readTypes s (owner.kind == .interface) kind before n
      | none => memberFunction s owner ⟨n, before⟩
    else []) ++ readMembers s owner (n :: before) ns

end

/-- The namespace of a node that declares one. -/
def namespaceOf (s : Source) (n : Node) : List Declaration :=
  let name := s.text? (n.child? "name")
  if name.isEmpty then [] else [.package (some name)]

/-- Whether a node declares a namespace. -/
def isNamespace (n : Node) : Bool :=
  ["namespace_declaration", "file_scoped_namespace_declaration"].contains n.kind

mutual

/-- The declarations of a node behind the siblings `before`. -/
def readItem (s : Source) (before : List Node) : Node → List Declaration
  | .mk word isNamed isMissing start stop role children =>
    let n := Node.mk word isNamed isMissing start stop role children
    if word = "using_directive" then [.imported (readUsing s n)]
    else if isNamespace n then
      namespaceOf s n ++
        (if (n.child? "body").isSome then readSpace s children else readItems s [] children)
    else if word = "declaration_list" then readItems s [] children
    else
      match typeKind? n with
      | some kind => readTypes s false kind before n
      | none => []

/-- The declarations of nodes in a row behind the siblings `before`. -/
def readItems (s : Source) (before : List Node) : List Node → List Declaration
  | [] => []
  | n :: ns => (if n.isNamed then readItem s before n else []) ++ readItems s (n :: before) ns

/-- The declarations in the body of a namespace, given the nodes below the namespace. -/
def readSpace (s : Source) : List Node → List Declaration
  | [] => []
  | n :: ns => if n.role = "body" then readWithin s n else readSpace s ns

/-- The declarations of the nodes below a node. -/
def readWithin (s : Source) : Node → List Declaration
  | .mk _ _ _ _ _ _ children => readItems s [] children

end

/-- The declarations of a file. -/
def read (s : Source) (root : Node) : List Declaration := readWithin s root

end Concord.Reader.CSharp
