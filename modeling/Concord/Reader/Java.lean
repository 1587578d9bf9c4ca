import Concord.Spelling.Bracket
import Concord.Syntax.Declaration
import Concord.Syntax.Source

/-!
# Concord.Reader.Java

Declarations of Java files.  Types nested in types count like those at the top level and follow the
type around them.  A method belongs to the type around it; one without a body is only listed among
the methods of its type.  Members of an interface are exported, all others unless they are private.
-/

namespace Concord.Reader.Java

open Text

/-- The kinds of nodes that branch. -/
def branches : List String :=
  ["if_statement", "for_statement", "enhanced_for_statement", "while_statement", "do_statement",
   "switch_label", "catch_clause", "ternary_expression"]

/-- The operators that branch. -/
def operators : List String := ["&&", "||"]

/-- The kind of the type that a node declares. -/
def typeKind? (n : Node) : Option TypeKind :=
  match n.kind with
  | "class_declaration" => some .classType
  | "record_declaration" => some .struct
  | "interface_declaration" => some .interface
  | "enum_declaration" => some .enum
  | _ => none

/-- The documentation in front of a declaration. -/
def docOf (s : Source) (site : Site) : Option String :=
  s.docAbove ["line_comment", "block_comment"] ["/**"] site

/-- The modifiers of a declaration.  Annotations are none. -/
def modifiers (s : Source) (n : Node) : List String :=
  match n.ofKinds ["modifiers"] with
  | [] => []
  | list :: _ =>
    (list.children.filter fun m => !ends "annotation" m.kind.toList).map s.text

/-- Whether a declaration is exported. -/
def isExported (s : Source) (inInterface : Bool) (n : Node) : Bool :=
  inInterface || !(modifiers s n).contains "private"

/-! ## Types -/

/-- The name in a package declaration. -/
def packageName (s : Source) (n : Node) : String :=
  String.ofList (trimBy (fun c => c = ' ' || c = ';') (removeWord "package" (s.chars n)))

/-- The import of an import declaration. -/
def readImport (s : Source) (n : Node) : Import :=
  let text := trimEndBy (· = ';') (trim (s.chars n))
  let text := trim (text.drop "import".length)
  let text := ((after? "static " text).map trim).getD text
  { path := String.ofList (text.filter (· ≠ ' ')) }

/-- The names of type parameters. -/
def typeParameters (s : Source) (n : Node) : List String :=
  (((n.child? "type_parameters").map (·.ofKinds ["type_parameter"])).getD []).filterMap fun p =>
    (p.ofKinds ["type_identifier", "identifier"]).head?.map s.text

/-- The names of the types that a clause lists behind its keyword. -/
def typeList (text : List Char) : List String :=
  let types := (["extends", "implements"].findSome? (after? · text)).getD text
  (Spelling.splitCommas types).map fun type => String.ofList (Syntax.baseTypeName type)

/-- The types that a type extends or implements. -/
def supertypes (s : Source) (n : Node) : List String :=
  let clauses :=
    ["superclass", "interfaces"].filterMap n.child? ++ n.ofKinds ["extends_interfaces"]
  clauses.flatMap fun clause => typeList (s.chars clause)

/-- A field with what its type says about it. -/
def fieldOf (name : String) (type : List Char) : Field :=
  let head := Syntax.typeHead type
  { name
    type := String.ofList type
    isOptional := head == "Optional"
    isArray := ends "[]" type || ["List", "ArrayList", "Set", "Collection"].contains head
    isMap := ["Map", "HashMap", "TreeMap"].contains head }

/-- The fields of a record, which are its parameters. -/
def recordFields (s : Source) (n : Node) : List Field :=
  (((n.child? "parameters").map (·.ofKinds ["formal_parameter"])).getD []).map fun p =>
    fieldOf (s.text? (p.child? "name")) (s.chars? (p.child? "type"))

/-- The fields that a member declares. -/
def memberFields (s : Source) (member : Node) : List Field :=
  if member.kind = "field_declaration" then
    (member.childrenIn "declarator").map fun d =>
      fieldOf (s.text? (d.child? "name")) (s.chars? (member.child? "type"))
  else []

/-- The members of a type with this body.  Those of an enumeration may stand behind its constants
in a list of their own. -/
def members (kind : TypeKind) (body? : Option Node) : List Node :=
  let direct := (body?.map (·.named)).getD []
  if kind = .enum then
    direct ++ (direct.filter (·.kind == "enum_body_declarations")).flatMap (·.named)
  else direct

/-- A type of some kind without what is nested in it. -/
def readType (s : Source) (inInterface : Bool) (kind : TypeKind) (site : Site) : TypeDecl :=
  let n := site.node
  let body? := n.child? "body"
  let members := members kind body?
  { name := s.text? (n.child? "name")
    kind
    fields := (if kind = .struct then recordFields s n else []) ++
      members.flatMap (memberFields s)
    methods := (members.filter (·.kind == "method_declaration")).map fun m =>
      s.text? (m.child? "name")
    variants :=
      if kind = .enum then
        ((body?.map (·.ofKinds ["enum_constant"])).getD []).map fun c => s.text? (c.child? "name")
      else []
    generics := typeParameters s n
    implements := supertypes s n
    isExported := isExported s inInterface n
    location? := some (s.location n)
    doc? := docOf s site
    digest? := some (s.digest n) }

/-! ## Methods -/

/-- The parameter that takes any number of arguments: its type stands in front of a declarator. -/
def spreadParameter (s : Source) (n : Node) : Parameter :=
  let declarator? := (n.ofKinds ["variable_declarator"]).head?
  let type? := n.named.find? fun c => !(["variable_declarator", "modifiers"].contains c.kind)
  { name := s.text? (declarator?.bind (·.child? "name"))
    type := s.text? type? ++ "[]"
    isVariadic := true }

/-- The parameters in a parameter list. -/
def parameters (s : Source) (list? : Option Node) : List Parameter :=
  ((list?.map (·.ofKinds ["formal_parameter", "spread_parameter"])).getD []).map fun p =>
    if p.kind = "formal_parameter" then
      { name := s.text? (p.child? "name"), type := s.text? (p.child? "type") }
    else spreadParameter s p

/-- The type around a member. -/
structure Owner where
  name : String
  kind : TypeKind

/-- A method of a type. -/
def readMethod (s : Source) (owner : Owner) (site : Site) : FunctionDecl :=
  let n := site.node
  let body? := n.child? "body"
  let returned := s.text? (n.child? "type")
  { name := s.text? (n.child? "name")
    parameters := parameters s (n.child? "parameters")
    returns := if returned.isEmpty then [] else [returned]
    isExported := isExported s (owner.kind == .interface) n
    signature := s.header n body?
    calls := s.calls ["method_invocation"] ["name"] body?
    complexity := Source.complexity branches operators body?
    doc? := docOf s site
    location? := some (s.location n)
    digest? := some (s.digest n)
    receiver? := some owner.name }

/-- The function that a member declares, if it is a method with a body. -/
def memberFunction (s : Source) (owner : Owner) (site : Site) : List Declaration :=
  if site.node.kind = "method_declaration" && (site.node.child? "body").isSome then
    [.function (readMethod s owner site)]
  else []

/-! ## Nesting -/

mutual

/-- The declarations of a type behind the siblings `before`: the type itself, then what its members
declare. -/
def readTypes (s : Source) (inInterface : Bool) (kind : TypeKind) (before : List Node) :
    Node → List Declaration
  | .mk word isNamed isMissing start stop role children =>
    let n := Node.mk word isNamed isMissing start stop role children
    .type (readType s inInterface kind ⟨n, before⟩) ::
      readBody s ⟨s.text? (n.child? "name"), kind⟩ children

/-- The declarations in the body of a type, given the nodes below the type. -/
def readBody (s : Source) (owner : Owner) : List Node → List Declaration
  | [] => []
  | n :: ns => if n.role = "body" then readMembersBelow s owner n else readBody s owner ns

/-- The declarations of the members in a body. -/
def readMembersBelow (s : Source) (owner : Owner) : Node → List Declaration
  | .mk _ _ _ _ _ _ children =>
    readMembers s owner [] children ++
      (if owner.kind = .enum then readLists s owner children else [])

/-- The declarations of members in a row behind the siblings `before`. -/
def readMembers (s : Source) (owner : Owner) (before : List Node) : List Node → List Declaration
  | [] => []
  | n :: ns =>
    (if n.isNamed then
      match typeKind? n with
      | some kind => readTypes s (owner.kind == .interface) kind before n
      | none => memberFunction s owner ⟨n, before⟩
    else []) ++ readMembers s owner (n :: before) ns

/-- The declarations in the member lists among nodes in a row. -/
def readLists (s : Source) (owner : Owner) : List Node → List Declaration
  | [] => []
  | n :: ns =>
    (if n.isNamed && n.kind = "enum_body_declarations" then readList s owner n else []) ++
      readLists s owner ns

/-- The declarations in a member list. -/
def readList (s : Source) (owner : Owner) : Node → List Declaration
  | .mk _ _ _ _ _ _ children => readMembers s owner [] children

end

/-- The declarations of a node at the top level. -/
def readTop (s : Source) (site : Site) : List Declaration :=
  match typeKind? site.node, site.node.kind with
  | some kind, _ => readTypes s false kind site.before site.node
  | none, "package_declaration" => [.package (some (packageName s site.node))]
  | none, "import_declaration" => [.imported (readImport s site.node)]
  | none, _ => []

/-- The declarations of a file. -/
def read (s : Source) (root : Node) : List Declaration := root.sites.flatMap (readTop s)

end Concord.Reader.Java
