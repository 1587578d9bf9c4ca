import Concord.Reader.Rust.Use
import Concord.Syntax.Declaration
import Concord.Syntax.Source

/-!
# Concord.Reader.Rust

Declarations of Rust files.  Items of modules in the file count like items at the top level.  A
function in an implementation block is a method of the type that the block is about; it is exported
if it says so, or if the block implements a trait.
-/

namespace Concord.Reader.Rust

open Text

/-- The kinds of nodes that branch. -/
def branches : List String :=
  ["if_expression", "match_arm", "while_expression", "for_expression", "loop_expression"]

/-- The operators that branch. -/
def operators : List String := ["&&", "||"]

/-- The documentation of an item, which stands in front of its attributes. -/
def docOf (s : Source) (site : Site) : Option String :=
  s.docAbove ["line_comment", "block_comment", "attribute_item"] ["///", "/**"]
    (Source.skipBack "attribute_item" site)

/-- Whether an item has a visibility of its own. -/
def isPublic (n : Node) : Bool := n.hasKind ["visibility_modifier"]

/-- The parameters in a parameter list. -/
def parameters (s : Source) (list? : Option Node) : List Parameter :=
  ((list?.map (·.ofKinds ["parameter"])).getD []).map fun p =>
    let name := s.chars? (p.child? "pattern")
    { name := String.ofList ((after? "mut " name).getD name), type := s.text? (p.child? "type") }

/-- The names of type parameters. -/
def typeParameters (s : Source) (n : Node) : List String :=
  let kinds := ["type_identifier", "constrained_type_parameter", "type_parameter"]
  (((n.child? "type_parameters").map (·.ofKinds kinds)).getD []).map fun p =>
    s.text ((p.childIn? ["left", "name"]).getD p)

/-- A function, as a method of `receiver?` if there is one. -/
def readFunction (s : Source) (receiver? : Option String) (isOfTrait : Bool) (site : Site) :
    FunctionDecl :=
  let n := site.node
  let body? := n.child? "body"
  { name := s.text? (n.child? "name")
    parameters := parameters s (n.child? "parameters")
    returns := ((n.child? "return_type").map s.text).toList
    isAsync := (n.ofKinds ["function_modifiers"]).any fun m =>
      (fields (s.chars m)).contains "async".toList
    isExported := isPublic n || isOfTrait
    signature := s.header n body?
    calls := s.calls ["call_expression"] ["function"] body?
    complexity := Source.complexity branches operators body?
    doc? := docOf s site
    location? := some (s.location n)
    digest? := some (s.digest n)
    receiver? }

/-- What the items that declare types have in common. -/
def typeBase (s : Source) (kind : TypeKind) (site : Site) : TypeDecl :=
  let n := site.node
  { name := s.text? (n.child? "name")
    kind
    generics := typeParameters s n
    isExported := isPublic n
    location? := some (s.location n)
    doc? := docOf s site
    digest? := some (s.digest n) }

/-- A field with what its type says about it. -/
def fieldOf (name : String) (type : List Char) : Field :=
  let head := Syntax.typeHead type
  { name
    type := String.ofList type
    isOptional := ["Option", "std::option::Option"].contains head
    isPointer := ["&", "Box<", "Rc<", "Arc<"].any (begins · type)
    isArray := ["Vec", "VecDeque"].contains head || begins "[" type
    isMap := ["HashMap", "BTreeMap"].contains head }

/-- The fields of a structure.  Those without names are numbered from zero. -/
def structFields (s : Source) (n : Node) : List Field :=
  match n.child? "body" with
  | none => []
  | some body =>
    match body.kind with
    | "field_declaration_list" =>
      (body.ofKinds ["field_declaration"]).map fun d =>
        fieldOf (s.text? (d.child? "name")) (s.chars? (d.child? "type"))
    | "ordered_field_declaration_list" =>
      (body.childrenIn "type").mapIdx fun i type => fieldOf (toString i) (s.chars type)
    | _ => []

/-- The variants of an enumeration. -/
def variants (s : Source) (n : Node) : List String :=
  (((n.child? "body").map (·.ofKinds ["enum_variant"])).getD []).map fun v =>
    s.text? (v.child? "name")

/-- The methods of a trait, with and without a body. -/
def traitMethods (s : Source) (n : Node) : List String :=
  let kinds := ["function_signature_item", "function_item"]
  (((n.child? "body").map (·.ofKinds kinds)).getD []).map fun m => s.text? (m.child? "name")

/-- The traits that a trait requires.  Lifetimes are none. -/
def supertraits (s : Source) (n : Node) : List String :=
  let bounds := (s.chars? (n.child? "bounds")).dropWhile (· = ':')
  let names := (Spelling.splitBy "+" bounds).map Syntax.baseTypeName
  (names.filter fun name => name ≠ [] && !begins "'" name).map String.ofList

/-- The methods of an implementation block, and the trait that it implements. -/
def readImplementation (s : Source) (n : Node) : List Declaration :=
  let type := String.ofList (Syntax.baseTypeName (s.chars? (n.child? "type")))
  let trait? := n.child? "trait"
  let methods := ((n.child? "body").map (·.sitesOf ["function_item"])).getD []
  (trait?.map fun t =>
      .implementation type (String.ofList (Syntax.baseTypeName (s.chars t)))).toList ++
    methods.map fun site => .function (readFunction s (some type) trait?.isSome site)

/-- The imports of a use declaration, one for each path. -/
def readUses (s : Source) (n : Node) : List Declaration :=
  let tree := [' '].intercalate (fields (s.chars? (n.child? "argument")))
  (expandUse [] tree).map fun u =>
    .imported { path := String.ofList u.path, alias? := u.alias?.map String.ofList }

/-- The declarations of an item that is no module. -/
def readLeaf (s : Source) (site : Site) : List Declaration :=
  let n := site.node
  match n.kind with
  | "function_item" => [.function (readFunction s none false site)]
  | "struct_item" => [.type { typeBase s .struct site with fields := structFields s n }]
  | "enum_item" => [.type { typeBase s .enum site with variants := variants s n }]
  | "trait_item" =>
    [.type
      { typeBase s .interface site with
        methods := traitMethods s n
        implements := supertraits s n }]
  | "type_item" =>
    [.type { typeBase s .synonym site with aliasOf? := some (s.text? (n.child? "type")) }]
  | "impl_item" => readImplementation s n
  | "use_declaration" => readUses s n
  | _ => []

mutual

/-- The declarations of an item behind the siblings `before`. -/
def readItem (s : Source) (before : List Node) : Node → List Declaration
  | .mk kind isNamed isMissing start stop role children =>
    if kind = "mod_item" then readBody s children
    else readLeaf s ⟨.mk kind isNamed isMissing start stop role children, before⟩

/-- The declarations of items in a row behind the siblings `before`. -/
def readItems (s : Source) (before : List Node) : List Node → List Declaration
  | [] => []
  | n :: ns => (if n.isNamed then readItem s before n else []) ++ readItems s (n :: before) ns

/-- The declarations of the items in the body of a module, given the nodes below the module. -/
def readBody (s : Source) : List Node → List Declaration
  | [] => []
  | n :: ns => if n.role = "body" then readWithin s n else readBody s ns

/-- The declarations of the items below a node. -/
def readWithin (s : Source) : Node → List Declaration
  | .mk _ _ _ _ _ _ children => readItems s [] children

end

/-- The declarations of a file. -/
def read (s : Source) (root : Node) : List Declaration := readWithin s root

end Concord.Reader.Rust
