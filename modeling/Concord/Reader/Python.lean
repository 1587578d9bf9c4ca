import Concord.Reader.Python.Argument
import Concord.Syntax.Declaration
import Concord.Syntax.Source

/-!
# Concord.Reader.Python

Declarations of Python files.  They are read at the top level and through `if` and `try` statements
there, but not in function bodies.  The members of a class are the functions and annotated names in
its body; what `__init__` assigns to `self` and what is a property counts as a field.
-/

namespace Concord.Reader.Python

-- Sums of naturals start from the core library's zero, whatever else is imported.
attribute [local instance (high)] Zero.ofOfNat0

/-- Where a statement stands. -/
def locationOf (s : Source) (t : Term) : Location := ⟨s.path, t.first, t.last⟩

/-- The digest of the lines of a statement. -/
def digestOf (s : Source) (t : Term) : String := digestLines s.lines t.first t.last

/-- Whether a name is meant to be used by others. -/
def isExported (name : String) : Bool := !Text.begins "_" name.toList

/-- The declared name of a statement. -/
def nameOf (t : Term) : String := (t.word? "name").getD ""

/-! ## Imports -/

/-- The imports of whole modules. -/
def readImport (t : Term) : List Declaration :=
  (t.nodesIn "names").map fun a => .imported { path := nameOf a, alias? := a.word? "asname" }

/-- The import of names from a module, whose path begins with a dot for each level upwards. -/
def readImportFrom (t : Term) : Import :=
  { path := String.ofList (List.replicate ((t.number? "level").getD 0).toNat '.') ++
      (t.word? "module").getD ""
    names := (t.nodesIn "names").map nameOf }

/-! ## Functions -/

/-- How many branches a node adds. -/
def branchCount (t : Term) : Nat :=
  match t.kind with
  | "If" | "IfExp" | "For" | "AsyncFor" | "While" | "ExceptHandler" | "comprehension" |
    "match_case" => 1
  | "BoolOp" => (t.nodesIn "values").length - 1
  | _ => 0

/-- One more than the number of branches in a function. -/
def complexity (t : Term) : Nat := 1 + (t.walk.map branchCount).sum

/-- The names called in a function, each once. -/
def callsOf (t : Term) : List String :=
  addNames [] ((t.walk.filter (·.kind == "Call")).map shortName)

/-- Whether a statement declares a function. -/
def isFunction (t : Term) : Bool := t.kind == "FunctionDef" || t.kind == "AsyncFunctionDef"

/-- The short names of the decorators of a function. -/
def decorators (t : Term) : List String := (t.nodesIn "decorator_list").map shortName

/-- The signature of a function. -/
def signatureOf (t : Term) : String :=
  (if t.kind = "AsyncFunctionDef" then "async def " else "def ") ++ nameOf t ++ "(" ++
    text? (t.node? "args") ++ ")" ++
    ((t.node? "returns").map fun r => " -> " ++ r.text).getD ""

/-- A function, as a method of `receiver?` if there is one. -/
def readFunction (s : Source) (receiver? : Option String) (t : Term) : FunctionDecl :=
  let hint := text? (t.node? "returns")
  let isBound := receiver?.isSome && !(decorators t).contains "staticmethod"
  { name := nameOf t
    parameters := ((t.node? "args").map fun a => (Arguments.ofTerm a).parameters isBound).getD []
    returns := if hint.isEmpty then [] else returnedTypes hint (t.node? "returns")
    isAsync := t.kind == "AsyncFunctionDef"
    isExported := isExported (nameOf t)
    signature := signatureOf t
    calls := callsOf t
    complexity := complexity t
    doc? := docOf t
    location? := some (locationOf s t)
    digest? := some (digestOf s t)
    receiver? }

/-- Whether a function only repeats another for a type checker, or is a further half of a
property. -/
def isSecondary (t : Term) : Bool :=
  ["overload", "setter", "deleter"].any (decorators t).contains

/-- Whether a function is a property of its class. -/
def isProperty (t : Term) : Bool := ["property", "cached_property"].any (decorators t).contains

/-! ## Fields -/

/-- A field with what its annotation says about it. -/
def fieldOf (name : String) (hint? value? : Option Term) : Field :=
  let head := (hint?.map shortName).getD ""
  let isUnion := hint?.any fun a =>
    a.kind == "BinOp" && [text? (a.node? "left"), text? (a.node? "right")].contains "None"
  { name
    type := text? hint?
    isOptional := head == "Optional" || isUnion
    default? := value?.map (·.text)
    isArray := ["list", "List", "Sequence", "set", "Set", "tuple", "Tuple"].contains head
    isMap := ["dict", "Dict", "Mapping"].contains head }

/-- The attribute of `self` that an expression is. -/
def selfAttribute? (t : Term) : Option String :=
  if t.kind = "Attribute" && (t.node? "value").any (fun v => name? v == some "self") then
    t.word? "attr"
  else none

/-- The annotations of the arguments of a function, of which the last under a name counts. -/
def argumentType? (init : Term) (name : String) : Option Term :=
  let arguments := ((init.node? "args").map Arguments.ofTerm).elim [] fun a =>
    a.ordinary ++ a.keywordOnly
  (arguments.reverse.find? (·.name == name)).bind (·.hint?)

/-- The attributes of `self` that a node assigns, each with the annotation that it has or takes from
an argument. -/
def assigned (init t : Term) : List (String × Option Term) :=
  let value? := t.node? "value"
  let inherited? := (value?.bind name?).bind (argumentType? init)
  match t.kind with
  | "AnnAssign" =>
    ((t.node? "target").toList.filterMap selfAttribute?).map fun name =>
      (name, (t.node? "annotation").orElse fun _ => inherited?)
  | "Assign" => ((t.nodesIn "targets").filterMap selfAttribute?).map (·, inherited?)
  | _ => []

/-- The fields `known` and those that `__init__` adds to them; the first assignment to an attribute
counts. -/
def instanceFields (known : List Field) (init : Term) : List Field :=
  (init.walk.flatMap (assigned init)).foldl
    (fun fields e =>
      if fields.any (·.name == e.1) then fields else fields ++ [fieldOf e.1 e.2 none])
    known

/-! ## Classes -/

/-- The kind of type that a class is: its bases tell, then its decorators. -/
def kindOf (t : Term) : TypeKind :=
  let bases := (t.nodesIn "bases").map shortName
  let decorators := (t.nodesIn "decorator_list").flatMap fun d => [fullName d, shortName d]
  let metaclass? := (t.nodesIn "keywords").find? fun k => k.word? "arg" == some "metaclass"
  if ["Enum", "IntEnum", "StrEnum", "Flag", "IntFlag"].any bases.contains then .enum
  else if ["Protocol", "ABC"].any bases.contains ||
      (metaclass?.bind (·.node? "value")).any (shortName · == "ABCMeta") then .interface
  else if ["NamedTuple", "TypedDict", "BaseModel"].any bases.contains ||
      ["dataclass", "dataclasses.dataclass", "attr.s", "attrs.define", "define", "frozen"].any
        decorators.contains then .struct
  else .classType

/-- The type parameters of a class: those behind its name, and those that it lists behind one of its
bases. -/
def genericsOf (t : Term) : List String :=
  addNames ((t.nodesIn "type_params").filterMap (·.word? "name"))
    ((t.nodesIn "bases").flatMap fun base =>
      match base.node? "value", base.node? "slice" with
      | some head, some slice =>
        if base.kind = "Subscript" && ["Generic", "Protocol"].contains (shortName head) then
          (if slice.kind = "Tuple" then slice.nodesIn "elts" else [slice]).map (·.text)
        else []
      | _, _ => [])

/-- The types that a class is based on. -/
def basesOf (t : Term) : List String :=
  ((t.nodesIn "bases").map shortName).filter fun name =>
    !name.isEmpty && name != "object" && name != "Generic"

/-- What the statements in the body of a class declare. -/
structure Members where
  fields : List Field := []
  methods : List String := []
  variants : List String := []
  functions : List FunctionDecl := []

/-- The constants of an enumeration that a statement declares. -/
def constantsOf (t : Term) : List String :=
  let targets := match t.kind with
    | "Assign" => t.nodesIn "targets"
    | "AnnAssign" => if (t.node? "value").isSome then (t.node? "target").toList else []
    | _ => []
  (targets.filterMap name?).filter isExported

/-- The field of an annotated name in the body of a class.  A class variable is none. -/
def annotatedField? (t : Term) : Option Field :=
  if t.kind = "AnnAssign" then
    match (t.node? "target").bind name?, t.node? "annotation" with
    | some name, some hint =>
      if shortName hint = "ClassVar" then none
      else some (fieldOf name (some hint) (t.node? "value"))
    | _, _ => none
  else none

/-- Adds what a statement in the body of a class declares. -/
def Members.add (s : Source) (owner : String) (kind : TypeKind) (m : Members) (t : Term) :
    Members :=
  if isFunction t then
    if nameOf t = "__init__" then { m with fields := instanceFields m.fields t }
    else if isSecondary t then m
    else if isProperty t then
      { m with fields := m.fields ++ [fieldOf (nameOf t) (t.node? "returns") none] }
    else
      { m with
        methods := m.methods ++ [nameOf t]
        functions := m.functions ++ [readFunction s (some owner) t] }
  else if kind = .enum then { m with variants := m.variants ++ constantsOf t }
  else { m with fields := m.fields ++ (annotatedField? t).toList }

/-- A class and its methods. -/
def readClass (s : Source) (t : Term) : List Declaration :=
  let kind := kindOf t
  let members := (t.nodesIn "body").foldl (Members.add s (nameOf t) kind) {}
  .type
      { name := nameOf t
        kind
        fields := members.fields
        methods := members.methods
        variants := members.variants
        generics := genericsOf t
        implements := basesOf t
        isExported := isExported (nameOf t)
        location? := some (locationOf s t)
        doc? := docOf t
        digest? := some (digestOf s t) } ::
    members.functions.map .function

/-! ## Aliases -/

/-- The name and the target of the type alias that a statement declares. -/
def alias? (t : Term) : Option (String × Term) :=
  match t.kind with
  | "AnnAssign" =>
    match (t.node? "target").bind name?, t.node? "annotation", t.node? "value" with
    | some name, some hint, some value =>
      if shortName hint = "TypeAlias" then some (name, value) else none
    | _, _, _ => none
  | "Assign" =>
    match t.nodesIn "targets", t.node? "value" with
    | [target], some value =>
      match name? target, value.node? "func", value.nodesIn "args" with
      | some name, some callee, [_, type] =>
        if value.kind = "Call" && shortName callee = "NewType" then some (name, type) else none
      | _, _, _ => none
    | _, _ => none
  | "TypeAlias" =>
    match (t.node? "name").bind name?, t.node? "value" with
    | some name, some value => some (name, value)
    | _, _ => none
  | _ => none

/-- The alias that a statement declares. -/
def readAlias (s : Source) (t : Term) : List Declaration :=
  match alias? t with
  | none => []
  | some (name, target) =>
    [.type
      { name
        kind := .synonym
        aliasOf? := some target.text
        isExported := isExported name
        location? := some (locationOf s t)
        digest? := some (digestOf s t) }]

/-! ## Statements -/

/-- The declarations of a statement that holds no others. -/
def readPlain (s : Source) (t : Term) : List Declaration :=
  match t.kind with
  | "Import" => readImport t
  | "ImportFrom" => [.imported (readImportFrom t)]
  | "FunctionDef" | "AsyncFunctionDef" =>
    if isSecondary t then [] else [.function (readFunction s none t)]
  | "ClassDef" => readClass s t
  | "AnnAssign" | "Assign" | "TypeAlias" => readAlias s t
  | _ => []

mutual

/-- The declarations of a statement.  A handler of exceptions holds none. -/
def readStatement (s : Source) : Term → List Declaration
  | .node role kind first last text parts =>
    if ["Module", "If", "Try", "TryStar"].contains kind then readStatements s parts
    else readPlain s (.node role kind first last text parts)
  | _ => []

/-- The declarations of statements in a row. -/
def readStatements (s : Source) : List Term → List Declaration
  | [] => []
  | t :: ts => readStatement s t ++ readStatements s ts

end

/-- The source with these bytes, of which a mark of the encoding at the start is no part. -/
def source (path : String) (bytes : List UInt8) : Source :=
  { path, bytes, lines := Text.lines (Text.Utf8.decodeLossy (Text.Utf8.dropMark bytes)) }

/-- The declarations of a file. -/
def read (s : Source) (root : Term) : List Declaration := readStatement s root

end Concord.Reader.Python
