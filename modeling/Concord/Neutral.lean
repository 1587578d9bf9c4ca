import Concord.Spelling.Returned
import Concord.Symbol

/-!
# Concord.Neutral

Functions and types without the particulars of their language: names in the compared form, types as
shapes.  This is what two implementations are compared by.
-/

namespace Concord

/-- A parameter in neutral form. -/
structure NeutralParameter where
  name : String
  type : TypeShape
  isOptional : Bool := false
  isVariadic : Bool := false
deriving DecidableEq, Repr

/-- A function in neutral form, with what is needed to refer to its declaration. -/
structure NeutralFunction where
  name : String
  parameters : List NeutralParameter := []
  returns : List String := []
  isAsync : Bool := false
  isExported : Bool := true
  complexity : Int := 1
  declaredName : String := ""
  declaredSignature : String := ""
  location : String := ""
  receiver? : Option String := none
deriving DecidableEq, Repr

/-- A field in neutral form. -/
structure NeutralField where
  name : String
  type : TypeShape
deriving DecidableEq, Repr

/-- A type in neutral form, with what is needed to refer to its declaration. -/
structure NeutralType where
  name : String
  kind : TypeKind
  fields : List NeutralField := []
  methods : List String := []
  implements : List String := []
  variants : List String := []
  isExported : Bool := true
  declaredName : String := ""
  location : String := ""
deriving DecidableEq, Repr

/-- The shape of a declared type, which may be left out: then it can be anything. -/
def declaredShape (type : String) : TypeShape :=
  if type.isEmpty then { base := "any" } else Spelling.shape type

/-- The text of a location that may be unknown. -/
def locationText (location? : Option Location) : String := (location?.map (·.text)).getD ""

/-- The neutral form of a parameter. -/
def Parameter.neutral (p : Parameter) : NeutralParameter :=
  { name := Name.normalize p.name, type := declaredShape p.type, isOptional := p.isOptional,
    isVariadic := p.isVariadic }

/-- The neutral form of a function. -/
def FunctionDecl.neutral (f : FunctionDecl) : NeutralFunction :=
  { name := Name.normalize f.name
    parameters := f.parameters.map (·.neutral)
    returns := Spelling.returns f.returns
    isAsync := f.isAsync
    isExported := f.isExported
    complexity := f.complexity
    declaredName := f.name
    declaredSignature := if f.signature.isEmpty then f.name else f.signature
    location := locationText f.location?
    receiver? := f.receiver? }

/-- The neutral form of a field: a mark on the field counts like one in the spelling of its type. -/
def Field.neutral (f : Field) : NeutralField :=
  let shape := declaredShape f.type
  { name := Name.normalize f.name
    type :=
      { base := shape.base
        isPointer := shape.isPointer || f.isPointer
        isArray := shape.isArray || f.isArray
        isMap := shape.isMap || f.isMap } }

/-- The kind by which types are compared.  Classes are structures, and so is an interface that has
fields and no methods: it describes the shape of data. -/
def TypeDecl.neutralKind (t : TypeDecl) : TypeKind :=
  match t.kind with
  | .classType | .struct => .struct
  | .interface => if !t.fields.isEmpty && t.methods.isEmpty then .struct else .interface
  | kind => kind

/-- The neutral form of a type. -/
def TypeDecl.neutral (t : TypeDecl) : NeutralType :=
  { name := Name.normalize t.name
    kind := t.neutralKind
    fields := t.fields.map (·.neutral)
    methods := t.methods.map Name.normalize
    implements := t.implements.map Name.normalize
    variants := t.variants.map Name.normalize
    isExported := t.isExported
    declaredName := t.name
    location := locationText t.location? }

/-- The neutral functions of a project, private ones left out on demand. -/
def neutralFunctions (ignoresPrivate : Bool) (functions : List FunctionDecl) :
    List NeutralFunction :=
  (functions.filter fun f => f.isExported || !ignoresPrivate).map (·.neutral)

/-- The neutral types of a project, private ones left out on demand. -/
def neutralTypes (ignoresPrivate : Bool) (types : List TypeDecl) : List NeutralType :=
  (types.filter fun t => t.isExported || !ignoresPrivate).map (·.neutral)

/-! ## Texts -/

/-- A type in one line: its kind and its name. -/
def NeutralType.describe (t : NeutralType) : String :=
  t.kind.word ++ " " ++ (if t.declaredName.isEmpty then t.name else t.declaredName)

/-- A function in one line: its name, its parameters with their types, and what it returns. -/
def NeutralFunction.describe (f : NeutralFunction) : String :=
  f.name ++ "(" ++ ", ".intercalate (f.parameters.map fun p => p.name ++ ": " ++ p.type.base) ++
    ") -> " ++ ", ".intercalate f.returns

end Concord
