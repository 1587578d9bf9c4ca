import Concord.Neutral

/-!
# Concord.Compare.Match

When a function or a type agrees with its counterpart, and in what it differs if not.  There is no
difference exactly if the two match.
-/

namespace Concord.Compare

/-- The bases that the base `number` may stand for. -/
def numeric : List String := ["number", "integer", "float"]

/-- Whether two canonical bases may be the same type.  `number` is compatible with integers and
floating-point numbers, which are not compatible with each other. -/
def compatible (a b : String) : Bool :=
  a == b || ((a == "number" || b == "number") && numeric.contains a && numeric.contains b)

/-! ## Functions -/

/-- The differences between a function and its counterpart. -/
inductive FunctionDifference where
  | name
  | parameterCount
  | parameterType (parameter : String)
  | parameterPointer (parameter : String)
  | returnCount
  | returnType
  | async
deriving DecidableEq, Repr

/-- The text of a difference. -/
def FunctionDifference.text : FunctionDifference → String
  | name => "name mismatch"
  | parameterCount => "parameter count mismatch"
  | parameterType p => "parameter type mismatch: " ++ p
  | parameterPointer p => "parameter pointer mismatch: " ++ p
  | returnCount => "return type count mismatch"
  | returnType => "return type mismatch"
  | async => "async mismatch"

/-- The differences between two parameters at one position. -/
def parameterDifferences (isStrict : Bool) (a b : NeutralParameter) : List FunctionDifference :=
  (if compatible a.type.base b.type.base then [] else [.parameterType a.name]) ++
    (if isStrict && a.type.isPointer != b.type.isPointer then [.parameterPointer a.name] else [])

/-- The differences between what two functions return. -/
def returnDifferences (a b : List String) : List FunctionDifference :=
  if a.length ≠ b.length then [.returnCount]
  else (List.zip a b).filterMap fun (x, y) => if compatible x y then none else some .returnType

/-- The differences between a function and its counterpart.  Parameters are compared by position as
far as both lists reach; pointers and asynchrony count in strict mode only. -/
def functionDifferences (isStrict : Bool) (a b : NeutralFunction) : List FunctionDifference :=
  if a.name ≠ b.name then [.name]
  else
    (if a.parameters.length ≠ b.parameters.length then [.parameterCount] else []) ++
      (List.zip a.parameters b.parameters).flatMap (fun (p, q) => parameterDifferences isStrict p q) ++
      returnDifferences a.returns b.returns ++
      (if isStrict && a.isAsync != b.isAsync then [.async] else [])

/-! ## Types -/

/-- The differences between a type and its counterpart. -/
inductive TypeDifference where
  | name
  | kind (reference counterpart : TypeKind)
  | fieldCount
  | missingField (field : String)
  | fieldType (field : String)
  | methodCount
deriving DecidableEq, Repr

/-- The text of a difference. -/
def TypeDifference.text : TypeDifference → String
  | name => "name mismatch"
  | kind a b => "kind mismatch: " ++ a.word ++ " vs " ++ b.word
  | fieldCount => "field count mismatch"
  | missingField f => "missing field: " ++ f
  | fieldType f => "field type mismatch: " ++ f
  | methodCount => "method count mismatch"

/-- The difference between a field of the counterpart and the last field of that name in the
reference. -/
def fieldDifference? (reference : List NeutralField) (f : NeutralField) : Option TypeDifference :=
  match reference.reverse.find? (·.name == f.name) with
  | none => some (.missingField f.name)
  | some r => if compatible r.type.base f.type.base then none else some (.fieldType f.name)

/-- The differences between a type and its counterpart.  Fields are compared by name; the number of
methods counts in strict mode only. -/
def typeDifferences (isStrict : Bool) (a b : NeutralType) : List TypeDifference :=
  if a.name ≠ b.name then [.name]
  else
    (if a.kind ≠ b.kind then [.kind a.kind b.kind] else []) ++
      (if a.fields.length ≠ b.fields.length then [.fieldCount] else []) ++
      b.fields.filterMap (fieldDifference? a.fields) ++
      (if isStrict && a.methods.length ≠ b.methods.length then [.methodCount] else [])

end Concord.Compare
