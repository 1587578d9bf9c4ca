import Concord.Syntax.Term
import Concord.Text.Line

/-!
# Concord.Reader.Python.Expression

What expressions say that stand for types, decorators and calls: the name that they are about, and
the members of a tuple of types.
-/

namespace Concord.Reader.Python

mutual

/-- The segments of the dotted name that an expression is about.  A call is about what it calls, a
subscript about what it is applied to. -/
def dotted : Term → List String
  | .node _ kind _ _ _ parts =>
    match kind with
    | "Name" => ownName "id" parts
    | "Attribute" => dottedIn "value" parts ++ ownName "attr" parts
    | "Call" => dottedIn "func" parts
    | "Subscript" => dottedIn "value" parts
    | _ => []
  | _ => []

/-- The dotted name of the first of the parts in a role. -/
def dottedIn (role : String) : List Term → List String
  | [] => []
  | t :: ts => if t.role = role then dotted t else dottedIn role ts

/-- The word among the parts in a role. -/
def ownName (role : String) : List Term → List String
  | [] => []
  | .word r w :: ts => if r = role then [w] else ownName role ts
  | _ :: ts => ownName role ts

end

/-- The last segment of the name that an expression is about. -/
def shortName (t : Term) : String := (dotted t).getLastD ""

/-- The name that an expression is about, in full. -/
def fullName (t : Term) : String := ".".intercalate (dotted t)

/-- The text of an expression that may not be there, in which case it is empty. -/
def text? (t? : Option Term) : String := (t?.map (·.text)).getD ""

/-- Whether an expression is an ellipsis. -/
def isEllipsis : Term → Bool
  | .literal _ _ .ellipsis => true
  | _ => false

/-- The members of a tuple of types.  A tuple of any length is none of them. -/
def tupleMembers? (hint : Term) : Option (List String) :=
  if hint.kind = "Subscript" then
    match hint.node? "value", hint.node? "slice" with
    | some head, some slice =>
      let members := slice.nodesIn "elts"
      if ["tuple", "Tuple"].contains (shortName head) && slice.kind = "Tuple" &&
          !members.any isEllipsis then
        some (members.map (·.text))
      else none
    | _, _ => none
  else none

/-- The types of the values that a function with this annotation returns. -/
def returnedTypes (hint : String) (t? : Option Term) : List String :=
  (t?.bind tupleMembers?).getD [hint]

/-- The documentation of a class or a function: the text that is its first statement. -/
def docOf (t : Term) : Option String :=
  match (t.nodesIn "body").head? with
  | none => none
  | some statement =>
    if statement.kind = "Expr" then
      match statement.node? "value" with
      | some (.literal _ _ (.text s)) => some (String.ofList (Text.cleanDoc s.toList))
      | _ => none
    else none

/-- The name of an expression that is a name. -/
def name? (t : Term) : Option String := if t.kind = "Name" then t.word? "id" else none

end Concord.Reader.Python
