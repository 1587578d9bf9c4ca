import Concord.Reader.Python.Expression
import Concord.Symbol

/-!
# Concord.Reader.Python.Argument

Parameters of Python functions.  The defaults of the arguments that may be given by position are
listed together and belong to the last of them; each argument that has to be given by name has a
place for its own default.
-/

namespace Concord.Reader.Python

/-- An argument with its annotation. -/
structure Argument where
  name : String
  hint? : Option Term

/-- The arguments of a function. -/
structure Arguments where
  positionalOnly : List Argument
  ordinary : List Argument
  defaults : List Term
  rest? : Option Argument
  keywordOnly : List Argument
  keywordDefaults : List (Option Term)
  keywordRest? : Option Argument

/-- The argument that a node declares. -/
def Argument.ofTerm (t : Term) : Argument := ⟨(t.word? "arg").getD "", t.node? "annotation"⟩

namespace Arguments

/-- The arguments that a node lists. -/
def ofTerm (t : Term) : Arguments :=
  { positionalOnly := (t.nodesIn "posonlyargs").map .ofTerm
    ordinary := (t.nodesIn "args").map .ofTerm
    defaults := t.nodesIn "defaults"
    rest? := (t.node? "vararg").map .ofTerm
    keywordOnly := (t.nodesIn "kwonlyargs").map .ofTerm
    keywordDefaults := t.placesIn "kw_defaults"
    keywordRest? := (t.node? "kwarg").map .ofTerm }

/-- The arguments that may be given by position. -/
def positional (a : Arguments) : List Argument := a.positionalOnly ++ a.ordinary

/-- These arguments with their defaults. -/
def positionalPairs (a : Arguments) : List (Argument × Option Term) :=
  a.positional.zip
    (List.replicate (a.positional.length - a.defaults.length) none ++ a.defaults.map some)

/-- The parameter of an argument with its default. -/
def parameter (p : Argument × Option Term) : Parameter :=
  { name := p.1.name
    type := text? p.1.hint?
    isOptional := p.2.isSome
    default? := p.2.map (·.text) }

/-- The parameter that takes any number of arguments, all of the annotated type. -/
def restParameter (before behind : String) (a : Argument) : Parameter :=
  let type := text? a.hint?
  { name := a.name
    type := if type.isEmpty then "" else before ++ type ++ behind
    isVariadic := true }

/-- Whether an argument is called like the object or the class that a method belongs to. -/
def isReceiver (a : Argument) : Bool := a.name == "self" || a.name == "cls"

/-- The pairs without a first argument for the object or the class. -/
def dropReceiver : List (Argument × Option Term) → List (Argument × Option Term)
  | [] => []
  | p :: ps => if isReceiver p.1 then ps else p :: ps

/-- The parameters of a function, of a bound method without the one for its object or class. -/
def parameters (a : Arguments) (isBound : Bool) : List Parameter :=
  (if isBound then dropReceiver a.positionalPairs else a.positionalPairs).map parameter ++
    (a.rest?.map (restParameter "list[" "]")).toList ++
    (a.keywordOnly.zip a.keywordDefaults).map parameter ++
    (a.keywordRest?.map (restParameter "dict[str, " "]")).toList

end Arguments
end Concord.Reader.Python
