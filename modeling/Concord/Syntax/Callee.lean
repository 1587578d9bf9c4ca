import Concord.Text.Blank
import Concord.Text.Cut

/-!
# Concord.Syntax.Callee

The bare names in the texts of calls and of types: the last segment of a path, without type
arguments, call arguments and pointer marks.
-/

namespace Concord.Syntax

open Text

/-- Whether `c` is an angle bracket. -/
def isAngle (c : Char) : Bool := c = '<' || c = '>'

/-- The text without the angle brackets that hold no others, and what they hold. -/
def dropAngles : List Char → List Char
  | [] => []
  | c :: r =>
    if c = '<' then
      match _h : r.dropWhile (fun c => !isAngle c) with
      | '>' :: rest => dropAngles rest
      | _ => c :: dropAngles r
    else c :: dropAngles r
termination_by s => s.length
decreasing_by
  · have := (List.dropWhile_suffix (l := r) fun c => !isAngle c).length_le
    rw [_h] at this
    simp only [List.length_cons] at this ⊢
    omega
  all_goals simp

/-- The segments of a path between `::`, `.`, `->` and `?.`. -/
def pathSegments : List Char → List (List Char)
  | [] => [[]]
  | ':' :: ':' :: r => [] :: pathSegments r
  | '.' :: r => [] :: pathSegments r
  | '-' :: '>' :: r => [] :: pathSegments r
  | '?' :: '.' :: r => [] :: pathSegments r
  | c :: r => consFirst c (pathSegments r)

/-- The name of what is called, from the text in front of the arguments. -/
def calleeName (s : List Char) : List Char :=
  let path := upTo '(' (dropAngles (trim s))
  trim (((pathSegments path).filter (· ≠ [])).getLastD [])

/-- The name of a type without pointer marks, package and type arguments. -/
def baseTypeName (s : List Char) : List Char :=
  let s := trim ((trim s).dropWhile fun c => c = '*' || c = '&')
  let s := (after? "mut " s).getD s
  calleeName (upTo '[' (upTo '<' s))

/-- What stands in front of the type arguments. -/
def typeHead (s : List Char) : String := String.ofList (trim (upTo '<' s))

/-- The type in an annotation `: type`. -/
def annotatedType (s : List Char) : List Char :=
  let s := trim s
  trim ((after? ":" s).getD s)

end Concord.Syntax
