import Concord.Proofs.Spelling.Tuple
import Concord.Spelling.Returned

/-!
# Concord.Proofs.Spelling.Returned

What is returned, from the outermost layer of a return type (`returnsChars_eq`), and the layer of a
type that no deferred value surrounds: a fallible result, a tuple, or a value with a base of its own
(`returnedSettled_of_fallible`, `returnedSettled_of_not_fallible`).
-/

namespace Concord.Spelling

open Text

/-- The values that a layer returns. -/
def Returned.bases : Returned → List String
  | .nothing => []
  | .value base => [base]
  | .fallible inner => returnsChars inner ++ ["error"]
  | .several elements => elements.flatMap returnsChars

/-- What a type returns whose base says it all. -/
def valueOf (s : List Char) : Returned :=
  if (shapeChars s).base = "void" then .nothing else .value (shapeChars s).base

/-- What is returned is told by the outermost layer. -/
theorem returnsChars_eq (s : List Char) : returnsChars s = (returned s).bases := by
  rw [returnsChars]
  split <;> rename_i h <;> rw [h]
  · rfl
  · rfl
  · rfl
  · rw [Returned.bases, List.flatMap_subtype (g := returnsChars) fun _ _ => rfl,
      List.unattach_attach]

/-! ## Types that no deferred value surrounds -/

/-- A type without qualifiers whose head puts no value off is read as it stands. -/
theorem returned_eq {s : List Char} (unqualified : stripQualifiers s = s)
    (bare : isOneOf Vocabulary.deferred s = false)
    (head : isOneOf Vocabulary.deferred (generic s).head = false) :
    returned s = returnedSettled (generic s) s := by
  have here : settled s = (generic s, s) := by
    rw [settled, head]
    split <;> rfl
  rw [returned, unqualified, bare, here]
  rfl

theorem returnedSettled_of_fallible {g : Generic} {first : List Char} {rest : List (List Char)}
    (head : isOneOf fallibleHeads g.head = true) (args : g.args = first :: rest) (s : List Char) :
    returnedSettled g s = .fallible first := by
  rw [returnedSettled, head, args]

/-- What is no fallible result is a tuple or a value. -/
theorem returnedSettled_of_not_fallible {g : Generic}
    (other : isOneOf fallibleHeads g.head = false ∨ g.args = []) (s : List Char) :
    returnedSettled g s =
      match tupleElements? s with
      | some elements => .several elements
      | none => valueOf s := by
  rw [returnedSettled]
  split
  · rename_i head args
    rcases other with other | other
    · rw [other] at head
      cases head
    · rw [other] at args
      cases args
  · rfl

end Concord.Spelling
