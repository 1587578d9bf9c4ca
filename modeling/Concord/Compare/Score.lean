import Concord.Number.Scalar

/-!
# Concord.Compare.Score

Scores between zero and one: the similarity of two counts, the share of matched items with half
credit for those that differ, and the weighted sum over the five dimensions of a comparison.
-/

namespace Concord

/-- One value for each dimension of a comparison. -/
structure ByDimension (α : Type) where
  structural : α
  type : α
  behavioral : α
  test : α
  idiomatic : α
deriving DecidableEq, Repr

namespace Compare

variable {α : Type} [Scalar α]

/-- The similarity of two counts: the smaller over the larger, and one if both are zero. -/
def countSimilarity (a b : Int) : α :=
  if a = 0 && b = 0 then Scalar.one
  else if a = 0 || b = 0 then Scalar.zero
  else
    let ratio : α := Scalar.quotient b a
    if Scalar.one < ratio then Scalar.one / ratio else ratio

/-- The similarity of two integers of any size, if the quotient of the second and the first is
within the range of scores.  The quotient of two list lengths always is. -/
def countSimilarity? (a b : Int) : Option α :=
  if a = 0 || Scalar.isFinite (Scalar.quotient b a : α) then some (countSimilarity a b) else none

/-- The score of `total` items of which `found` have a counterpart and `differing` of these do not
match it. -/
def matchScore (total found differing : Nat) : α :=
  if total = 0 then Scalar.one
  else
    Scalar.larger Scalar.zero
      (Scalar.quotient found total - Scalar.quotient 1 2 * Scalar.quotient differing total)

end Compare

namespace ByDimension

variable {α : Type} [Scalar α]

/-- The sum over the dimensions. -/
def total (d : ByDimension α) : α := d.structural + d.type + d.behavioral + d.test + d.idiomatic

/-- The sum of the values with their weights, kept between zero and one. -/
def weighted (scores weights : ByDimension α) : α :=
  let sum := scores.structural * weights.structural + scores.type * weights.type +
    scores.behavioral * weights.behavioral + scores.test * weights.test +
    scores.idiomatic * weights.idiomatic
  Scalar.smaller Scalar.one (Scalar.larger Scalar.zero sum)

/-- Zero in every dimension. -/
def zero : ByDimension α :=
  ⟨Scalar.zero, Scalar.zero, Scalar.zero, Scalar.zero, Scalar.zero⟩

/-- The means over some comparisons; zero if there are none. -/
def mean (scores : List (ByDimension α)) : ByDimension α :=
  if scores.isEmpty then zero
  else
    { structural := Scalar.mean (scores.map (·.structural))
      type := Scalar.mean (scores.map (·.type))
      behavioral := Scalar.mean (scores.map (·.behavioral))
      test := Scalar.mean (scores.map (·.test))
      idiomatic := Scalar.mean (scores.map (·.idiomatic)) }

end ByDimension
end Concord
