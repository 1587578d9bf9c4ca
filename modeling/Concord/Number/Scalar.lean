import Concord.Number.Decimal

/-!
# Concord.Number.Scalar

The arithmetic in which scores are computed.  Scores are floating-point numbers when the library
runs and rational numbers where their exact laws are stated; everything that computes with scores
asks for no more than this class.
-/

namespace Concord

-- Powers of naturals are those of the core library, whatever else is imported.
attribute [local instance (high)] instPowNat

/-- Numbers that scores can be. -/
class Scalar (α : Type) extends Add α, Sub α, Mul α, Div α, LE α, LT α where
  /-- The number of a count. -/
  ofNat : Nat → α
  /-- The quotient of two integers, the second not zero. -/
  quotient : Int → Int → α
  /-- The least integer that is not below a number, if there is one. -/
  ceiling? : α → Option Int
  /-- A number rounded to a count of decimals. -/
  roundTo : Nat → α → α
  /-- The text of a number with a count of decimals. -/
  fixed : Nat → α → String
  decidableLE : DecidableRel (α := α) (· ≤ ·)
  decidableLT : DecidableRel (α := α) (· < ·)

namespace Scalar

attribute [reducible, instance] Scalar.decidableLE Scalar.decidableLT

variable {α : Type} [Scalar α]

/-- Zero. -/
def zero : α := ofNat 0

/-- One. -/
def one : α := ofNat 1

/-- The larger of two numbers. -/
def larger (a b : α) : α := if a < b then b else a

/-- The smaller of two numbers. -/
def smaller (a b : α) : α := if b < a then b else a

/-- The distance from zero. -/
def abs (a : α) : α := if a < zero then zero - a else a

/-- The sum of a list, added up from the left. -/
def sum (xs : List α) : α := xs.foldl (· + ·) zero

/-- The mean of a list, for a list that is not empty. -/
def mean (xs : List α) : α := sum xs / ofNat xs.length

/-- Whether a number is finite: then some integer is not below it. -/
def isFinite (a : α) : Bool := (ceiling? a).isSome

/-- A share of one as a percentage with one decimal. -/
def percent (a : α) : String := fixed 1 (a * ofNat 100) ++ "%"

end Scalar

/-- The bound below which a floating-point number holds every natural number. -/
def Number.exactBound : Nat := 2 ^ (fractionBits + 1)

/-- The quotient of two integers as the nearest floating-point number. -/
def Number.floatQuotient (a b : Int) : Float :=
  if a.natAbs < exactBound && b.natAbs < exactBound then Float.ofInt a / Float.ofInt b
  else Number.floatOfRat (mkRat (if b < 0 then -a else a) b.natAbs)

/-- The least integer that is not below a finite number. -/
def Number.floatCeiling? (x : Float) : Option Int :=
  (Number.Binary.ofFloat? x).map fun b => b.value.ceil

instance : Scalar Float where
  ofNat := Float.ofNat
  quotient := Number.floatQuotient
  ceiling? := Number.floatCeiling?
  roundTo := Number.roundTo
  fixed := Number.fixed
  decidableLE := Float.decLe
  decidableLT := Float.decLt

instance : Scalar Rat where
  ofNat n := n
  quotient a b := a / b
  ceiling? q := some q.ceil
  roundTo places q := Number.roundHalfEven (q * 10 ^ places) / 10 ^ places
  fixed := Number.fixedRat
  decidableLE := fun a b => inferInstanceAs (Decidable (a ≤ b))
  decidableLT := fun a b => inferInstanceAs (Decidable (a < b))

end Concord
