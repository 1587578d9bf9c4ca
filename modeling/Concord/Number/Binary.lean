/-!
# Concord.Number.Binary

The exact value of a floating-point number and the floating-point number nearest to an exact value.
A finite number is an integer of at most 53 bits times a power of two whose exponent is at least
`leastExponent`; a value halfway between two of them goes to the one with the even integer.
-/

namespace Concord.Number

-- Powers of naturals are those of the core library, whatever else is imported.
attribute [local instance (high)] instPowNat

/-- The bits of a number that hold its fraction. -/
def fractionBits : Nat := 52

/-- The bits of a number that hold its exponent. -/
def exponentBits : Nat := 11

/-- The exponent of the smallest positive number. -/
def leastExponent : Int := -1074

/-- `2 ^ e`. -/
def twoPower (e : Int) : Rat := if 0 ≤ e then (2 : Rat) ^ e.toNat else 1 / (2 : Rat) ^ (-e).toNat

/-- A finite floating-point number: its sign, its integer and its exponent. -/
structure Binary where
  isNegative : Bool
  significand : Nat
  exponent : Int
deriving DecidableEq, Repr

/-- The parts of a number that is finite. -/
def Binary.ofFloat? (x : Float) : Option Binary :=
  let bits := x.toBits.toNat
  let isNegative := bits / 2 ^ (fractionBits + exponentBits) == 1
  let exponent := bits / 2 ^ fractionBits % 2 ^ exponentBits
  let fraction := bits % 2 ^ fractionBits
  if exponent == 2 ^ exponentBits - 1 then none
  else if exponent == 0 then some ⟨isNegative, fraction, leastExponent⟩
  else some ⟨isNegative, 2 ^ fractionBits + fraction, leastExponent + (exponent - 1 : Nat)⟩

/-- The distance from zero. -/
def Binary.magnitude (b : Binary) : Rat := b.significand * twoPower b.exponent

/-- The exact value. -/
def Binary.value (b : Binary) : Rat := if b.isNegative then -b.magnitude else b.magnitude

/-- The integer nearest to `q`, the even one of two. -/
def roundHalfEven (q : Rat) : Int :=
  let low := q.floor
  let rest := q - low
  if rest < 1 / 2 then low
  else if 1 / 2 < rest then low + 1
  else if low % 2 = 0 then low else low + 1

/-- The exponent at which a positive value has an integer part of 53 bits, within the range of
exponents. -/
def exponentFor (q : Rat) : Int :=
  let guess := (q.num.toNat.log2 : Int) - q.den.log2 - 52
  let e := if q < twoPower (guess + 52) then guess - 1 else guess
  max e leastExponent

/-- The floating-point number nearest to a value, with the sign given for zero. -/
def nearestFloat (isNegative : Bool) (magnitude : Rat) : Float :=
  let sign := if isNegative then 2 ^ (fractionBits + exponentBits) else 0
  if magnitude ≤ 0 then Float.ofBits (UInt64.ofNat sign)
  else
    let e := exponentFor magnitude
    let m := (roundHalfEven (magnitude / twoPower e)).toNat
    -- A significand that was rounded up to 54 bits carries into the exponent field by itself.
    let bits :=
      if m < 2 ^ fractionBits then m else (e - leastExponent).toNat * 2 ^ fractionBits + m
    Float.ofBits (UInt64.ofNat (sign + min bits ((2 ^ exponentBits - 1) * 2 ^ fractionBits)))

/-- The floating-point number nearest to a rational number. -/
def floatOfRat (q : Rat) : Float := nearestFloat (q < 0) (if q < 0 then -q else q)

end Concord.Number
