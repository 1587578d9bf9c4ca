import Concord.Number.Binary

/-!
# Concord.Number.Decimal

Decimal texts of numbers.  `fixed` writes a number with a fixed count of decimals, rounded
correctly from the exact value with a half going to the even neighbour.  `shortest` writes the
fewest digits that read back as the same floating-point number, and of these the nearest, the even
one of two.  `readNumber` reads a decimal at the front of a text.
-/

namespace Concord.Number

-- Powers of naturals are those of the core library, whatever else is imported.
attribute [local instance (high)] instPowNat

/-! ## A fixed count of decimals -/

/-- The decimal digits of `n`, at least `width` of them. -/
def digits (width n : Nat) : String :=
  let s := toString n
  String.ofList (List.replicate (width - s.length) '0') ++ s

/-- A number that is not negative with the given count of decimals. -/
def fixedMagnitude (places : Nat) (q : Rat) : String :=
  let scaled := (roundHalfEven (q * 10 ^ places)).toNat
  let whole := toString (scaled / 10 ^ places)
  if places = 0 then whole else whole ++ "." ++ digits places (scaled % 10 ^ places)

/-- A rational number with the given count of decimals. -/
def fixedRat (places : Nat) (q : Rat) : String :=
  if q < 0 then "-" ++ fixedMagnitude places (-q) else fixedMagnitude places q

/-- The text of a number that is not finite. -/
def nonFinite (x : Float) : String := if x.isNaN then "nan" else if x < 0 then "-inf" else "inf"

/-- A floating-point number with the given count of decimals.  The sign is kept, also that of
zero. -/
def fixed (places : Nat) (x : Float) : String :=
  match Binary.ofFloat? x with
  | none => nonFinite x
  | some b => (if b.isNegative then "-" else "") ++ fixedMagnitude places b.magnitude

/-- A floating-point number rounded to the given count of decimals. -/
def roundTo (places : Nat) (x : Float) : Float :=
  match Binary.ofFloat? x with
  | none => x
  | some b =>
    nearestFloat b.isNegative (roundHalfEven (b.magnitude * 10 ^ places) / 10 ^ places)

/-! ## The fewest digits -/

/-- `10 ^ e`. -/
def tenPower (e : Int) : Rat := if 0 ≤ e then (10 : Rat) ^ e.toNat else 1 / (10 : Rat) ^ (-e).toNat

/-- The exponent of the first digit of a positive number, found from `e` downwards. -/
def leadingExponent (q : Rat) : Nat → Int → Int
  | 0, e => e
  | fuel + 1, e => if tenPower e ≤ q then e else leadingExponent q fuel (e - 1)

/-- Whether all of the value's neighbourhood that reads as `b` contains `q`. -/
def Binary.readsFrom (b : Binary) (q : Rat) : Bool :=
  let unit := twoPower b.exponent
  let gap :=
    if b.significand = 2 ^ fractionBits && leastExponent < b.exponent then unit / 4 else unit / 2
  let low := b.magnitude - gap
  let high := b.magnitude + unit / 2
  if b.significand % 2 = 0 then low ≤ q && q ≤ high else low < q && q < high

/-- The nearest number with `count` digits that reads as `b`, the even one of two, as an integer at
the exponent `lead - count + 1`. -/
def Binary.candidate? (b : Binary) (lead : Int) (count : Nat) : Option (Nat × Int) :=
  let e := lead - count + 1
  let unit := tenPower e
  let low := (b.magnitude / unit).floor.toNat
  let reads (n : Nat) : Bool := b.readsFrom (n * unit)
  match reads low, reads (low + 1) with
  | true, true =>
    some ((roundHalfEven (b.magnitude / unit)).toNat, e)
  | true, false => some (low, e)
  | false, true => some (low + 1, e)
  | false, false => none

/-- The digits of a number without trailing zeros, and the exponent of its last digit. -/
def dropZeros : Nat → Nat → Int → Nat × Int
  | 0, n, e => (n, e)
  | fuel + 1, n, e => if n ≠ 0 && n % 10 = 0 then dropZeros fuel (n / 10) (e + 1) else (n, e)

/-- Writes an integer at an exponent: positional for exponents of the first digit from -4 to 15,
with at least one decimal, and otherwise with an exponent of at least two digits. -/
def layout (n : Nat) (e : Int) : String :=
  let s := toString n
  let lead := e + s.length - 1
  if -4 ≤ lead && lead < 16 then
    if 0 ≤ e then toString (n * 10 ^ e.toNat) ++ ".0" else fixedMagnitude (-e).toNat (n * tenPower e)
  else
    let mantissa := String.ofList (s.toList.take 1) ++
      (if s.length = 1 then "" else "." ++ String.ofList (s.toList.drop 1))
    mantissa ++ (if lead < 0 then "e-" else "e+") ++ digits 2 lead.natAbs

/-- The fewest digits that read back as the number, and of these the nearest to it. -/
def shortest (x : Float) : String :=
  match Binary.ofFloat? x with
  | none => nonFinite x
  | some b =>
    let sign := if b.isNegative then "-" else ""
    if b.significand = 0 then sign ++ "0.0"
    else
      let lead := leadingExponent b.magnitude 700 310
      match (List.range 17).findSome? fun i => b.candidate? lead (i + 1) with
      | some (n, e) =>
        let (n, e) := dropZeros 17 n e
        sign ++ layout n e
      | none => sign ++ "0.0"

/-! ## Reading -/

/-- The value of a list of decimal digits behind the digits that make `acc`. -/
def digitsValue (acc : Nat) : List Char → Nat
  | [] => acc
  | c :: r => digitsValue (10 * acc + (c.toNat - '0'.toNat)) r

/-- The number `n * 10 ^ e` as a floating-point number. -/
def ofScientific (isNegative : Bool) (n : Nat) (e : Int) : Float :=
  let lead := e + (toString n).length
  if n = 0 || lead < -400 then nearestFloat isNegative 0
  else if 400 < lead then nearestFloat isNegative (twoPower 1100)
  else nearestFloat isNegative (n * tenPower e)

/-- A number read from the front of a text. -/
structure Reading where
  isNegative : Bool
  whole : List Char
  fraction : List Char
  exponent : Int
  /-- Whether a fraction or an exponent was written. -/
  isReal : Bool

/-- The value as a floating-point number. -/
def Reading.toFloat (r : Reading) : Float :=
  ofScientific r.isNegative (digitsValue 0 (r.whole ++ r.fraction))
    (r.exponent - r.fraction.length)

/-- The value as an integer, for a number without fraction and exponent. -/
def Reading.toInt (r : Reading) : Int :=
  let n : Int := digitsValue 0 r.whole
  if r.isNegative then -n else n

/-- Reads an exponent, if one is written, with what follows it. -/
def readExponent (s : List Char) : Option Int × List Char :=
  match s with
  | c :: r =>
    if c = 'e' || c = 'E' then
      let (negative, body) := match r with
        | '-' :: t => (true, t)
        | '+' :: t => (false, t)
        | t => (false, t)
      let ds := body.takeWhile Char.isDigit
      if ds.isEmpty then (none, s)
      else
        let n : Int := digitsValue 0 (ds.dropWhile (· = '0') |>.take 6)
        (some (if negative then -n else n), body.dropWhile Char.isDigit)
    else (none, s)
  | [] => (none, s)

/-- Reads digits with an optional fraction and an optional exponent from the front of a text. -/
def readNumber (isNegative : Bool) (s : List Char) : Reading × List Char :=
  let whole := s.takeWhile Char.isDigit
  let rest := s.dropWhile Char.isDigit
  let (fraction, rest) := match rest with
    | '.' :: t =>
      if (t.takeWhile Char.isDigit).isEmpty then ([], rest)
      else (t.takeWhile Char.isDigit, t.dropWhile Char.isDigit)
    | _ => ([], rest)
  let (exponent, rest) := readExponent rest
  (⟨isNegative, whole, fraction, exponent.getD 0, !fraction.isEmpty || exponent.isSome⟩, rest)

end Concord.Number
