import Concord.Number.Decimal
import Concord.Text.Blank
import Concord.Text.Case

/-!
# Concord.Settings.Numeral

Numbers that are given as texts.  White space around them does not count, and underscores may group
their characters: an underscore stands alone and neither first nor last.

1. A real number is a decimal with an optional exponent, an infinity or no number at all.  It has
   white space around it or underscores in it, and not both.
2. An integer has zeros in front of it, unless a minus sign leads, and a fraction of zeros behind it,
   as many as one likes.
-/

namespace Concord.Settings

/-- Takes white space off the two ends of a numeral. -/
def trimNumeral (s : List Char) : List Char := Text.trimBy Text.isSpace s

/-- A numeral without the underscores that group it. -/
def ungroup? (s : List Char) : Option (List Char) :=
  if (s.splitOn '_').all (!·.isEmpty) then some (s.filter (· ≠ '_')) else none

/-! ## Real numbers -/

/-- Takes a sign off the front of a numeral. -/
def sign (s : List Char) : Bool × List Char :=
  match s with
  | '-' :: r => (true, r)
  | '+' :: r => (false, r)
  | _ => (false, s)

/-- The number of a numeral without underscores and white space. -/
def plainNumber? (s : List Char) : Option Float :=
  let (negative, body) := sign s
  let word := String.ofList (Text.lower body)
  if word = "inf" || word = "infinity" then some (if negative then -1 / 0 else 1 / 0)
  else if word = "nan" then some (0 / 0)
  else
    let whole := body.takeWhile Char.isDigit
    let rest := body.dropWhile Char.isDigit
    let (fraction, rest) := match rest with
      | '.' :: t => (t.takeWhile Char.isDigit, t.dropWhile Char.isDigit)
      | _ => ([], rest)
    let (exponent, rest) := Number.readExponent rest
    if rest.isEmpty && !(whole.isEmpty && fraction.isEmpty) then
      some (Number.Reading.toFloat ⟨negative, whole, fraction, exponent.getD 0, true⟩)
    else none

/-- The number that a text spells. -/
def readNumber? (s : List Char) : Option Float :=
  plainNumber? (trimNumeral s) <|> (ungroup? s).bind plainNumber?

/-! ## Integers -/

/-- The natural number of a numeral without leading zeros. -/
def plainNatural? (s : List Char) : Option Nat :=
  if s = ['0'] then some 0
  else if s.isEmpty || s.head? = some '0' || !s.all Char.isDigit then none
  else some (Number.digitsValue 0 s)

/-- The integer of a numeral without leading zeros, perhaps with a minus sign. -/
def plainInteger? : List Char → Option Int
  | '-' :: r => (plainNatural? r).map fun n => -n
  | s => (plainNatural? s).map fun n => n

/-- What is left of a numeral behind leading zeros and the underscores among them, the last of which
is `last`.  It is kept if no further digit follows. -/
def behindZeros? (last : Char) : List Char → Option (List Char)
  | [] => some [last]
  | c :: r =>
    if c = '0' || c = '_' then behindZeros? c r
    else if c.isDigit then some (c :: r)
    else if c = '.' then some (last :: c :: r)
    else none

/-- A numeral without leading zeros; nothing is taken from behind a minus sign. -/
def dropLeadingZeros? : List Char → Option (List Char)
  | [] => none
  | c :: r => if c = '0' then behindZeros? c r else if c.isDigit || c = '-' then some (c :: r) else none

/-- A numeral without a plus sign, behind which no minus sign may follow. -/
def dropPlus? : List Char → Option (List Char)
  | '+' :: '-' :: _ => none
  | '+' :: r => some r
  | s => some s

/-- A numeral without a fraction of zeros. -/
def dropZeroFraction (s : List Char) : List Char :=
  match s.dropWhile (· ≠ '.') with
  | _ :: fraction => if fraction.all (· = '0') then s.takeWhile (· ≠ '.') else s
  | [] => s

/-- The integer that a text spells. -/
def readInteger? (s : List Char) : Option Int := do
  let unsigned ← dropPlus? (trimNumeral s)
  let significant ← dropLeadingZeros? unsigned
  plainInteger? (← ungroup? (dropZeroFraction significant))

end Concord.Settings
