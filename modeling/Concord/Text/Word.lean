import Concord.Text.WordTable

/-!
# Concord.Text.Word

The characters that words, numbers and identifiers are made of, in every script.
-/

namespace Concord.Text

/-- Letters, numbers and the underscore. -/
def isWordChar (c : Char) : Bool := c = '_' || Run.mem c.toNat WordTable.alphanumeric

/-- Decimal digits of every script. -/
def isDecimal (c : Char) : Bool := Run.mem c.toNat WordTable.decimal

/-- Digits, superscripts and the like included. -/
def isDigit (c : Char) : Bool := Run.mem c.toNat WordTable.digit

/-- Characters that may begin an identifier. -/
def isIdentifierStart (c : Char) : Bool := c = '_' || Run.mem c.toNat WordTable.identifierStart

/-- Characters that may stand in an identifier. -/
def isIdentifierChar (c : Char) : Bool :=
  isIdentifierStart c || Run.mem c.toNat WordTable.identifierExtend

/-- Whether `s` is an identifier: it is not empty, and its first character may begin one. -/
def isIdentifier : List Char → Bool
  | [] => false
  | c :: r => isIdentifierStart c && r.all isIdentifierChar

/-- The letters `A` to `Z`. -/
def isAsciiUpper (c : Char) : Bool := 'A' ≤ c && c ≤ 'Z'

/-- The letters `a` to `z`. -/
def isAsciiLower (c : Char) : Bool := 'a' ≤ c && c ≤ 'z'

/-- The letters of ASCII and the underscore. -/
def isAsciiNameStart (c : Char) : Bool := isAsciiUpper c || isAsciiLower c || c = '_'

end Concord.Text
