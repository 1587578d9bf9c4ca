import Concord.Text.PrintTable

/-!
# Concord.Text.Quoted

A text as a quoted literal, so that a message shows exactly which characters it holds.

1. The quote mark is an apostrophe.  A text with apostrophes and without double quotes stands
   between double quotes.
2. A backslash stands in front of the quote mark and of the backslash.
3. Tab, line feed and carriage return have escapes of one letter.
4. Every other character that cannot be shown is given by its code point, in two, four or eight
   hexadecimal digits, whichever are enough.
-/

namespace Concord.Text

/-- Characters that a literal shows as they are. -/
def isPrintable (c : Char) : Bool := !Run.mem c.toNat PrintTable.unprintable

/-- The last `count` hexadecimal digits of a number. -/
def hexDigits : Nat → Nat → List Char
  | 0, _ => []
  | count + 1, n => hexDigits count (n / 16) ++ [Nat.digitChar (n % 16)]

/-- The escape of a code point. -/
def escapeCodePoint (n : Nat) : List Char :=
  if n < 0x100 then ['\\', 'x'] ++ hexDigits 2 n
  else if n < 0x10000 then ['\\', 'u'] ++ hexDigits 4 n
  else ['\\', 'U'] ++ hexDigits 8 n

/-- A character inside a literal with the quote mark `mark`. -/
def literalChar (mark c : Char) : List Char :=
  if c = mark || c = '\\' then ['\\', c]
  else if c = '\t' then ['\\', 't']
  else if c = '\n' then ['\\', 'n']
  else if c = '\r' then ['\\', 'r']
  else if isPrintable c then [c]
  else escapeCodePoint c.toNat

/-- The quote mark for a text. -/
def quoteMark (s : List Char) : Char :=
  if s.contains '\x27' && !s.contains '"' then '"' else '\x27'

/-- A text as a literal. -/
def quoted (s : String) : String :=
  let mark := quoteMark s.toList
  String.ofList (mark :: s.toList.flatMap (literalChar mark) ++ [mark])

end Concord.Text
