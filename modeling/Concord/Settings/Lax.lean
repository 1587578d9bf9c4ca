import Concord.Settings.Check
import Concord.Settings.Numeral

/-!
# Concord.Settings.Lax

The lax coercions.  Numbers and truth values may be given as texts, truth values as numbers, and
numbers as truth values; a float may stand for an integer that it equals.
-/

namespace Concord.Settings

open Document

-- Powers of integers are those of the core library, whatever else is imported.
attribute [local instance (high)] instPowNat

/-- A number. -/
def number : Value → Checked Float
  | .float x => .valid x
  | .int n =>
    let x := Number.floatQuotient n 1
    if x.isFinite then .valid x else .fail .noNumber
  | .bool b => .valid (if b then 1 else 0)
  | .text s =>
    match readNumber? s.toList with
    | some x => .valid x
    | none => .fail .unreadableNumber
  | _ => .fail .noNumber

/-- The bits of a machine integer without its sign. -/
def integerBits : Nat := 63

/-- The integers that a float may stand for. -/
def isFloatInteger (n : Int) : Bool := -2 ^ integerBits < n && n < 2 ^ integerBits

/-- The number of bytes that the text of an integer may have. -/
def longestInteger : Nat := 4300

/-- An integer. -/
def integer : Value → Checked Int
  | .int n => .valid n
  | .bool b => .valid (if b then 1 else 0)
  | .float x =>
    match Number.Binary.ofFloat? x with
    | some b =>
      if b.value.den ≠ 1 then .fail .fractional
      else if isFloatInteger b.value.num then .valid b.value.num
      else .fail .outOfRange
    | none => .fail .notFinite
  | .text s =>
    if longestInteger < s.utf8ByteSize then .fail .outOfRange
    else
      match readInteger? s.toList with
      | some n => .valid n
      | none => .fail .unreadableInteger
  | _ => .fail .noInteger

/-- Words for the two truth values. -/
def truthWords : List (Bool × List String) :=
  [(false, ["0", "off", "f", "false", "n", "no"]), (true, ["1", "on", "t", "true", "y", "yes"])]

/-- A truth value. -/
def truth : Value → Checked Bool
  | .bool b => .valid b
  | .int n =>
    if n = 0 then .valid false
    else if n = 1 then .valid true
    else if -2 ^ integerBits ≤ n && n < 2 ^ integerBits then .fail .unreadableTruthValue
    else .fail .noTruthValue
  | .float x =>
    if x == 0 then .valid false
    else if x == 1 then .valid true
    else match Number.Binary.ofFloat? x with
      | some b =>
        if b.value.den = 1 && isFloatInteger b.value.num then .fail .unreadableTruthValue
        else .fail .noTruthValue
      | none => .fail .noTruthValue
  | .text s =>
    match truthWords.find? (·.2.contains (String.ofList (Text.lower s.toList))) with
    | some (b, _) => .valid b
    | none => .fail .unreadableTruthValue
  | _ => .fail .noTruthValue

/-- A text. -/
def text : Value → Checked String
  | .text s => .valid s
  | _ => .fail .noText

/-- The lax coercions. -/
def Coercions.lax : Coercions where
  number := Settings.number
  integer := Settings.integer
  truth := Settings.truth
  text := Settings.text

end Concord.Settings
