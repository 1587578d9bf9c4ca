import Concord.Document.Value
import Concord.Number.Decimal

/-!
# Concord.Document.Json

Reading JSON documents.  Besides the standard's values the words `NaN`, `Infinity` and `-Infinity`
are numbers, and an integer has at most `longestInteger` digits.  Of several entries with one key
the last counts, in the place of the first.  Control characters have to be escaped; an escaped
surrogate without its partner is read as a replacement character.
-/

namespace Concord.Document.Json

/-- Passes over white space. -/
def skip (s : List Char) : List Char :=
  s.dropWhile fun c => c = ' ' || c = '\t' || c = '\n' || c = '\r'

/-- The value of a hexadecimal digit. -/
def hexDigit? (c : Char) : Option Nat :=
  if '0' ≤ c && c ≤ '9' then some (c.toNat - 48)
  else if 'a' ≤ c && c ≤ 'f' then some (c.toNat - 87)
  else if 'A' ≤ c && c ≤ 'F' then some (c.toNat - 55)
  else none

/-- Four hexadecimal digits and what follows them. -/
def hexUnit? : List Char → Option (Nat × List Char)
  | a :: b :: c :: d :: r => do
    let n ← [a, b, c, d].foldlM (fun acc x => (hexDigit? x).map (16 * acc + ·)) 0
    return (n, r)
  | _ => none

/-- The character that a one-letter escape stands for. -/
def escape? (c : Char) : Option Char :=
  match c with
  | '"' => some '"'
  | '\\' => some '\\'
  | '/' => some '/'
  | 'b' => some '\x08'
  | 'f' => some '\x0c'
  | 'n' => some '\n'
  | 'r' => some '\r'
  | 't' => some '\t'
  | _ => none

/-- The character of an escaped code unit, with what follows it: a high surrogate takes the low
surrogate behind it. -/
def unitChar (n : Nat) (r : List Char) : Char × List Char :=
  if 0xd800 ≤ n && n < 0xdc00 then
    match r with
    | '\\' :: 'u' :: t =>
      match hexUnit? t with
      | some (low, rest) =>
        if 0xdc00 ≤ low && low < 0xe000 then
          (Char.ofNat (0x10000 + (n - 0xd800) * 0x400 + (low - 0xdc00)), rest)
        else ('\ufffd', r)
      | none => ('\ufffd', r)
    | _ => ('\ufffd', r)
  else if 0xdc00 ≤ n && n < 0xe000 then ('\ufffd', r)
  else (Char.ofNat n, r)

/-- The text up to the closing quote, and what follows it. -/
def string? (acc : List Char) : Nat → List Char → Option (String × List Char)
  | 0, _ => none
  | fuel + 1, s =>
    match s with
    | '"' :: r => some (String.ofList acc.reverse, r)
    | '\\' :: 'u' :: r => do
      let (n, rest) ← hexUnit? r
      let (c, rest) := unitChar n rest
      string? (c :: acc) fuel rest
    | '\\' :: c :: r => do string? ((← escape? c) :: acc) fuel r
    | c :: r => if c.toNat < 32 || c = '\\' then none else string? (c :: acc) fuel r
    | [] => none

/-- The number of digits that an integer may have. -/
def longestInteger : Nat := 4300

/-- A number at the front of a text, behind a minus sign if `isNegative`. -/
def number? (isNegative : Bool) (s : List Char) : Option (Value × List Char) :=
  match s with
  | '0' :: c :: r =>
    if c.isDigit then
      -- A leading zero is a number by itself.
      some (.int 0, c :: r)
    else finish (Number.readNumber isNegative s)
  | c :: _ => if c.isDigit then finish (Number.readNumber isNegative s) else none
  | [] => none
where
  /-- The value of a reading: an integer unless a fraction or an exponent was written. -/
  finish (read : Number.Reading × List Char) : Option (Value × List Char) :=
    if read.1.isReal then some (.float read.1.toFloat, read.2)
    else if longestInteger < read.1.whole.length then none
    else some (.int read.1.toInt, read.2)

/-- The words that are values. -/
def words : List (String × Value) :=
  [("null", .null), ("true", .bool true), ("false", .bool false), ("NaN", .float (0 / 0)),
   ("Infinity", .float (1 / 0)), ("-Infinity", .float (-1 / 0))]

/-- A word or a number at the front of a text. -/
def plain? (s : List Char) : Option (Value × List Char) :=
  match words.find? fun w => w.1.toList.isPrefixOf s with
  | some (word, value) => some (value, s.drop word.length)
  | none =>
    match s with
    | '-' :: r => number? true r
    | _ => number? false s

mutual

/-- A value at the front of a text, and what follows it. -/
def value? : Nat → List Char → Option (Value × List Char)
  | 0, _ => none
  | fuel + 1, s =>
    match skip s with
    | '"' :: r => (string? [] fuel r).map fun (t, rest) => (.text t, rest)
    | '[' :: r =>
      match skip r with
      | ']' :: rest => some (.list [], rest)
      | _ => items? fuel [] r
    | '\x7b' :: r =>
      match skip r with
      | '\x7d' :: rest => some (.table [], rest)
      | _ => entries? fuel [] r
    | other => plain? other

/-- The items of a list behind those read so far. -/
def items? : Nat → List Value → List Char → Option (Value × List Char)
  | 0, _, _ => none
  | fuel + 1, acc, s =>
    match value? fuel s with
    | none => none
    | some (v, rest) =>
      match skip rest with
      | ',' :: r => items? fuel (v :: acc) r
      | ']' :: r => some (.list (v :: acc).reverse, r)
      | _ => none

/-- The entries of a table behind those read so far. -/
def entries? : Nat → List (String × Value) → List Char → Option (Value × List Char)
  | 0, _, _ => none
  | fuel + 1, acc, s =>
    match skip s with
    | '"' :: r =>
      match string? [] fuel r with
      | none => none
      | some (key, rest) =>
        match skip rest with
        | ':' :: r =>
          match value? fuel r with
          | none => none
          | some (v, rest) =>
            match skip rest with
            | ',' :: r => entries? fuel (put key v acc) r
            | '\x7d' :: r => some (.table (put key v acc), r)
            | _ => none
        | _ => none
    | _ => none

end

/-- The value of a JSON document. -/
def read? (s : List Char) : Option Value :=
  match value? (2 * s.length + 2) s with
  | some (v, rest) => if (skip rest).isEmpty then some v else none
  | none => none

end Concord.Document.Json
