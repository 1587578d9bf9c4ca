import Concord.Document.Value
import Concord.Number.Decimal

/-!
# Concord.Document.Render

Writing JSON documents.  Characters that a reader might take for the end of a line or might not show
are escaped.  A float is written as its shortest decimal.
-/

namespace Concord.Document.Json

/-- The escape of a character by its code point, which has four hexadecimal digits. -/
def escapeUnit (n : Nat) : List Char :=
  ['\\', 'u'] ++ [n / 4096, n / 256 % 16, n / 16 % 16, n % 16].map Nat.digitChar

/-- Whether a character is escaped by its code point. -/
def isEscaped (c : Char) : Bool :=
  let n := c.toNat
  n < 32 || (0x7f ≤ n && n ≤ 0x9f) || n = 0x2028 || n = 0x2029

/-- A character inside quotes. -/
def quoteChar (c : Char) : List Char :=
  if c = '"' then ['\\', '"']
  else if c = '\\' then ['\\', '\\']
  else if isEscaped c then escapeUnit c.toNat
  else [c]

/-- A text in quotes. -/
def quote (s : String) : String := "\"" ++ String.ofList (s.toList.flatMap quoteChar) ++ "\""

mutual

/-- A value as a JSON document. -/
def render : Value → String
  | .null => "null"
  | .bool b => if b then "true" else "false"
  | .int n => toString n
  | .float x => Number.shortest x
  | .text s => quote s
  | .list items => "[" ++ ", ".intercalate (renderAll items) ++ "]"
  | .table entries => "\x7b" ++ ", ".intercalate (renderEntries entries) ++ "\x7d"

/-- Each of some values as a JSON document. -/
def renderAll : List Value → List String
  | [] => []
  | v :: vs => render v :: renderAll vs

/-- Each of the entries of a table, with its key in quotes. -/
def renderEntries : List (String × Value) → List String
  | [] => []
  | (key, v) :: rest => (quote key ++ ": " ++ render v) :: renderEntries rest

end

end Concord.Document.Json
