import Concord.Document.Value
import Concord.Number.Decimal
import Concord.Text.Quoted

/-!
# Concord.Document.Literal

Values as they are named in messages: texts in quotes, numbers by their fewest digits, lists and
tables item by item.
-/

namespace Concord.Document

mutual

/-- A value in a message. -/
def literal : Value → String
  | .null => "None"
  | .bool b => if b then "True" else "False"
  | .int n => toString n
  | .float x => Number.shortest x
  | .text s => Text.quoted s
  | .list items => "[" ++ ", ".intercalate (literals items) ++ "]"
  | .table entries => "\x7b" ++ ", ".intercalate (literalEntries entries) ++ "\x7d"

/-- Each of some values in a message. -/
def literals : List Value → List String
  | [] => []
  | v :: vs => literal v :: literals vs

/-- Each of the entries of a table in a message. -/
def literalEntries : List (String × Value) → List String
  | [] => []
  | (key, v) :: rest => (Text.quoted key ++ ": " ++ literal v) :: literalEntries rest

end

end Concord.Document
