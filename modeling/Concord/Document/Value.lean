/-!
# Concord.Document.Value

The contents of a data document, such as a manifest or a settings file: what its reader found before
anything is known about what should be there.
-/

namespace Concord.Document

/-- A value in a data document.  The entries of a table are in the order in which their keys first
occurred, and no key occurs twice. -/
inductive Value where
  | null
  | bool (b : Bool)
  | int (n : Int)
  | float (x : Float)
  | text (s : String)
  | list (items : List Value)
  | table (entries : List (String × Value))
deriving Inhabited

/-- The value of a key. -/
def lookup? (key : String) (entries : List (String × Value)) : Option Value := entries.lookup key

/-- Gives a key a value: in its place if it is there, and otherwise behind all others. -/
def put (key : String) (value : Value) : List (String × Value) → List (String × Value)
  | [] => [(key, value)]
  | (k, v) :: rest => if k == key then (k, value) :: rest else (k, v) :: put key value rest

namespace Value

/-- Whether a value counts as given: it is not null, false, zero or empty. -/
def isTruthy : Value → Bool
  | null => false
  | bool b => b
  | int n => n ≠ 0
  | float x => x != 0
  | text s => !s.isEmpty
  | list items => !items.isEmpty
  | table entries => !entries.isEmpty

/-- The value of a key in a table. -/
def get? (key : String) : Value → Option Value
  | table entries => entries.lookup key
  | _ => none

end Value
end Concord.Document
