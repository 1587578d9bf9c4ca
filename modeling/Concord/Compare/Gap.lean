/-!
# Concord.Compare.Gap

A gap: one item of the reference that is missing in another implementation or differs there, with
what to do about it.
-/

namespace Concord

/-- The aspects under which implementations are compared. -/
inductive Dimension where
  | structural
  | type
  | behavioral
  | test
  | idiomatic
deriving DecidableEq, Repr

namespace Dimension

/-- All dimensions. -/
def all : List Dimension := [structural, type, behavioral, test, idiomatic]

/-- The word for a dimension. -/
def word : Dimension → String
  | structural => "structural"
  | type => "type"
  | behavioral => "behavioral"
  | test => "test"
  | idiomatic => "idiomatic"

end Dimension

/-- How much a gap matters. -/
inductive Severity where
  | high
  | medium
  | low
deriving DecidableEq, Repr

namespace Severity

/-- All severities, the gravest first. -/
def all : List Severity := [high, medium, low]

/-- The word for a severity. -/
def word : Severity → String
  | high => "high"
  | medium => "medium"
  | low => "low"

/-- The place of a severity among all, the gravest first. -/
def rank : Severity → Nat
  | high => 0
  | medium => 1
  | low => 2

end Severity

/-- Whether the item is absent or present but different. -/
inductive GapKind where
  | missing
  | mismatch
deriving DecidableEq, Repr

namespace GapKind

/-- Both kinds. -/
def all : List GapKind := [missing, mismatch]

/-- The word for a kind. -/
def word : GapKind → String
  | missing => "missing"
  | mismatch => "mismatch"

end GapKind

/-- What an item is. -/
inductive ItemKind where
  | function
  | type
deriving DecidableEq, Repr

/-- The word for what an item is. -/
def ItemKind.word : ItemKind → String
  | function => "function"
  | type => "type"

/-- A reference to a declaration in one of the implementations. -/
structure Item where
  kind : ItemKind
  name : String
  signature : String := ""
  location : String := ""
  language : String := ""
deriving DecidableEq, Repr

/-- One item that an implementation lacks or has in another form. -/
structure Gap where
  dimension : Dimension
  severity : Severity
  kind : GapKind
  source : Item
  counterpart? : Option Item := none
  discrepancy : String := ""
  suggestedFix : String := ""
  /-- The language of the implementation that has the gap. -/
  language : String := ""
deriving DecidableEq, Repr

end Concord
