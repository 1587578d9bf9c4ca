import Concord.Settings.Basic

/-!
# Concord.Settings.Check

Settings from a data document.  Every entry is checked, and all problems are reported in the order
of the settings.  What counts as a number, say, is left open (`Coercions`): a text may do.
-/

namespace Concord.Settings

open Document

/-- What can be wrong with an entry. -/
inductive Cause where
  | noNumber
  | unreadableNumber
  | noInteger
  | unreadableInteger
  | fractional
  | notFinite
  | outOfRange
  | noTruthValue
  | unreadableTruthValue
  | noText
  | noList
  | noSection
  | tooSmall
  | tooLarge
  | unknownStrategy
deriving DecidableEq, Repr

/-- An entry that cannot be used: the keys and list positions that lead to it, and why. -/
structure Problem where
  path : List String
  cause : Cause
deriving DecidableEq, Repr

/-- The word for a cause. -/
def Cause.word : Cause → String
  | noNumber => "float_type"
  | unreadableNumber => "float_parsing"
  | noInteger => "int_type"
  | unreadableInteger => "int_parsing"
  | fractional => "int_from_float"
  | notFinite => "finite_number"
  | outOfRange => "int_parsing_size"
  | noTruthValue => "bool_type"
  | unreadableTruthValue => "bool_parsing"
  | noText => "string_type"
  | noList => "list_type"
  | noSection => "model_type"
  | tooSmall => "greater_than_equal"
  | tooLarge => "less_than_equal"
  | unknownStrategy => "value_error"

/-- The explanation of an unknown strategy. -/
def Cause.strategyText : String :=
  "strategy must be one of " ++ ", ".intercalate (Strategy.all.map (·.word))

/-- A value, or all that prevents it. -/
inductive Checked (α : Type) where
  | valid (a : α)
  | invalid (problems : List Problem)

namespace Checked

/-- Applies a checked function to a checked value; the problems of both are kept. -/
def apply {α β : Type} : Checked (α → β) → Checked α → Checked β
  | valid f, valid a => valid (f a)
  | valid _, invalid ps => invalid ps
  | invalid ps, valid _ => invalid ps
  | invalid ps, invalid qs => invalid (ps ++ qs)

instance : Functor Checked where
  map f a := apply (valid f) a

instance : Applicative Checked where
  pure := valid
  seq f a := apply f (a ())

/-- Puts a key in front of the paths of all problems. -/
def under {α : Type} (key : String) : Checked α → Checked α
  | valid a => valid a
  | invalid ps => invalid (ps.map fun p => { p with path := key :: p.path })

/-- A single problem at the value itself. -/
def fail {α : Type} (cause : Cause) : Checked α := invalid [⟨[], cause⟩]

/-- A further test of a valid value. -/
def andThen {α β : Type} (a : Checked α) (f : α → Checked β) : Checked β :=
  match a with
  | valid a => f a
  | invalid ps => invalid ps

/-- Checks the items of a list, each under its position. -/
def items {α : Type} (check : Value → Checked α) (start : Nat) : List Value → Checked (List α)
  | [] => valid []
  | v :: vs =>
    apply (apply (valid List.cons) (under (toString start) (check v))) (items check (start + 1) vs)

end Checked

/-! ## Single values -/

/-- How values are taken for numbers, integers, truth values and texts.  The settings are checked
behind it, whatever it takes for what. -/
structure Coercions where
  number : Value → Checked Float
  integer : Value → Checked Int
  truth : Value → Checked Bool
  text : Value → Checked String

variable (c : Coercions)

/-- A list of texts. -/
def textList : Value → Checked (List String)
  | .list vs => Checked.items c.text 0 vs
  | _ => .fail .noList

/-- A text or nothing. -/
def optionalText : Value → Checked (Option String)
  | .null => .valid none
  | v => some <$> c.text v

/-- A number from `low` up to `high`, if there is a highest.  What is no number is out of bounds. -/
def numberWithin (low : Float) (high? : Option Float) (v : Value) : Checked Float :=
  (c.number v).andThen fun x =>
    if high?.any fun high => !(x ≤ high) then .fail .tooLarge
    else if !(low ≤ x) then .fail .tooSmall
    else .valid x

/-- A number from zero to one. -/
def share : Value → Checked Float := numberWithin c 0 (some 1)

/-- An integer that is at least `low`. -/
def integerFrom (low : Int) (v : Value) : Checked Nat :=
  (c.integer v).andThen fun n => if n < low then .fail .tooSmall else .valid n.toNat

/-- A strategy. -/
def strategy (v : Value) : Checked Strategy :=
  (c.text v).andThen fun w =>
    match Strategy.ofWord? w with
    | some s => .valid s
    | none => .fail .unknownStrategy

/-! ## Sections -/

/-- The entry of a section under a key, or the usual value where there is none. -/
def entry {α : Type} (entries : List (String × Value)) (key : String) (usual : α)
    (check : Value → Checked α) : Checked α :=
  match entries.lookup key with
  | none => .valid usual
  | some v => Checked.under key (check v)

/-- A section whose entries are checked by `check`. -/
def inSection {α : Type} (check : List (String × Value) → Checked α) : Value → Checked α
  | .table es => check es
  | _ => .fail .noSection

/-- The weights of the dimensions. -/
def checkWeights (es : List (String × Value)) : Checked (ByDimension Float) :=
  ByDimension.mk <$> entry es "structural" usualWeights.structural (share c) <*>
    entry es "type" usualWeights.type (share c) <*>
    entry es "behavioral" usualWeights.behavioral (share c) <*>
    entry es "test" usualWeights.test (share c) <*>
    entry es "idiomatic" usualWeights.idiomatic (share c)

/-- The section on comparisons. -/
def checkComparison (es : List (String × Value)) : Checked (ComparisonSettings Float) :=
  ComparisonSettings.mk <$> entry es "weights" usualWeights (inSection (checkWeights c)) <*>
    entry es "threshold" usualComparison.threshold (share c) <*>
    entry es "strict" usualComparison.isStrict c.truth <*>
    entry es "ignore_private" usualComparison.ignoresPrivate c.truth

/-- The section on the loop. -/
def checkLoop (es : List (String × Value)) : Checked (LoopSettings Float) :=
  LoopSettings.mk <$> entry es "threshold" usualLoop.threshold (share c) <*>
    entry es "max_iterations" usualLoop.maxRounds (integerFrom c 1) <*>
    entry es "stuck_threshold" usualLoop.stuckThreshold (numberWithin c 0 none) <*>
    entry es "stuck_window" usualLoop.stuckWindow (integerFrom c 2) <*>
    entry es "strategy" usualLoop.strategy (strategy c)

/-- The keys of a settings document that this library uses. -/
def keys : List String :=
  ["source_language", "target_languages", "ignored_patterns", "include_tests", "comparison", "loop"]

/-- All settings. -/
def check (es : List (String × Value)) : Checked (Settings Float) :=
  Settings.mk <$> entry es "source_language" none (optionalText c) <*>
    entry es "target_languages" [] (textList c) <*>
    entry es "ignored_patterns" usualIgnoredNames (textList c) <*>
    entry es "include_tests" false c.truth <*>
    entry es "comparison" usualComparison (inSection (checkComparison c)) <*>
    entry es "loop" usualLoop (inSection (checkLoop c)) <*>
    .valid (es.filter fun e => !keys.contains e.1)

/-! ## Doubtful settings -/

/-- A warning about weights that do not sum to one. -/
def weightWarnings (weights : ByDimension Float) : List String :=
  let distance := Scalar.abs (weights.total - 1)
  if 1e-6 < distance then
    ["Dimension weights sum to " ++ Number.fixed 3 weights.total ++ ", expected 1.0"]
  else []

/-- A warning about two thresholds that differ. -/
def thresholdWarnings (s : Settings Float) : List String :=
  if s.comparison.threshold != s.loop.threshold then
    ["comparison.threshold (" ++ Number.shortest s.comparison.threshold ++
      ") differs from loop.threshold (" ++ Number.shortest s.loop.threshold ++
      "); loop convergence uses loop.threshold"]
  else []

/-- All warnings about settings that are valid but doubtful. -/
def warnings (s : Settings Float) : List String :=
  weightWarnings s.comparison.weights ++ thresholdWarnings s

end Concord.Settings
