/-!
# Concord.Text.Run

Sets of code points as ascending lists of runs.  A run is an arithmetic progression: alternating
upper-case and lower-case letters make one run of step two, a block of digits one of step one.
-/

namespace Concord.Text

/-- The code points `first`, `first + step`, … up to `last`. -/
structure Run where
  first : Nat
  last : Nat
  step : Nat
deriving DecidableEq, Repr

/-- A run of code points that a mapping moves by the same distance. -/
structure Shift where
  run : Run
  distance : Int
deriving DecidableEq, Repr

/-- Whether the code point `n` is in the run. -/
def Run.has (r : Run) (n : Nat) : Bool :=
  r.first ≤ n && n ≤ r.last && (n - r.first) % r.step == 0

/-- Whether `n` is in one of the runs, which ascend: the search stops at the first run behind `n`. -/
def Run.mem (n : Nat) : List Run → Bool
  | [] => false
  | r :: rs => r.first ≤ n && (r.has n || mem n rs)

/-- Where the shifts send `n`, if one of them covers it. -/
def Shift.image? (n : Nat) : List Shift → Option Nat
  | [] => none
  | s :: rest =>
    if n < s.run.first then none
    else if s.run.has n then some (n + s.distance).toNat
    else image? n rest

end Concord.Text
