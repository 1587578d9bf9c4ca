/-!
# Concord.Text.Cut

Testing a text for a fixed word at its start, its end or anywhere, cutting the word off, splitting
at it and replacing it.  Words are given as strings, texts as lists of characters.
-/

namespace Concord.Text

/-- Whether `s` begins with `word`. -/
def begins (word : String) (s : List Char) : Bool := word.toList.isPrefixOf s

/-- Whether `s` ends with `word`. -/
def ends (word : String) (s : List Char) : Bool := word.toList.isSuffixOf s

/-- What follows `word` in `s`, if `s` begins with it. -/
def after? (word : String) (s : List Char) : Option (List Char) :=
  if begins word s then some (s.drop word.toList.length) else none

/-- What precedes `word` in `s`, if `s` ends with it. -/
def before? (word : String) (s : List Char) : Option (List Char) :=
  if ends word s then some (s.take (s.length - word.toList.length)) else none

/-- Whether `word` occurs in `s`. -/
def holds (word : String) : List Char → Bool
  | [] => word.toList.isEmpty
  | c :: r => begins word (c :: r) || holds word r

/-- Puts `c` in front of the first piece. -/
def consFirst (c : Char) : List (List Char) → List (List Char)
  | [] => [[c]]
  | p :: ps => (c :: p) :: ps

/-- The pieces of `s` between the occurrences of `word`, read from the left without overlap. -/
def splitAtWord (word : List Char) : List Char → List (List Char)
  | [] => [[]]
  | c :: r =>
    if !word.isEmpty && word.isPrefixOf (c :: r) then
      [] :: splitAtWord word (r.drop (word.length - 1))
    else consFirst c (splitAtWord word r)
termination_by s => s.length
decreasing_by all_goals simp; try omega

/-- `s` with every occurrence of `word`, read from the left, replaced by `other`. -/
def replaceWord (word other : String) (s : List Char) : List Char :=
  other.toList.intercalate (splitAtWord word.toList s)

/-- `s` without the first occurrence of `word`. -/
def removeWord (word : String) (s : List Char) : List Char :=
  match splitAtWord word.toList s with
  | [] => []
  | before :: behind => before ++ word.toList.intercalate behind

/-- The part of `s` before the first `c`, all of `s` if there is none. -/
def upTo (c : Char) (s : List Char) : List Char := s.takeWhile (· ≠ c)

/-- Whether `s` is one of the given strings. -/
def isOneOf (words : List String) (s : List Char) : Bool := words.contains (String.ofList s)

end Concord.Text
