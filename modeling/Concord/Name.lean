import Concord.Language
import Concord.Text.Case
import Concord.Text.Cut
import Concord.Text.Word

/-!
# Concord.Name

Names of functions, types and fields across naming conventions.  `normalize` is the form in which
names are compared: lower-case words joined by underscores, where a capital begins a word behind a
small letter or a digit, or as the last of several capitals before a small letter.  `words` and
`spell` take a name apart and write it in a convention.
-/

namespace Concord.Name

open Text

/-! ## The compared form -/

/-- Whether `c` begins a word behind `prev`, where `next` stands behind `c`. -/
def beginsWord (prev c : Char) (next : Option Char) : Bool :=
  isUpper c && prev ≠ '_' &&
    (isLower prev || isDigit prev || (isUpper prev && next.any isLower))

/-- Puts an underscore in front of every character that begins a word; `prev` stands in front of
the text. -/
def separate (prev : Option Char) : List Char → List Char
  | [] => []
  | c :: r =>
    if prev.any (beginsWord · c r.head?) then '_' :: c :: separate (some c) r
    else c :: separate (some c) r

/-- The form of a name in which names of all conventions are compared. -/
def normalizeChars (s : List Char) : List Char := lower (separate none s)

@[inherit_doc normalizeChars]
def normalize (s : String) : String := String.ofList (normalizeChars s.toList)

/-! ## Words -/

/-- The word at the front of `c :: r` and what follows it; the word is empty where none begins.
Of a run of capitals before a small letter the last belongs to the next word. -/
def takeWord (c : Char) (r : List Char) : List Char × List Char :=
  if isAsciiUpper c then
    let more := r.takeWhile isAsciiUpper
    let rest := r.dropWhile isAsciiUpper
    if rest.head?.any isAsciiLower then
      match more.getLast? with
      | none => (c :: rest.takeWhile isAsciiLower, rest.dropWhile isAsciiLower)
      | some last => (c :: more.dropLast, last :: rest)
    else (c :: more, rest)
  else if isAsciiLower c then (c :: r.takeWhile isAsciiLower, r.dropWhile isAsciiLower)
  else if isDecimal c then (c :: r.takeWhile isDecimal, r.dropWhile isDecimal)
  else ([], r)

theorem length_takeWord_le (c : Char) (r : List Char) : (takeWord c r).2.length ≤ r.length := by
  have drop (p : Char → Bool) (s : List Char) : (s.dropWhile p).length ≤ s.length :=
    (List.dropWhile_sublist p).length_le
  have split := congrArg List.length (List.takeWhile_append_dropWhile (p := isAsciiUpper) (l := r))
  simp only [List.length_append] at split
  unfold takeWord
  split
  · dsimp only
    split
    · split
      · exact Nat.le_trans (drop _ _) (drop _ _)
      · rename_i last h
        have := List.length_pos_of_mem (List.mem_of_getLast? h)
        simp only [List.length_cons]
        omega
    · exact drop _ _
  · split
    · exact drop _ _
    · split
      · exact drop _ _
      · exact Nat.le_refl _

/-- The words of a name that holds no underscore: runs of small letters with at most one capital in
front, runs of capitals, runs of digits.  All other characters separate words. -/
def wordRuns : List Char → List (List Char)
  | [] => []
  | c :: r =>
    if (takeWord c r).1 = [] then wordRuns (takeWord c r).2
    else (takeWord c r).1 :: wordRuns (takeWord c r).2
termination_by s => s.length
decreasing_by all_goals exact Nat.lt_succ_of_le (length_takeWord_le c r)

/-- The words of a name, in lower case.  Underscores, where there are any, are the only
separators. -/
def words (s : List Char) : List (List Char) :=
  (if s.contains '_' then (s.splitOn '_').filter (· ≠ []) else wordRuns s).map lower

/-! ## Conventions -/

/-- The ways in which the words of a name are joined. -/
inductive Convention where
  | camel
  | pascal
  | snake
  | screaming
deriving DecidableEq, Repr

/-- The label of a convention, written in the convention itself. -/
def Convention.label : Convention → String
  | camel => "camelCase"
  | pascal => "PascalCase"
  | snake => "snake_case"
  | screaming => "SCREAMING_CASE"

/-- All conventions. -/
def Convention.all : List Convention := [.camel, .pascal, .snake, .screaming]

/-- Joins lower-case words in a convention. -/
def join : Convention → List (List Char) → List Char
  | .camel, [] => []
  | .camel, w :: ws => w ++ (ws.map capitalize).flatten
  | .pascal, ws => (ws.map capitalize).flatten
  | .snake, ws => ['_'].intercalate ws
  | .screaming, ws => upper (['_'].intercalate ws)

/-- The name in the given convention. -/
def spell (convention : Convention) (name : String) : String :=
  String.ofList (join convention (words name.toList))

/-- The name in the convention with the given label; unchanged if there is none. -/
def spellAs (label : String) (name : String) : String :=
  match Convention.all.find? (·.label == label) with
  | some convention => spell convention name
  | none => name

/-- The conventions of a language for the names of its declarations. -/
structure Usage where
  functions : Convention
  types : Convention
  fields : Convention
  constants : Convention
deriving DecidableEq, Repr

end Concord.Name

/-- How names are customarily written in a language. -/
def Concord.Language.naming : Concord.Language → Concord.Name.Usage
  | .go => ⟨.pascal, .pascal, .pascal, .pascal⟩
  | .rust | .python => ⟨.snake, .pascal, .snake, .screaming⟩
  | .java | .csharp | .typescript => ⟨.camel, .pascal, .camel, .screaming⟩
