import Concord.Text.CaseTable

/-!
# Concord.Text.Case

Upper and lower case in every script, by the full case mappings: a letter may map to several, and
a capital sigma at the end of a word becomes the final form.
-/

namespace Concord.Text

/-- Upper-case characters. -/
def isUpper (c : Char) : Bool := Run.mem c.toNat CaseTable.upper

/-- Lower-case characters. -/
def isLower (c : Char) : Bool := Run.mem c.toNat CaseTable.lower

/-- Characters that are passed over in the search for a neighbouring letter. -/
def isCaseIgnorable (c : Char) : Bool := Run.mem c.toNat CaseTable.ignorable

/-- Characters that have a case, or are one of its forms. -/
def isCased (c : Char) : Bool := Run.mem c.toNat CaseTable.cased

/-- The image of `c` under a mapping given by shifts and by a list of longer images. -/
def mapCase (shifts : List Shift) (many : List (Nat × List Nat)) (c : Char) : List Char :=
  match many.lookup c.toNat with
  | some image => image.map Char.ofNat
  | none =>
    match Shift.image? c.toNat shifts with
    | some n => [Char.ofNat n]
    | none => [c]

/-- Whether the first character that is not passed over is cased. -/
def nextIsCased (s : List Char) : Bool :=
  match s.dropWhile isCaseIgnorable with
  | [] => false
  | c :: _ => isCased c

/-- The lower-case form of `c` between the text `before`, nearest character first, and `after`. -/
def lowerChar (before : List Char) (c : Char) (after : List Char) : List Char :=
  if c = 'Σ' then
    if nextIsCased before && !nextIsCased after then ['ς'] else ['σ']
  else mapCase CaseTable.toLower CaseTable.toLowerMany c

/-- Lower case of a text that stands behind `before`, given nearest character first. -/
def lowerAfter (before : List Char) : List Char → List Char
  | [] => []
  | c :: r => lowerChar before c r ++ lowerAfter (c :: before) r

/-- The text in lower case. -/
def lower (s : List Char) : List Char := lowerAfter [] s

/-- The text in upper case. -/
def upper (s : List Char) : List Char := s.flatMap (mapCase CaseTable.toUpper CaseTable.toUpperMany)

/-- The first character in title case, the others in lower case. -/
def capitalize : List Char → List Char
  | [] => []
  | c :: r => mapCase CaseTable.toTitle CaseTable.toTitleMany c ++ lowerAfter [c] r

end Concord.Text
