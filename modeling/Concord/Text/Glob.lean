/-!
# Concord.Text.Glob

File name patterns.

```
*        any run of characters, slashes included
?        any one character
[a-cx]   one of the characters
[!a-cx]  one character that is none of them
```

A bracket that is never closed stands for itself, and so does a closing bracket that is the first
in a set.  A range whose ends are in the wrong order is empty; an exclamation mark that follows
empty ranges at the start of a set still negates it.
-/

namespace Concord.Text.Glob

/-! ## Sets -/

/-- An item of a set of characters. -/
inductive Item where
  | one (c : Char)
  | range (low high : Char)
deriving DecidableEq, Repr

/-- Whether an item holds a character. -/
def Item.has (c : Char) : Item → Bool
  | one d => c = d
  | range low high => low ≤ c && c ≤ high

/-- Whether an item is a range that holds no character. -/
def Item.isVoid : Item → Bool
  | one _ => false
  | range low high => high < low

/-- The items of a set; a hyphen between two characters makes a range. -/
def items : List Char → List Item
  | low :: '-' :: high :: r => .range low high :: items r
  | c :: r => .one c :: items r
  | [] => []

/-- A set of characters, or the characters that are not in it. -/
structure CharSet where
  isNegated : Bool
  items : List Item
deriving DecidableEq, Repr

/-- Whether a set holds a character. -/
def CharSet.has (set : CharSet) (c : Char) : Bool := set.items.any (·.has c) != set.isNegated

/-- The set with this content between its brackets. -/
def CharSet.ofContent (isNegated : Bool) (content : List Char) : CharSet :=
  if isNegated then ⟨true, Glob.items content⟩
  else
    match (Glob.items content).dropWhile (·.isVoid) with
    | .one '!' :: rest => ⟨true, rest⟩
    | .range '!' high :: rest => ⟨true, .one '-' :: .one high :: rest⟩
    | rest => ⟨false, rest⟩

/-- The content of a set that begins with `front` and goes on in `s`, and what follows the closing
bracket. -/
def upToClosing? (isNegated : Bool) (front s : List Char) :
    Option (Bool × List Char × List Char) :=
  match s.dropWhile (· ≠ ']') with
  | [] => none
  | _ :: rest => some (isNegated, front ++ s.takeWhile (· ≠ ']'), rest)

/-- Takes the content of a set off a text behind an opening bracket: whether an exclamation mark
leads it, the content, and what follows the closing bracket. -/
def setContent? : List Char → Option (Bool × List Char × List Char)
  | '!' :: ']' :: r => upToClosing? true [']'] r
  | '!' :: r => upToClosing? true [] r
  | ']' :: r => upToClosing? false [']'] r
  | r => upToClosing? false [] r

theorem length_upToClosing? {front s content rest : List Char} {isNegated b : Bool}
    (h : upToClosing? isNegated front s = some (b, content, rest)) : rest.length ≤ s.length := by
  unfold upToClosing? at h
  split at h
  · simp at h
  · rename_i c t hd
    simp only [Option.some.injEq, Prod.mk.injEq] at h
    have le := (List.dropWhile_sublist (l := s) fun c => decide (c ≠ ']')).length_le
    rw [hd, List.length_cons, h.2.2] at le
    omega

theorem length_setContent? {s content rest : List Char} {b : Bool}
    (h : setContent? s = some (b, content, rest)) : rest.length ≤ s.length := by
  unfold setContent? at h
  split at h
  case h_4 => exact length_upToClosing? h
  all_goals
    have := length_upToClosing? h
    simp only [List.length_cons]
    omega

/-! ## Patterns -/

/-- A piece of a pattern. -/
inductive Piece where
  | exactly (c : Char)
  | anyOne
  | anyRun
  | oneOf (set : CharSet)
deriving DecidableEq, Repr

/-- The pieces of a pattern; several runs in a row are one. -/
def pieces : List Char → List Piece
  | [] => []
  | c :: r =>
    if c = '*' then .anyRun :: pieces (r.dropWhile (· = '*'))
    else if c = '?' then .anyOne :: pieces r
    else if c = '[' then
      match _h : setContent? r with
      | some (isNegated, content, rest) => .oneOf (.ofContent isNegated content) :: pieces rest
      | none => .exactly c :: pieces r
    else .exactly c :: pieces r
termination_by s => s.length
decreasing_by
  · exact Nat.lt_succ_of_le (List.dropWhile_sublist _).length_le
  · exact Nat.lt_succ_self _
  · exact Nat.lt_succ_of_le (length_setContent? _h)
  · exact Nat.lt_succ_self _
  · exact Nat.lt_succ_self _

/-- The ends of a text, the longest first. -/
def suffixes : List Char → List (List Char)
  | [] => [[]]
  | c :: r => (c :: r) :: suffixes r

/-- Whether a piece stands for one character and holds this one. -/
def Piece.accepts (c : Char) : Piece → Bool
  | exactly d => c = d
  | anyOne => true
  | anyRun => false
  | oneOf set => set.has c

/-- Whether pieces stand for a whole text. -/
def accept : List Piece → List Char → Bool
  | [], s => s.isEmpty
  | .anyRun :: ps, s => (suffixes s).any (accept ps)
  | _ :: _, [] => false
  | p :: ps, c :: r => p.accepts c && accept ps r

/-! ## All suffixes at once -/

/-- For each member of a list, whether it or a later one is true. -/
def orLater : List Bool → List Bool
  | [] => []
  | b :: bs =>
    let later := orLater bs
    (b || later.headD false) :: later

/-- For each of the ends of a text, whether pieces stand for it.  Each piece is compared with each
character only once. -/
def acceptEach (s : List Char) : List Piece → List Bool
  | [] => s.map (fun _ => false) ++ [true]
  | .anyRun :: ps => orLater (acceptEach s ps)
  | p :: ps => List.zipWith (fun c b => p.accepts c && b) s (acceptEach s ps).tail ++ [false]

theorem map_isEmpty_suffixes (s : List Char) :
    (suffixes s).map List.isEmpty = s.map (fun _ => false) ++ [true] := by
  induction s with
  | nil => rfl
  | cons c r ih => simp [suffixes, ih]

theorem headD_orLater (bs : List Bool) : (orLater bs).headD false = bs.any id := by
  induction bs with
  | nil => rfl
  | cons b bs ih => rw [orLater, List.any_cons, ← ih]; rfl

theorem orLater_map_suffixes (f : List Char → Bool) (s : List Char) :
    orLater ((suffixes s).map f) = (suffixes s).map fun t => (suffixes t).any f := by
  induction s with
  | nil => simp [suffixes, orLater]
  | cons c r ih =>
    have h := headD_orLater ((suffixes r).map f)
    simp_all [suffixes, orLater, List.any_map]

theorem zipWith_suffixes (q : Char → Bool) (f : List Char → Bool) (s : List Char) :
    List.zipWith (fun c b => q c && b) s ((suffixes s).map f).tail ++ [false] =
      (suffixes s).map fun t => match t with
        | [] => false
        | c :: r => q c && f r := by
  induction s with
  | nil => rfl
  | cons c r ih =>
    cases r with
    | nil => simp [suffixes]
    | cons d r => simp_all [suffixes]

/-- What is told of each end is whether the pieces stand for it. -/
theorem acceptEach_eq_map (s : List Char) (ps : List Piece) :
    acceptEach s ps = (suffixes s).map (accept ps) := by
  induction ps with
  | nil => rw [acceptEach, ← map_isEmpty_suffixes]; rfl
  | cons p ps ih =>
    cases p with
    | anyRun => rw [acceptEach, ih, orLater_map_suffixes]; rfl
    | _ =>
      rw [acceptEach, ih, zipWith_suffixes]
      · exact List.map_congr_left fun t _ => by cases t <;> rfl
      · simp

end Glob

/-- Whether a pattern stands for a whole text. -/
def globAccepts (pattern s : List Char) : Bool :=
  (Glob.acceptEach s (Glob.pieces pattern)).headD false

/-- A pattern stands for the texts that its pieces stand for. -/
theorem globAccepts_eq_accept (pattern s : List Char) :
    globAccepts pattern s = Glob.accept (Glob.pieces pattern) s := by
  rw [globAccepts, Glob.acceptEach_eq_map]
  cases s <;> rfl

end Concord.Text
