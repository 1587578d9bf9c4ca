import Concord.Spelling.Qualifier

/-!
# Concord.Spelling.Tuple

Tuple types: `(A, B)`, `[A, B]` and `tuple[A, B]`, whose members may carry a label in front
(`id: number`) or a name behind (`int id`).  A sequence of one element type of any length, written
`tuple[T, ...]`, is no tuple, and neither is a group of one or an array with a stated length.
-/

namespace Concord.Spelling

open Text

-- Sums of naturals start from the core library's zero, whatever else is imported.
attribute [local instance (high)] Zero.ofOfNat0

/-- The member without a label `name:`, `name?:` or `...name:` in front of it. -/
def dropLabel (s : List Char) : List Char :=
  match (after? "..." s).getD s with
  | [] => s
  | c :: r =>
    if isAsciiNameStart c || c = '$' then
      let rest := r.dropWhile fun c => isWordChar c || c = '$'
      let rest := (after? "?" rest).getD rest
      match rest.dropWhile isBlank with
      | ':' :: type => if type.head? = some ':' then s else type.dropWhile isBlank
      | _ => s
    else s

/-- What stands in front of a name at the end of a member, if that can be the end of a type. -/
def beforeName? (s : List Char) : Option (List Char) :=
  let back := s.reverse
  let gap := back.dropWhile isWordChar
  let type := gap.dropWhile isBlank
  if (back.takeWhile isWordChar).getLast?.any isAsciiNameStart && gap.head?.any isBlank &&
      type.head?.any (fun c => isWordChar c || c = '>' || c = ']' || c = '?' || c = ')') &&
      !type.contains '\n' then
    some type.reverse
  else none

/-- Whether a name may stand behind the word, which ends a type and does not lead one. -/
def endsType (word : List Char) : Bool :=
  !isOneOf Vocabulary.typeWords word && !word.contains '\'' && !begins "&" word && !begins "*" word

/-- The type of a tuple member, without its label or its name. -/
def member (s : List Char) : List Char :=
  let s := dropLabel (trim s)
  match beforeName? s with
  | some type => if endsType ((fields type).getLastD []) then trim type else s
  | none => s

/-- Whether the head is one of the words for tuples. -/
def isTupleHead (head : List Char) : Bool := isOneOf ["tuple", "Tuple"] head

/-- Whether the arguments are an element type and an ellipsis. -/
def isHomogeneous (args : List (List Char)) : Bool :=
  match args with
  | [_, dots] => trim dots = ['.', '.', '.']
  | _ => false

/-- The member types of a tuple type that carries no qualifier. -/
def tupleMembers? (s : List Char) : Option (List (List Char)) :=
  let g := generic s
  if isTupleHead g.head && !g.args.isEmpty then
    if 1 < g.args.length && !isHomogeneous g.args then some (g.args.map member) else none
  else if isEnclosed '(' ')' s || isEnclosed '[' ']' s then
    let inner := s.tail.dropLast
    let members := splitCommas inner
    if s.head? = some '[' && splitBy ";" inner ≠ [trim inner] then none
    else if 1 < members.length || (trimEnd inner).getLast? = some ',' then
      some (members.map member)
    else none
  else none

/-- The member types of a tuple type; nothing for any other type. -/
def tupleElements? (s : List Char) : Option (List (List Char)) := tupleMembers? (stripQualifiers s)

/-! ## Members weigh less than the tuple -/

theorem dropWhile_sublist_of_eq_cons {p : Char → Bool} {s r : List Char} {c : Char}
    (h : s.dropWhile p = c :: r) : r.Sublist s :=
  ((List.sublist_cons_self c r).trans (h ▸ List.Sublist.refl _)).trans (List.dropWhile_sublist p)

theorem getD_after?_sublist (word : String) (s : List Char) :
    ((after? word s).getD s).Sublist s := by
  cases h : after? word s with
  | none => simp
  | some r => simpa using after?_sublist h

theorem dropLabel_sublist (s : List Char) : (dropLabel s).Sublist s := by
  unfold dropLabel
  split
  · exact List.Sublist.refl _
  · rename_i c r h
    have hr : r.Sublist s := (List.sublist_cons_self c r).trans (h ▸ getD_after?_sublist "..." s)
    split
    · dsimp only
      split
      · rename_i type hd
        split
        · exact List.Sublist.refl _
        · exact ((((List.dropWhile_sublist _).trans (dropWhile_sublist_of_eq_cons hd)).trans
            (getD_after?_sublist "?" _)).trans (List.dropWhile_sublist _)).trans hr
      · exact List.Sublist.refl _
    · exact List.Sublist.refl _

theorem beforeName?_sublist {s type : List Char} (h : beforeName? s = some type) :
    type.Sublist s := by
  unfold beforeName? at h
  dsimp only at h
  split at h
  · simp only [Option.some.injEq] at h
    rw [← h]
    have := List.reverse_sublist.2
      ((List.dropWhile_sublist (l := s.reverse.dropWhile isWordChar) isBlank).trans
        (List.dropWhile_sublist (l := s.reverse) isWordChar))
    simpa using this
  · simp at h

theorem member_sublist (s : List Char) : (member s).Sublist s := by
  have hs := (dropLabel_sublist (trim s)).trans (trim_sublist s)
  unfold member
  dsimp only
  split
  · rename_i type h
    split
    · exact ((trim_sublist type).trans (beforeName?_sublist h)).trans hs
    · exact hs
  · exact hs

theorem sum_weight_member_le (ps : List (List Char)) :
    ((ps.map member).map weight).sum ≤ (ps.map weight).sum := by
  induction ps with
  | nil => simp
  | cons a ps ih =>
    have := weight_le_of_sublist (member_sublist a)
    simp only [List.map_cons, List.sum_cons]
    omega

theorem weight_lt_of_isEnclosed {opener closer : Char} {s : List Char}
    (h : isEnclosed opener closer s) (hw : weight [opener] = 1) :
    weight s.tail.dropLast < weight s := by
  cases s with
  | nil => simp [isEnclosed] at h
  | cons c r =>
    have hc : c = opener := by
      simp only [isEnclosed, Bool.and_eq_true, decide_eq_true_eq] at h
      exact h.1.1.2
    have := weight_le_of_sublist (List.dropLast_sublist r)
    rw [weight_cons c r, hc, hw]
    simp only [List.tail_cons]
    omega

/-- The members of a tuple type together weigh less than the type. -/
theorem sum_weight_tupleMembers_lt {s : List Char} {es : List (List Char)}
    (h : tupleMembers? s = some es) : (es.map weight).sum < weight s := by
  unfold tupleMembers? at h
  dsimp only at h
  split at h
  · rename_i hh
    have hne : (generic s).args ≠ [] := by
      simp only [Bool.and_eq_true] at hh
      simpa using hh.2
    have := weight_generic s hne
    split at h
    · simp only [Option.some.injEq] at h
      have := sum_weight_member_le (generic s).args
      rw [h] at this
      omega
    · simp at h
  · split at h
    · rename_i he
      have hlt : weight s.tail.dropLast < weight s := by
        rcases Bool.or_eq_true _ _ ▸ he with he | he
        · exact weight_lt_of_isEnclosed he rfl
        · exact weight_lt_of_isEnclosed he rfl
      split at h
      · simp at h
      · split at h
        · simp only [Option.some.injEq] at h
          have m := sum_weight_member_le (splitCommas s.tail.dropLast)
          have c := sum_weight_splitBy_le "," s.tail.dropLast
          have comma : weight ",".toList = 1 := rfl
          rw [h] at m
          rw [comma] at c
          simp only [splitCommas] at m
          by_cases hn : splitBy "," s.tail.dropLast = []
          · rw [hn] at m
            simp at m
            omega
          · have := List.length_pos_iff.2 hn
            omega
        · simp at h
    · simp at h

end Concord.Spelling
