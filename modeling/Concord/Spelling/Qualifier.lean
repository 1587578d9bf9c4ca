import Concord.Spelling.Bracket
import Concord.Spelling.Vocabulary
import Concord.Text.Word

/-!
# Concord.Spelling.Qualifier

Words and marks in front of a type that do not change which type it is: qualifiers such as `const`
and lifetimes such as `'a`.  They are taken off again and again until none is left.
-/

namespace Concord.Spelling

open Text

/-- The spelling without a lifetime in front: a quote, a word and white space. -/
def dropLifetime (s : List Char) : List Char :=
  match s with
  | '\'' :: r =>
    let rest := r.dropWhile isWordChar
    if !(r.takeWhile isWordChar).isEmpty && rest.head?.any isBlank then rest.dropWhile isBlank
    else s
  | _ => s

/-- Takes one qualifier off the front, if it is there. -/
def dropQualifier (s : List Char) (qualifier : String) : List Char :=
  match after? qualifier s with
  | some r => trim r
  | none => s

theorem after?_sublist {word : String} {s r : List Char} (h : after? word s = some r) :
    r.Sublist s := by
  unfold after? at h
  split at h
  · simp only [Option.some.injEq] at h
    exact h ▸ List.drop_sublist _ _
  · simp at h

theorem before?_sublist {word : String} {s r : List Char} (h : before? word s = some r) :
    r.Sublist s := by
  unfold before? at h
  split at h
  · simp only [Option.some.injEq] at h
    exact h ▸ List.take_sublist _ _
  · simp at h

theorem dropLifetime_sublist (s : List Char) : (dropLifetime s).Sublist s := by
  unfold dropLifetime
  split
  · dsimp only
    split
    · exact ((List.dropWhile_sublist _).trans (List.dropWhile_sublist _)).trans
        (List.sublist_cons_self _ _)
    · exact List.Sublist.refl _
  · exact List.Sublist.refl _

theorem dropQualifier_sublist (s : List Char) (q : String) : (dropQualifier s q).Sublist s := by
  unfold dropQualifier
  split
  · rename_i r h
    exact (trim_sublist r).trans (after?_sublist h)
  · exact List.Sublist.refl _

/-- Takes each qualifier off the front at most once, in turn. -/
def dropQualifiers (s : List Char) : List Char := Vocabulary.qualifiers.foldl dropQualifier s

theorem dropQualifiers_sublist (s : List Char) : (dropQualifiers s).Sublist s := by
  unfold dropQualifiers
  generalize Vocabulary.qualifiers = qs
  induction qs generalizing s with
  | nil => exact List.Sublist.refl _
  | cons q qs ih => exact (ih _).trans (dropQualifier_sublist s q)

/-- The trimmed spelling without a lifetime in front. -/
def lead (s : List Char) : List Char := dropLifetime (trim s)

theorem lead_sublist (s : List Char) : (lead s).Sublist s :=
  (dropLifetime_sublist _).trans (trim_sublist s)

/-- The spelling without the qualifiers in front of it, trimmed. -/
def stripQualifiers (s : List Char) : List Char :=
  if (dropQualifiers (lead s)).length < (lead s).length then
    stripQualifiers (dropQualifiers (lead s))
  else dropQualifiers (lead s)
termination_by s.length
decreasing_by
  have := (lead_sublist s).length_le
  omega

theorem stripQualifiers_sublist (s : List Char) : (stripQualifiers s).Sublist s := by
  fun_induction stripQualifiers s with
  | case1 s h ih => exact (ih.trans (dropQualifiers_sublist _)).trans (lead_sublist s)
  | case2 s h => exact (dropQualifiers_sublist _).trans (lead_sublist s)

end Concord.Spelling
