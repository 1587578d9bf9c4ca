import Mathlib.Data.List.Infix
import Concord.Proofs.Text.Rows
import Concord.Text.Cut

/-!
# Concord.Proofs.Text.Words

Texts split at a word, and texts without a word.

* `splitAtWord_singleton` — a word of one character splits a text as the library does;
* `removed_eq_self` — a text that does not hold the word is left alone;
* `removed_append` — the word is removed from the parts of a text one by one, unless it begins in
  one and ends in the next.
-/

namespace Concord.Text

/-! ## Splitting -/

/-- A text without the first character of the word is not split. -/
theorem splitAtWord_of_notMem {c : Char} {word s : List Char} (h : c ∉ s) :
    splitAtWord (c :: word) s = [s] := by
  induction s with
  | nil => rw [splitAtWord]
  | cons d s ih =>
    rw [List.mem_cons, not_or] at h
    rw [splitAtWord, ih h.2]
    simp [List.isPrefixOf, h.1, consFirst]

/-- A text is split at the first place where the word begins. -/
theorem splitAtWord_append {c : Char} {word s : List Char} (h : c ∉ s) (rest : List Char) :
    splitAtWord (c :: word) (s ++ c :: word ++ rest) = s :: splitAtWord (c :: word) rest := by
  induction s with
  | nil =>
    rw [List.nil_append, List.cons_append, splitAtWord]
    simp
  | cons d s ih =>
    rw [List.mem_cons, not_or] at h
    rw [List.cons_append, List.cons_append, splitAtWord, ih h.2]
    simp [List.isPrefixOf, h.1, consFirst]

/-- A word of one character splits a text into its rows. -/
theorem splitAtWord_singleton (c : Char) (s : List Char) : splitAtWord [c] s = s.splitOn c := by
  induction s using rows_induction c with
  | last row free => rw [splitAtWord_of_notMem free, List.splitOn_eq_singleton free]
  | next row rest free ih =>
    have split : splitAtWord [c] (row ++ [c] ++ rest) = row :: splitAtWord [c] rest :=
      splitAtWord_append free rest
    rw [List.append_assoc, List.singleton_append] at split
    rw [splitOn_append_cons free, split, ih]

/-- No part of a split text holds the separator. -/
theorem notMem_of_mem_splitOn {c : Char} {s m : List Char} (h : m ∈ s.splitOn c) : c ∉ m := by
  induction s using rows_induction c with
  | last row free =>
    rw [List.splitOn_eq_singleton free, List.mem_singleton] at h
    exact h ▸ free
  | next row rest free ih =>
    rw [splitOn_append_cons free, List.mem_cons] at h
    exact h.elim (fun first => first ▸ free) ih

/-! ## Removing -/

/-- Parts joined by nothing are appended. -/
theorem intercalate_nil_left (ps : List (List Char)) : ([] : List Char).intercalate ps = ps.flatten := by
  induction ps with
  | nil => rfl
  | cons p ps ih =>
    cases ps with
    | nil => simp
    | cons q ps =>
      rw [List.intercalate_cons_cons, ih, List.append_nil]
      rfl

theorem removed_eq_flatten (word : String) (s : List Char) :
    replaceWord word "" s = (splitAtWord word.toList s).flatten := intercalate_nil_left _

section Removing

variable {word : String} (nonempty : word.toList ≠ [])

theorem removed_nil : replaceWord word "" [] = [] := by
  rw [removed_eq_flatten, splitAtWord]
  rfl

/-- A character that does not begin the word is kept. -/
theorem removed_cons {c : Char} {r : List Char} (apart : begins word (c :: r) = false) :
    replaceWord word "" (c :: r) = c :: replaceWord word "" r := by
  rw [begins] at apart
  rw [removed_eq_flatten, removed_eq_flatten, splitAtWord, apart, Bool.and_false,
    if_neg Bool.false_ne_true]
  cases splitAtWord word.toList r <;> rfl

/-- What stands in front of the first character that the word may begin with is kept. -/
theorem removed_append_of_notMem {c : Char} (first : word.toList.head? = some c) {front : List Char}
    (free : c ∉ front) (s : List Char) :
    replaceWord word "" (front ++ s) = front ++ replaceWord word "" s := by
  induction front with
  | nil => rfl
  | cons d r ih =>
    rw [List.mem_cons, not_or] at free
    have apart : begins word (d :: (r ++ s)) = false := by
      obtain ⟨w, spelled⟩ := List.head?_eq_some_iff.1 first
      simp [begins, spelled, List.isPrefixOf, free.1]
    rw [List.cons_append, removed_cons apart, ih free.2, List.cons_append]

/-- A text without the word is left alone. -/
theorem removed_eq_self {s : List Char} (h : holds word s = false) : replaceWord word "" s = s := by
  induction s with
  | nil => exact removed_nil
  | cons c r ih =>
    rw [holds, Bool.or_eq_false_iff] at h
    rw [removed_cons h.1, ih h.2]

include nonempty

/-- The word in front of a text is removed. -/
theorem removed_word_append (s : List Char) :
    replaceWord word "" (word.toList ++ s) = replaceWord word "" s := by
  obtain ⟨c, w, spelled⟩ := List.exists_cons_of_ne_nil nonempty
  rw [removed_eq_flatten, removed_eq_flatten, spelled, List.cons_append, splitAtWord]
  simp

/-- **The word is removed from the parts of a text one by one** if no end of it begins the second
part. -/
theorem removed_append {behind : List Char}
    (apart : ∀ w ∈ word.toList.tail.tails, w <+: behind → w = [])
    (s : List Char) :
    replaceWord word "" (s ++ behind) = replaceWord word "" s ++ replaceWord word "" behind := by
  cases s with
  | nil => rw [removed_nil, List.nil_append, List.nil_append]
  | cons c r =>
    by_cases here : begins word (c :: r) = true
    · obtain ⟨rest, text⟩ := List.isPrefixOf_iff_prefix.1 here
      have shorter : rest.length < (c :: r).length := by
        have := List.length_pos_iff.2 nonempty
        rw [← text, List.length_append]
        omega
      rw [← text, List.append_assoc, removed_word_append nonempty, removed_word_append nonempty,
        removed_append apart rest]
    -- A word that begins here, but not inside this part, would end in `behind`.
    · have there : begins word (c :: (r ++ behind)) = false := by
        rw [begins, Bool.eq_false_iff]
        intro starts
        have starts : word.toList <+: (c :: r) ++ behind := List.isPrefixOf_iff_prefix.1 starts
        cases List.prefix_or_prefix_of_prefix starts (List.prefix_append _ _) with
        | inl inside => exact here (List.isPrefixOf_iff_prefix.2 inside)
        | inr across =>
          obtain ⟨w, spelled⟩ := across
          rw [← spelled, List.prefix_append_right_inj] at starts
          have tail : w ∈ word.toList.tail.tails := by
            rw [← spelled, List.mem_tails]
            exact List.suffix_append r w
          rw [apart w tail starts, List.append_nil] at spelled
          exact here (List.isPrefixOf_iff_prefix.2 (spelled ▸ List.prefix_rfl))
      rw [List.cons_append, removed_cons there, removed_cons (Bool.eq_false_iff.2 here),
        removed_append apart r, List.cons_append]
termination_by s.length
decreasing_by
  · exact shorter
  · exact Nat.lt_succ_self _

end Removing

end Concord.Text
