import Concord.Proofs.Spelling.Pieces

/-!
# Concord.Proofs.Spelling.Joined

Splitting at a separator as the inverse of joining with it.

* `splitBy_intercalate` — parts are read back from their row;
* `of_mem_splitBy` — whatever is split, what comes out is trimmed, stands in the text and is not
  empty.

`splitBy_joined` puts them together.
-/

namespace Concord.Spelling

open Text

/-! ## Parts of any text -/

/-- The first piece begins the text, and all others stand in it. -/
theorem pieces_areInfixes (separator : List Char) (prev : Option Char) (depth : Nat)
    (s : List Char) :
    ∃ p ps, pieces separator prev depth s = p :: ps ∧ p <+: s ∧ ∀ q ∈ ps, q <:+: s := by
  fun_induction pieces separator prev depth s with
  | case1 => exact ⟨[], [], rfl, List.prefix_rfl, List.forall_mem_nil _⟩
  | case2 prev depth c r d here ih =>
    obtain ⟨p, ps, split, first, others⟩ := ih
    have behind : r.drop (separator.length - 1) <:+: c :: r :=
      ((List.drop_suffix _ r).trans (List.suffix_cons c r)).isInfix
    refine ⟨[], p :: ps, by rw [split], List.nil_prefix, List.forall_mem_cons.2 ⟨?_, ?_⟩⟩
    · exact first.isInfix.trans behind
    · exact fun q hq => (others q hq).trans behind
  | case3 prev depth c r d here ih =>
    obtain ⟨p, ps, split, first, others⟩ := ih
    refine ⟨c :: p, ps, by rw [split, consFirst], ?_, fun q hq => ?_⟩
    · exact (List.prefix_cons_inj c).2 first
    · exact (others q hq).trans (List.suffix_cons c r).isInfix

theorem trim_isInfix (s : List Char) : trim s <:+: s := by
  obtain ⟨l, r, text, -⟩ := exists_trim s
  exact ⟨l, r, text.symm⟩

/-- **What a text is split into is trimmed, stands in it and is not empty.** -/
theorem of_mem_splitBy {separator : String} {s p : List Char} (h : p ∈ splitBy separator s) :
    p ≠ [] ∧ trim p = p ∧ p <:+: s := by
  rw [splitBy, List.mem_filter, List.mem_map] at h
  obtain ⟨⟨q, hq, rfl⟩, nonempty⟩ := h
  refine ⟨of_decide_eq_true nonempty, trim_trim q, (trim_isInfix q).trans ?_⟩
  obtain ⟨first, others, split, begins, inside⟩ :=
    pieces_areInfixes separator.toList none 0 s
  rw [split] at hq
  rcases List.mem_cons.1 hq with rfl | hq
  · exact begins.isInfix
  · exact inside q hq

/-- **Splitting undoes joining**: parts are read back from their row, with or without white space
around the separator.  Whatever else is split, the parts are trimmed, stand in the text and are not
empty. -/
theorem splitBy_joined {separator : Char} (h : IsSeparator separator) {left right : List Char}
    (blankLeft : ∀ c ∈ left, isBlank c = true) (blankRight : ∀ c ∈ right, isBlank c = true)
    {parts : List (List Char)} (hp : ∀ p ∈ parts, IsPart separator p) :
    splitBy (String.singleton separator) ((left ++ separator :: right).intercalate parts) = parts ∧
      ∀ word s, ∀ p ∈ splitBy word s, p ≠ [] ∧ trim p = p ∧ p <:+: s :=
  ⟨splitBy_intercalate h blankLeft blankRight hp, fun _ _ _ => of_mem_splitBy⟩

/-- Three parts, of which only the last is nested, are read back from their row. -/
theorem splitBy_joined_unmatched :
    let parts := ["f(x]".toList, ">a".toList, "(y) => [z | w]".toList]
    (∀ p ∈ parts, IsPart '|' p) ∧
      " | ".toList.intercalate parts = "f(x] | >a | (y) => [z | w]".toList ∧
      splitBy "|" "f(x] | >a | (y) => [z | w]".toList = parts := by
  intro parts
  have areParts : ∀ p ∈ parts, IsPart '|' p := by decide
  have bar : IsSeparator '|' := by decide
  have blank : ∀ c ∈ [' '], isBlank c = true := List.forall_mem_singleton.2 rfl
  exact ⟨areParts, rfl, (splitBy_joined bar blank blank areParts).1⟩

end Concord.Spelling
