import Concord.Proofs.Spelling.Pieces

/-!
# Concord.Proofs.Spelling.Members

Nested texts put together from members, which need not be nested themselves: a union is cut at every
bar, also at those inside brackets.

```
Map<K, A | null | B>     Map<K, A     null     B>
```

* `openInside` — brackets counted as `openBehind` does, as long as the separator stands inside them;
* `openInside_intercalate` — joined members are read one after the other, whatever is the gap between
  them, so that one without brackets may be left out.
-/

namespace Concord.Spelling

open Text

/-! ## Separators inside brackets -/

/-- The number of brackets that are open behind a text, as `openBehind` counts them; nothing if the
separator stands outside all brackets. -/
def openInside (separator : Char) (prev : Option Char) (depth : Nat) : List Char → Option Nat
  | [] => some depth
  | c :: r =>
    if depth = 0 ∧ c = separator then none
    else (openBehind prev depth [c]).bind fun d => openInside separator (some c) d r

variable {separator : Char}

theorem openBehind_eq_bind (prev : Option Char) (depth : Nat) (c : Char) (r : List Char) :
    openBehind prev depth (c :: r) =
      (openBehind prev depth [c]).bind fun d => openBehind (some c) d r :=
  openBehind_append prev depth [c] r

/-- A text leaves the depth known and no separator outside exactly if the reader of members passes
it. -/
theorem openInside_eq_some_iff {prev : Option Char} {depth depth' : Nat} {s : List Char} :
    openInside separator prev depth s = some depth' ↔
      openBehind prev depth s = some depth' ∧
        ∀ u v, s = u ++ separator :: v → openBehind prev depth u ≠ some 0 := by
  induction s generalizing prev depth with
  | nil => simp [openInside, openBehind]
  | cons c r ih =>
    rw [openInside]
    -- A separator right here has the empty text in front of it, which leaves nothing open.
    by_cases here : depth = 0 ∧ c = separator
    · rw [if_pos here]
      obtain ⟨rfl, rfl⟩ := here
      constructor
      · intro read
        cases read
      · rintro ⟨-, inside⟩
        exact absurd rfl (inside [] r rfl)
    · rw [if_neg here, openBehind_eq_bind prev depth c r, Option.bind_eq_some_iff,
        Option.bind_eq_some_iff]
      constructor
      · rintro ⟨d, first, rest⟩
        obtain ⟨closes, inside⟩ := ih.1 rest
        refine ⟨⟨d, first, closes⟩, fun u v text => ?_⟩
        cases u with
        | nil =>
          obtain ⟨rfl, -⟩ := List.cons.inj text
          exact fun zero => here ⟨Option.some.inj zero, rfl⟩
        | cons e u =>
          obtain ⟨rfl, behind⟩ := List.cons.inj text
          rw [openBehind_eq_bind prev depth c u, first]
          exact inside u v behind
      · rintro ⟨⟨d, first, closes⟩, inside⟩
        refine ⟨d, first, ih.2 ⟨closes, fun u v text => ?_⟩⟩
        have := inside (c :: u) v (by rw [text]; rfl)
        rwa [openBehind_eq_bind prev depth c u, first] at this

/-- A nested text with the separator inside brackets only is read to its end. -/
theorem openInside_eq_zero_iff {s : List Char} :
    openInside separator none 0 s = some 0 ↔ IsNested s ∧ ¬ StandsOutside separator s := by
  rw [openInside_eq_some_iff, IsNested, StandsOutside]
  simp only [not_exists, not_and, IsNested, ne_eq]

/-- The depth behind an appended text is counted on from the depth behind the first part. -/
theorem openInside_append (prev : Option Char) (depth : Nat) (s t : List Char) :
    openInside separator prev depth (s ++ t) =
      (openInside separator prev depth s).bind fun d => openInside separator (lastOf prev s) d t := by
  induction s generalizing prev depth with
  | nil => rfl
  | cons c r ih =>
    simp only [List.cons_append, openInside, lastOf_cons, ih]
    split_ifs
    · rfl
    · rw [Option.bind_assoc]

theorem openInside_prev {prev : Option Char} (equals : prev ≠ some '=') (minus : prev ≠ some '-')
    (depth : Nat) (s : List Char) :
    openInside separator prev depth s = openInside separator none depth s := by
  cases s with
  | nil => rfl
  | cons c r => rw [openInside, openInside, openBehind_prev equals minus]

/-- A text that opens and closes nothing and does not hold the separator is passed over. -/
theorem openInside_of_flat {s : List Char}
    (h : ∀ c ∈ s, isOpener c = false ∧ isCloser c = false ∧ c ≠ separator) (prev : Option Char)
    (depth : Nat) : openInside separator prev depth s = some depth := by
  refine openInside_eq_some_iff.2
    ⟨openBehind_of_flat (fun c hc => ⟨(h c hc).1, (h c hc).2.1⟩) prev depth, ?_⟩
  rintro u v rfl
  exact absurd rfl (h separator (by simp)).2.2

/-! ## White space around a text -/

/-- Blanks at the ends change no depth. -/
theorem openInside_trim (solid : isBlank separator = false) (depth : Nat) (s : List Char) :
    openInside separator none depth (trim s) = openInside separator none depth s := by
  obtain ⟨l, r, text, blank⟩ := exists_trim s
  rw [List.forall_mem_append] at blank
  have flat {c : Char} (hc : isBlank c = true) :
      isOpener c = false ∧ isCloser c = false ∧ c ≠ separator := by
    refine ⟨(flat_of_isBlank hc).1, (flat_of_isBlank hc).2, ?_⟩
    rintro rfl
    rw [solid] at hc
    cases hc
  conv_rhs => rw [text]
  rw [List.append_assoc, openInside_append, openInside_of_flat fun c hc => flat (blank.1 c hc),
    Option.bind_some, openInside_prev (lastOf_of_isBlank blank.1).1 (lastOf_of_isBlank blank.1).2,
    openInside_append]
  cases openInside separator none depth (trim s) with
  | none => rfl
  | some d => rw [Option.bind_some, openInside_of_flat fun c hc => flat (blank.2 c hc)]

/-! ## Joined members -/

/-- What stands at the two ends of joined members belongs to the first and the last of them. -/
theorem intercalate_ends (gap front back first last : List Char) (inner : List (List Char)) :
    gap.intercalate ((front ++ first) :: (inner ++ [last ++ back])) =
      front ++ gap.intercalate (first :: (inner ++ [last])) ++ back := by
  induction inner generalizing front first with
  | nil => simp
  | cons m inner ih =>
    have tail := ih [] m
    rw [List.nil_append, List.nil_append] at tail
    rw [List.cons_append, List.cons_append, List.intercalate_cons_cons, List.intercalate_cons_cons,
      tail]
    simp

/-- **Joined members are read one after the other.** -/
theorem openInside_intercalate {gap : List Char} (h : IsGap gap) (apart : separator ∉ gap)
    (members : List (List Char)) (depth : Nat) :
    openInside separator none depth (gap.intercalate members) =
      members.foldlM (openInside separator none) depth := by
  have flat : ∀ c ∈ gap, isOpener c = false ∧ isCloser c = false ∧ c ≠ separator := fun c hc =>
    ⟨(h.flat c hc).1, (h.flat c hc).2, fun same => apart (same ▸ hc)⟩
  induction members generalizing depth with
  | nil => rfl
  | cons m ms ih =>
    rw [List.foldlM_cons]
    cases ms with
    | nil =>
      rw [List.intercalate_singleton]
      exact (bind_pure _).symm
    | cons n ms =>
      rw [List.intercalate_cons_cons, List.append_assoc, openInside_append]
      refine congrArg _ (funext fun d => ?_)
      rw [openInside_append, openInside_of_flat flat, Option.bind_some,
        openInside_prev (h.behind _).1 (h.behind _).2, ih]

end Concord.Spelling
