import Concord.Proofs.Spelling.Innermost
import Concord.Proofs.Spelling.Tuple

/-!
# Concord.Proofs.Spelling.Grouped

Types in parentheses of their own: `(User)`, `(A | null)[]`.  The parentheses are no tuple and no
function, and nothing takes them off: they keep every layer inside from being found, and are dropped
with all other marks where a base is read from the last segment.

* `isInnermost_grouped` — no layer surrounds a grouped type;
* `shapeChars_grouped` — its shape is the name in its last segment, without any flag.
-/

namespace Concord.Spelling

open Text

/-- A type in parentheses. -/
def grouped (t : List Char) : List Char := '(' :: (t ++ [')'])

/-- The last segment of a spelling, up to its end. -/
def lastSegment (s : List Char) : List Char := (segments s).getLastD []

/-- A type that parentheses make a group of, and no tuple and no function.  Since the reader takes
the head of `->` for a bracket, that nothing is split at a comma and at a bar is said of the reader:
it holds of every type without arrows and of every type without commas and bars
(`IsArgument.isGroupable`). -/
structure IsGroupable (t : List Char) : Prop extends IsArgument t where
  notFunction : holds "=>" t = false
  commas : pieces [','] none 0 t = [t]
  bars : pieces ['|'] none 0 (grouped t) = [grouped t]

/-! ## The last segment -/

/-- Every text has a segment. -/
theorem segments_ne_nil (s : List Char) : segments s ≠ [] := by
  induction s using segments.induct with
  | case1 => simp [segments]
  | case2 s ih => simp [segments]
  | case3 s ih => simp [segments]
  | case4 c s colons dot ih =>
      rw [segments]
      · exact consFirst_ne_nil c _
      · exact colons
      · exact dot

/-- What stands at the end of a text belongs to its last segment. -/
theorem segments_append_end {r : List Char} (dot : '.' ∉ r) (colon : ':' ∉ r) (s : List Char) :
    segments (s ++ r) = (segments s).dropLast ++ [lastSegment s ++ r] := by
  have next (s : List Char) : ([] :: segments s).dropLast ++ [([] :: segments s).getLastD [] ++ r] =
      [] :: ((segments s).dropLast ++ [lastSegment s ++ r]) := by
    cases parts : segments s with
    | nil => exact absurd parts (segments_ne_nil s)
    | cons p ps => simp [lastSegment, parts]
  induction s using segments.induct with
  | case1 => simp [segments_eq_singleton dot colon, lastSegment, segments]
  | case2 s ih => simpa [segments, lastSegment, ih] using (next s).symm
  | case3 s ih => simpa [segments, lastSegment, ih] using (next s).symm
  | case4 c s colons dots ih =>
      have whole : segments (c :: s) = consFirst c (segments s) := by rw [segments] <;> assumption
      have longer : segments (c :: (s ++ r)) = consFirst c (segments (s ++ r)) := by
        rw [segments]
        · intro r' hc rest
          cases s with
          | nil => exact colon (by simp [show r = ':' :: r' from rest])
          | cons d s => exact colons s hc (by rw [(List.cons.inj rest).1])
        · exact dots
      rw [List.cons_append, longer, ih, lastSegment, lastSegment, whole]
      cases parts : segments s with
      | nil => exact absurd parts (segments_ne_nil s)
      | cons p ps => cases ps <;> simp [consFirst]

/-! ## Texts that begin with a parenthesis -/

section Paren

variable {r : List Char}

/-- The only word of the vocabulary that begins with a parenthesis is the unit type. -/
theorem known_paren : ∀ family ∈ Vocabulary.families, ∀ known ∈ family.2,
    known.toList.head? = some '(' → known.toList = ['(', ')'] := by
  decide +kernel

/-- A text that begins with a parenthesis is no word of the vocabulary, but for the empty pair. -/
theorem canonical?_paren (h : r.filter (· ≠ ' ') ≠ [')']) :
    Vocabulary.canonical? ('(' :: r) = none := by
  have unknown {s : List Char} (hs : s ≠ [')']) : Vocabulary.lookup? ('(' :: s) = none :=
    lookup?_eq_none_of_not (p := fun s => s.head? = some '(' → s = ['(', ')']) known_paren
      fun unit => hs (List.cons.inj (unit rfl)).2
  have whole : r ≠ [')'] := fun same => h (by rw [same]; rfl)
  have solid : ('(' :: r).filter (· ≠ ' ') = '(' :: r.filter (· ≠ ' ') := rfl
  rw [Vocabulary.canonical?, unknown whole, solid, unknown h]
  rfl

/-- A text that begins with a parenthesis is a function by its arrow only. -/
theorem isFunction_paren (arrow : holds "=>" r = false)
    (head : IsMarked (generic ('(' :: r)).head) : isFunction ('(' :: r) = false := by
  have noArrow : holds "=>" ('(' :: r) = false := by
    rw [holds, arrow, begins_cons_eq_false (by decide)]
    rfl
  rw [isFunction, head.isOneOf (by decide), begins_cons_eq_false (by decide),
    begins_cons_eq_false (by decide), begins_cons_eq_false (by decide),
    begins_cons_eq_false (by decide), noArrow, Bool.and_false]
  rfl

end Paren

/-! ## Groups -/

theorem getLast?_grouped (t : List Char) : (grouped t).getLast? = some ')' := by
  rw [grouped, ← List.cons_append, List.getLast?_concat]

/-- A grouped text has nothing to trim. -/
theorem trim_grouped (t : List Char) : trim (grouped t) = grouped t := by
  have whole : trim ([] ++ '(' :: (t ++ [')'])) = [] ++ '(' :: (t ++ [')']) :=
    trim_group rfl rfl rfl t
  exact whole

theorem generic_grouped (t : List Char) : generic (grouped t) = ⟨grouped t, []⟩ :=
  generic_eq_self (trim_grouped t) (by simp [getLast?_grouped]) (by simp [getLast?_grouped])

/-- The parentheses belong to the first and to the last segment, which may be one. -/
theorem segments_grouped (t : List Char) :
    ∃ front last, segments (grouped t) = front ++ [last] ∧ last ≠ [] ∧
      last.filter isWordChar = (lastSegment t).filter isWordChar := by
  have lead : segments (grouped t) = consFirst '(' (segments (t ++ [')'])) :=
    segments_append (p := ['(']) (by simp) (by simp) (t ++ [')'])
  have notWord : isWordChar '(' = false ∧ isWordChar ')' = false := by decide +kernel
  rw [segments_append_end (by simp) (by simp)] at lead
  cases front : (segments t).dropLast with
  | nil =>
      rw [front] at lead
      exact ⟨[], '(' :: (lastSegment t ++ [')']), lead, List.cons_ne_nil _ _, by simp [notWord]⟩
  | cons p ps =>
      rw [front] at lead
      exact ⟨('(' :: p) :: ps, lastSegment t ++ [')'], lead, by simp, by simp [notWord]⟩

theorem wordBase_congr {a b : List Char} (h : a.filter isWordChar = b.filter isWordChar) :
    wordBase a = wordBase b := by
  simp only [wordBase, h]

/-- Parentheses are no part of the base of the last segment. -/
theorem wordBase_lastSegment_grouped (t : List Char) :
    wordBase (lastSegment (grouped t)) = wordBase (lastSegment t) := by
  obtain ⟨front, last, split, -, same⟩ := segments_grouped t
  have read : lastSegment (grouped t) = last := by simp [lastSegment, split]
  rw [read, wordBase_congr same]

theorem holds_arrow_grouped (t r : List Char) (head : '>' ∉ r) :
    holds "=>" (t ++ ')' :: r) = holds "=>" t :=
  holds_arrow_append (by simpa using head) t

/-- An argument does not end in a comma. -/
theorem IsArgument.getLast?_ne_comma {t : List Char} (h : IsArgument t) :
    t.getLast? ≠ some ',' := by
  intro last
  obtain ⟨w, text⟩ := List.getLast?_eq_some_iff.1 last
  refine h.closed ⟨w, [], text, ?_⟩
  have nested := h.nested
  rw [text, IsNested, openBehind_append, Option.bind_eq_some_iff] at nested
  obtain ⟨depth, front, behind⟩ := nested
  have flat : openBehind (lastOf none w) depth [','] = some depth :=
    openBehind_of_flat (by simp [isOpener, isCloser]) _ _
  rw [flat] at behind
  rw [IsNested, front, behind]

/-- An argument is not blank. -/
theorem IsArgument.filter_ne_nil {t : List Char} (h : IsArgument t) :
    t.filter (· ≠ ' ') ≠ [] := by
  obtain ⟨c, r, rfl⟩ := List.exists_cons_of_ne_nil h.nonempty
  have blank := (notBlank_of_trim_eq_self h.trimmed).1 c rfl
  have ne : c ≠ ' ' := by
    rintro rfl
    exact absurd blank (by decide)
  simp [ne]

/-- A text that is one piece is one piece in parentheses too. -/
theorem pieces_grouped {separator : Char} (notOpener : '(' ≠ separator) (notCloser : ')' ≠ separator)
    {t : List Char} (whole : pieces [separator] none 0 t = [t]) :
    pieces [separator] none 0 (grouped t) = [grouped t] := by
  rw [grouped, pieces_cons_of_not fun same => notOpener same.2, pieces_prev (by decide),
    pieces_deeper notCloser (Nat.zero_le _) whole]
  rfl

/-- An argument with no head of a double arrow can be grouped, if it has no arrow at all or nothing
that a reader could split at. -/
theorem IsArgument.isGroupable {t : List Char} (h : IsArgument t) (notFunction : holds "=>" t = false)
    (whole : hasArrow t = false ∨ ',' ∉ t ∧ '|' ∉ t) : IsGroupable t where
  toIsArgument := h
  notFunction := notFunction
  commas := by
    cases whole with
    | inl arrow => exact pieces_whole (h.isPart arrow).closed
    | inr apart => exact pieces_eq_singleton (c := ',') (by decide) none 0 apart.1
  bars := by
    cases whole with
    | inl arrow =>
        have group : pieces ['|'] none 0 ([] ++ '(' :: (t ++ [')'])) = [[] ++ '(' :: (t ++ [')'])] :=
          pieces_group (by simp) rfl rfl (by simp) rfl rfl h.nested arrow
        exact group
    | inr apart =>
        exact pieces_grouped (by decide) (by decide)
          (pieces_eq_singleton (c := '|') (by decide) none 0 apart.2)

namespace IsGroupable

variable {t : List Char}

theorem splitCommas_eq (h : IsGroupable t) : splitCommas t = [t] :=
  splitBy_of_pieces h.trimmed h.nonempty h.commas

theorem splitBy_bar_grouped (h : IsGroupable t) : splitBy "|" (grouped t) = [grouped t] :=
  splitBy_of_pieces (trim_grouped t) (List.cons_ne_nil _ _) h.bars

/-- A grouped text is no tuple. -/
theorem tupleElements?_grouped (h : IsGroupable t) : tupleElements? (grouped t) = none := by
  have inside : (grouped t).tail.dropLast = t := by simp [grouped]
  have last : (trimEnd t).getLast? ≠ some ',' := by
    rw [trimEnd_eq_self (notBlank_of_trim_eq_self h.trimmed).2]
    exact h.getLast?_ne_comma
  have marked : IsMarked (grouped t) := isMarked_of_isOpener rfl _
  have unqualified : stripQualifiers (grouped t) = grouped t :=
    stripQualifiers_of_isOpener rfl (trim_grouped t)
  rw [tupleElements?, unqualified, tupleMembers?, generic_grouped, marked.isTupleHead_eq_false]
  simp [inside, h.splitCommas_eq, last]

/-- **No layer surrounds a grouped type.** -/
theorem isInnermost_grouped (h : IsGroupable t) : IsInnermost (grouped t) where
  unqualified := stripQualifiers_of_isOpener rfl (trim_grouped t)
  unknown := canonical?_paren (by simpa using h.filter_ne_nil)
  headMarked := by
    rw [generic_grouped]
    exact isMarked_of_isOpener rfl _
  marked := isMarked_of_isOpener rfl _
  first := by simp [grouped]
  function := by
    refine isFunction_paren ?_ ?_
    · rw [holds_arrow_grouped t [] (by simp)]
      exact h.notFunction
    · rw [← grouped, generic_grouped]
      exact isMarked_of_isOpener rfl _
  tuple := h.tupleElements?_grouped
  array := before?_eq_none_of_last (d := ']') (getLast?_grouped t) rfl (by decide)
  map := begins_cons_eq_false (by decide) _
  optional := before?_eq_none_of_last (d := '?') (getLast?_grouped t) rfl (by decide)
  union := h.splitBy_bar_grouped

/-- The name of a grouped text's base is that of its last segment. -/
theorem baseName_grouped (h : IsGroupable t) : baseName (grouped t) = wordBase (lastSegment t) := by
  obtain ⟨front, last, split, filled, same⟩ := segments_grouped t
  have head : (generic (grouped t)).head = grouped t := congrArg Generic.head (generic_grouped t)
  have read : segments (generic (grouped t)).head = front ++ [last] := by rw [head, split]
  have base : baseName (grouped t) = wordBase last := by
    refine baseName_of_segments ?_ ?_ ?_ read filled
    · rw [head, trim_grouped]
    · rw [head]
      exact List.cons_ne_nil _ _
    · rw [head, h.isInnermost_grouped.unknown]
  rw [base, wordBase_congr same]

/-- **The shape of a grouped text is the word of its last segment, and has no flag.** -/
theorem shapeChars_grouped_eq (h : IsGroupable t) :
    shapeChars (grouped t) = { base := wordBase (lastSegment t) } := by
  rw [h.isInnermost_grouped.shapeChars_eq, h.baseName_grouped]

/-! ## Arrays of groups -/

theorem trim_array (t : List Char) :
    trim (grouped t ++ '[' :: ([] ++ [']'])) = grouped t ++ '[' :: ([] ++ [']']) :=
  trim_group rfl rfl (trim_grouped t) []

/-- A grouped text in front of empty brackets is a head without arguments. -/
theorem generic_array (t : List Char) :
    generic (grouped t ++ '[' :: ([] ++ [']'])) = ⟨grouped t ++ '[' :: ([] ++ [']']), []⟩ := by
  have empty : IsNested [] := rfl
  have opens : isOpener '[' = true := rfl
  have group := openGroup_of_isNested opens empty rfl (grouped t)
  rw [generic_of_openGroup (.inr ⟨rfl, rfl⟩) group (trim_array t), if_neg (by simp)]

/-- Brackets behind a group make an array of it. -/
theorem shapeChars_array (h : IsGroupable t) :
    shapeChars (grouped t ++ "[]".toList) = Kind.array.mark (shapeChars (grouped t)) := by
  have text : grouped t ++ "[]".toList = '(' :: (t ++ ')' :: ['[', ']']) := by simp [grouped]
  have trimmed : trim (grouped t ++ "[]".toList) = grouped t ++ "[]".toList := trim_array t
  have head : (generic (grouped t ++ "[]".toList)).head = grouped t ++ "[]".toList :=
    congrArg Generic.head (generic_array t)
  have found : element? (grouped t ++ "[]".toList) = some (grouped t) := by
    rw [element?, before?_append, afterLength?_eq_none (by rw [text]; simp)]
  rw [text] at trimmed head found ⊢
  have marked := isMarked_of_isOpener (c := '(') rfl (t ++ ')' :: ['[', ']'])
  have unqualified := stripQualifiers_of_isOpener rfl trimmed
  have unknown : Vocabulary.canonical? ('(' :: (t ++ ')' :: ['[', ']'])) = none :=
    canonical?_paren fun same => by simpa using congrArg List.getLast? same
  have function : isFunction ('(' :: (t ++ ')' :: ['[', ']'])) = false :=
    isFunction_paren (by rw [holds_arrow_grouped t _ (by simp)]; exact h.notFunction)
      (by rw [head]; exact marked)
  have tuple : tupleElements? ('(' :: (t ++ ')' :: ['[', ']'])) = none := by
    have open' : isEnclosed '(' ')' ('(' :: (t ++ ')' :: ['[', ']'])) = false := by
      simp [isEnclosed, List.getLast?_append]
    rw [tupleElements?, unqualified, tupleMembers?, head, marked.isTupleHead_eq_false, open',
      isEnclosed_eq_false (by simp)]
    rfl
  refine shapeChars_of_peel ?_
  rw [peel_eq_peelBare unqualified (List.cons_ne_nil _ _) (by simp) (by simp),
    peelBare_of_isMarked unknown (by rw [head]; exact marked), peelBare.peelPlain, function, tuple,
    found]
  rfl

/-- A group in parentheses is a group. -/
theorem grouped_isGroupable (h : IsGroupable t) : IsGroupable (grouped t) where
  toIsArgument := by
    have written : IsArgument (Generic.written '(' ')' ⟨[], [t]⟩) :=
      isArgument_written rfl rfl (by simp) rfl (by simp) (by simpa using h.toIsArgument)
        (by simp [isArrowhead])
    have text : Generic.written '(' ')' ⟨[], [t]⟩ = grouped t := by
      simp [Generic.written, listed, grouped]
    rwa [text] at written
  notFunction := by
    have noArrow : holds "=>" (t ++ [')']) = false := by
      rw [holds_arrow_grouped t [] (by simp), h.notFunction]
    rw [grouped, holds, noArrow, begins_cons_eq_false (by decide)]
    rfl
  commas := pieces_grouped (by decide) (by decide) h.commas
  bars := pieces_grouped (by decide) (by decide) h.bars

end IsGroupable

/-- **A grouped type is the name in its last segment**, however many parentheses there are, and
brackets behind it only make an array of that.  So parentheses around the name of a type change
nothing, and around a type with a flag they lose the flag. -/
theorem shapeChars_grouped {t : List Char} (h : IsGroupable t) :
    shapeChars (grouped t) = { base := wordBase (lastSegment t) } ∧
      shapeChars (grouped (grouped t)) = shapeChars (grouped t) ∧
      shapeChars (grouped t ++ "[]".toList) =
        { base := wordBase (lastSegment t), isArray := true } ∧
      (IsPlainWord t → Vocabulary.lookup? t = none → isOneOf Vocabulary.functions t = false →
        isOneOf Vocabulary.sequences t = false → isOneOf Vocabulary.maps t = false →
        shapeChars (grouped t) = shapeChars t) ∧
      ((shapeChars t).isPointer ∨ (shapeChars t).isArray ∨ (shapeChars t).isMap →
        shapeChars (grouped t) ≠ shapeChars t) := by
  have shape := h.shapeChars_grouped_eq
  refine ⟨shape, ?_, ?_, fun word unknown function sequence map => ?_, fun flag same => ?_⟩
  · rw [h.grouped_isGroupable.shapeChars_grouped_eq, wordBase_lastSegment_grouped, shape]
  · rw [h.shapeChars_array, shape]
    rfl
  · rw [shape, shapeChars_plain word, plainShape, unknown, function, sequence, map, lastSegment,
      word.segments_eq]
    rfl
  · rw [← same, shape] at flag
    simp at flag

/-- A name in parentheses. -/
theorem shapeChars_grouped_user :
    IsGroupable "User".toList ∧ shapeChars "((User))".toList = shapeChars "(User)".toList ∧
      shapeChars "(User)".toList = shapeChars "User".toList :=
  have groupable : IsGroupable "User".toList :=
    IsArgument.isGroupable (by decide +kernel) (by decide +kernel) (.inl (by decide +kernel))
  have word : IsPlainWord "User".toList := ⟨by decide, List.all_eq_true.1 (by decide +kernel)⟩
  have read := shapeChars_grouped groupable
  ⟨groupable, read.2.1, read.2.2.2.1 word (by decide +kernel) (by decide +kernel)
    (by decide +kernel) (by decide +kernel)⟩

/-- The parentheses of a union hide it, so that its members run together. -/
theorem grouping_hides_union :
    (IsArgument "A | null".toList ∧ holds "=>" "A | null".toList = false ∧
      hasArrow "A | null".toList = false) ∧
      shapeChars "(A | null)[]".toList = { base := "anull", isArray := true } ∧
      shapeChars "(A | null)".toList = { base := "anull" } ∧
      shapeChars "A | null".toList = { base := "a", isPointer := true } := by
  decide +kernel

end Concord.Spelling
