import Concord.Proofs.Spelling.Nesting

/-!
# Concord.Proofs.Spelling.Pieces

The parts of a nested text without arrows between its commas are nested again, so that each of them
is an argument (`isArgument_of_mem_splitCommas`).
-/

namespace Concord.Spelling

open Text

/-! ## Trimmed texts -/

/-- A text is what is trimmed off in front, the trimmed text and what is trimmed off behind. -/
theorem exists_trim (s : List Char) :
    ∃ l r, s = l ++ trim s ++ r ∧ ∀ c ∈ l ++ r, isBlank c = true := by
  refine ⟨s.takeWhile isBlank, ((trimStart s).reverse.takeWhile isBlank).reverse, ?_, ?_⟩
  · have behind : trim s ++ ((trimStart s).reverse.takeWhile isBlank).reverse = trimStart s := by
      rw [trim, trimEnd, trimEndBy, ← List.reverse_append, List.takeWhile_append_dropWhile,
        List.reverse_reverse]
    rw [List.append_assoc, behind, trimStart, List.takeWhile_append_dropWhile]
  · intro c hc
    rw [List.mem_append, List.mem_reverse] at hc
    exact hc.elim (fun h => List.mem_takeWhile_imp h) (fun h => List.mem_takeWhile_imp h)

theorem notBlank_head?_dropWhile {s : List Char} {c : Char}
    (h : (s.dropWhile isBlank).head? = some c) : isBlank c = false := by
  have := List.head?_dropWhile_not isBlank s
  rwa [h] at this

/-- Trimming twice trims nothing more. -/
theorem trim_trim (s : List Char) : trim (trim s) = trim s := by
  refine trim_eq_self (fun c hc => ?_) (fun c hc => ?_)
  · have lead : trim s <+: trimStart s := by
      rw [trim, trimEnd, trimEndBy, ← List.reverse_suffix, List.reverse_reverse]
      exact List.dropWhile_suffix isBlank
    obtain ⟨r, front⟩ := lead
    refine notBlank_head?_dropWhile (s := s) ?_
    rw [trimStart] at front
    rw [← front, List.head?_append, hc]
    rfl
  · rw [trim, trimEnd, trimEndBy, List.getLast?_reverse] at hc
    exact notBlank_head?_dropWhile hc

/-- Behind a trimmed text only the end of another is trimmed. -/
theorem trim_front_append {front s : List Char} (trimmed : trim front = front)
    (nonempty : front ≠ []) (head : ∀ c, s.head? = some c → isBlank c = false) :
    trim (front ++ s) = front ++ trim s := by
  obtain ⟨first, last⟩ := notBlank_of_trim_eq_self trimmed
  have start : trimStart (front ++ s) = front ++ s :=
    trimStart_eq_self fun c hc => first c (by rwa [List.head?_append_of_ne_nil _ nonempty] at hc)
  have behind : trimEnd (front ++ s) = front ++ trimEnd s := by
    have whole : trimEnd front = front := trimEnd_eq_self last
    rw [trimEnd, trimEndBy] at whole ⊢
    rw [List.reverse_append, List.dropWhile_append, trimEnd, trimEndBy]
    split
    · next blank => rw [whole, List.isEmpty_iff.1 blank, List.reverse_nil, List.append_nil]
    · rw [List.reverse_append, List.reverse_reverse]
  rw [trim, start, behind, trim, trimStart_eq_self head]

/-- In front of a trimmed text only the beginning of another is trimmed. -/
theorem trim_append_back {s back : List Char} (trimmed : trim back = back) (nonempty : back ≠ [])
    (last : ∀ c, s.getLast? = some c → isBlank c = false) : trim (s ++ back) = trim s ++ back := by
  obtain ⟨first, end'⟩ := notBlank_of_trim_eq_self trimmed
  have start : trimStart (s ++ back) = trimStart s ++ back := by
    have whole : trimStart back = back := trimStart_eq_self first
    rw [trimStart, trimStart] at *
    rw [List.dropWhile_append]
    split
    · next blank => rw [whole, List.isEmpty_iff.1 blank, List.nil_append]
    · rfl
  have behind (r : List Char) : trimEnd (r ++ back) = r ++ back :=
    trimEnd_eq_self fun c hc => end' c (by rwa [List.getLast?_append_of_ne_nil _ nonempty] at hc)
  have same : trimEnd (trimStart s) = trimStart s := by
    refine trimEnd_eq_self fun c hc => last c ?_
    rw [← List.takeWhile_append_dropWhile (p := isBlank) (l := s), List.getLast?_append]
    rw [trimStart] at hc
    rw [hc, Option.some_or]
  rw [trim, start, behind, trim, same]

/-- Blanks at the two ends of a text open and close nothing. -/
theorem openBehind_blank {l r : List Char} (hl : ∀ c ∈ l, isBlank c = true)
    (hr : ∀ c ∈ r, isBlank c = true) (s : List Char) (depth : Nat) :
    openBehind none depth (l ++ s ++ r) = openBehind none depth s := by
  rw [List.append_assoc, openBehind_append, openBehind_of_flat fun c hc => flat_of_isBlank (hl c hc),
    Option.bind_some, openBehind_prev (lastOf_of_isBlank hl).1 (lastOf_of_isBlank hl).2,
    openBehind_append]
  cases openBehind none depth s with
  | none => rfl
  | some d =>
    rw [Option.bind_some, openBehind_of_flat fun c hc => flat_of_isBlank (hr c hc)]

/-- A nested text stays nested when it is trimmed. -/
theorem isNested_trim {s : List Char} (h : IsNested s) : IsNested (trim s) := by
  obtain ⟨l, r, text, blank⟩ := exists_trim s
  rw [List.forall_mem_append] at blank
  rw [IsNested, text, openBehind_blank blank.1 blank.2] at h
  exact h

/-- What does not stand outside does not stand outside in the trimmed text. -/
theorem not_standsOutside_trim {c : Char} {s : List Char} (h : ¬ StandsOutside c s) :
    ¬ StandsOutside c (trim s) := by
  rintro ⟨u, v, split, nested⟩
  obtain ⟨l, r, text, blank⟩ := exists_trim s
  rw [List.forall_mem_append] at blank
  refine h ⟨l ++ u, v ++ r, by rw [text, split]; simp, ?_⟩
  have := openBehind_blank blank.1 (r := []) nofun u 0
  rw [List.append_nil] at this
  rw [IsNested, this]
  exact nested

/-- Trimming takes no arrow off. -/
theorem arrows_trim (s : List Char) : arrows none (trim s) = arrows none s := by
  obtain ⟨l, r, text, blank⟩ := exists_trim s
  rw [List.forall_mem_append] at blank
  conv_rhs => rw [text]
  rw [List.append_assoc, arrows_append, arrows_append,
    arrows_prev (lastOf_of_isBlank blank.1).1 (lastOf_of_isBlank blank.1).2,
    arrows_of_flat fun c hc => flat_of_isBlank (blank.1 c hc),
    arrows_of_flat fun c hc => flat_of_isBlank (blank.2 c hc), Nat.zero_add, Nat.add_zero]

theorem hasArrow_trim {s : List Char} (h : hasArrow s = false) : hasArrow (trim s) = false := by
  rw [← arrows_eq_zero_iff, arrows_trim]
  exact (arrows_eq_zero_iff s).2 h

/-! ## Parts of a nested text -/

/-- A text that closes all brackets open in front of it, that holds no arrow, and whose separators
all stand inside brackets. -/
structure IsClosing (separator : Char) (prev : Option Char) (depth : Nat) (s : List Char) : Prop where
  closes : openBehind prev depth s = some 0
  arrow : arrows prev s = 0
  inside : ∀ u v, s = u ++ separator :: v → openBehind prev depth u ≠ some 0

/-- A closing text may be read from the beginning, if no shaft of an arrow stands in front. -/
theorem IsClosing.of_prev {separator : Char} {prev : Option Char} {s : List Char}
    (h : IsClosing separator prev 0 s) (equals : prev ≠ some '=') (minus : prev ≠ some '-') :
    IsClosing separator none 0 s where
  closes := openBehind_prev equals minus 0 s ▸ h.closes
  arrow := arrows_prev equals minus s ▸ h.arrow
  inside u v text := openBehind_prev equals minus 0 u ▸ h.inside u v text

/-- A character that ends no piece stands in front of what closes the brackets behind it. -/
theorem IsClosing.cons {separator : Char} (flat : isOpener separator = false)
    (flat' : isCloser separator = false) {prev : Option Char} {depth : Nat} {c : Char}
    {p : List Char} (h : IsClosing separator (some c) (depthAfter prev depth c) p)
    (noArrow : isArrowhead prev c = false)
    (next : ∀ s, openBehind prev depth (c :: s) = openBehind (some c) (depthAfter prev depth c) s)
    (apart : ¬ (depthAfter prev depth c = 0 ∧ c = separator)) :
    IsClosing separator prev depth (c :: p) where
  closes := by
    rw [next]
    exact h.closes
  arrow := by
    rw [arrows, noArrow, h.arrow]
    rfl
  inside u v text := by
    cases u with
    | nil =>
      obtain ⟨rfl, -⟩ := List.cons.inj text
      intro top
      refine apart ⟨?_, rfl⟩
      rw [depthAfter_of_flat flat flat']
      exact Option.some.inj top
    | cons d u =>
      rw [List.cons_append, List.cons_eq_cons] at text
      rw [← text.1, next]
      exact h.inside u v text.2

/-- The first piece of a text closes the brackets in front of it, and all others are nested. -/
theorem pieces_areClosing (separator : Char) (flat : isOpener separator = false)
    (flat' : isCloser separator = false) (equals : separator ≠ '=') (minus : separator ≠ '-')
    {prev : Option Char} {depth : Nat} {s : List Char} (closes : openBehind prev depth s = some 0)
    (arrow : arrows prev s = 0) :
    ∃ p ps, pieces [separator] prev depth s = p :: ps ∧ IsClosing separator prev depth p ∧
      ∀ q ∈ ps, IsClosing separator none 0 q := by
  induction s generalizing prev depth with
  | nil =>
    rw [pieces]
    exact ⟨[], [], rfl, ⟨closes, arrow, by simp⟩, List.forall_mem_nil _⟩
  | cons c r ih =>
    rw [arrows, Nat.add_eq_zero_iff] at arrow
    have noArrow : isArrowhead prev c = false := by simpa using arrow.1
    have next := openBehind_cons closes noArrow
    obtain ⟨p, ps, split, first, others⟩ := ih (by rwa [← next]) arrow.2
    by_cases apart : depthAfter prev depth c = 0 ∧ c = separator
    · -- The separator ends the first piece, and the next one begins outside all brackets.
      obtain ⟨top, rfl⟩ := apart
      have zero : depth = 0 := by rwa [depthAfter_of_flat flat flat'] at top
      refine ⟨[], p :: ps, ?_, ⟨by rw [zero]; rfl, rfl, by simp⟩, ?_⟩
      · rw [pieces, ← split]
        simp [top]
      · rw [top] at first
        exact List.forall_mem_cons.2
          ⟨first.of_prev (by simpa using equals) (by simpa using minus), others⟩
    · exact ⟨c :: p, ps, by rw [pieces_cons_of_not apart, split, consFirst],
        first.cons flat flat' noArrow next apart, others⟩

/-- **The parts of a nested text between its commas are arguments.** -/
theorem isArgument_of_mem_splitCommas {s : List Char} (nested : IsNested s)
    (arrow : hasArrow s = false) {a : List Char} (ha : a ∈ splitCommas s) :
    IsArgument a ∧ hasArrow a = false := by
  obtain ⟨p, ps, split, first, others⟩ := pieces_areClosing ',' rfl rfl (by decide) (by decide) nested
    ((arrows_eq_zero_iff s).2 arrow)
  have comma : ",".toList = [','] := rfl
  rw [splitCommas, splitBy, comma, split, List.mem_filter, List.mem_map] at ha
  obtain ⟨⟨q, hq, rfl⟩, nonempty⟩ := ha
  have closing : IsClosing ',' none 0 q := (List.mem_cons.1 hq).elim (fun h => h ▸ first) (others q)
  refine ⟨⟨of_decide_eq_true nonempty, trim_trim q, isNested_trim closing.closes, ?_⟩,
    hasArrow_trim ((arrows_eq_zero_iff q).1 closing.arrow)⟩
  refine not_standsOutside_trim ?_
  rintro ⟨u, v, text, front⟩
  exact closing.inside u v text front

end Concord.Spelling
