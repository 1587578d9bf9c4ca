import Concord.Proofs.Spelling.Bracket

/-!
# Concord.Proofs.Spelling.Nesting

Spellings whose brackets are nested.  The `>` of an arrow, `=>` or `->`, is no bracket, so that
`Map<string, (a: A) => B>` is nested.  What the two readers of brackets make of such a text:

* `openGroup_of_openBehind` — read backwards, where every `>` counts, it leaves one bracket open for
  each arrow;
* `depthBehind_of_openBehind` — read forwards, a text without arrows is as deep behind it as its
  brackets are nested, and it is split nowhere but outside of them;
* `pieces_append_separator` — a separator behind a nested text, with arrows or without, ends a piece;
* `splitCommas_listed` — so arguments without arrows are read back from their row.
-/

namespace Concord.Spelling

open Text

/-! ## Nested texts -/

/-- Whether `c`, behind `prev`, is the head of an arrow. -/
def isArrowhead (prev : Option Char) (c : Char) : Bool :=
  c = '>' && (prev = some '=' || prev = some '-')

/-- The number of brackets that are open behind a text, where `depth` are open in front of it;
nothing if the text closes one that is not open.  All kinds of brackets count alike. -/
def openBehind (prev : Option Char) (depth : Nat) : List Char → Option Nat
  | [] => some depth
  | c :: r =>
    if isOpener c then openBehind (some c) (depth + 1) r
    else if isCloser c && !isArrowhead prev c then
      if depth = 0 then none else openBehind (some c) (depth - 1) r
    else openBehind (some c) depth r

/-- Every bracket of the text is opened and closed in it. -/
def IsNested (s : List Char) : Prop := openBehind none 0 s = some 0

instance (s : List Char) : Decidable (IsNested s) :=
  inferInstanceAs (Decidable (openBehind none 0 s = some 0))

/-- The character stands outside all brackets of the text: what is in front of it is nested. -/
def StandsOutside (c : Char) (s : List Char) : Prop := ∃ u v, s = u ++ c :: v ∧ IsNested u

/-- The number of arrows in a text behind `prev`. -/
def arrows (prev : Option Char) : List Char → Nat
  | [] => 0
  | c :: r => (if isArrowhead prev c then 1 else 0) + arrows (some c) r

/-- Whether a text holds an arrow. -/
def hasArrow (s : List Char) : Bool := holds "=>" s || holds "->" s

/-- The spelling of an argument: trimmed and nested, with no comma outside its brackets. -/
structure IsArgument (s : List Char) : Prop where
  nonempty : s ≠ []
  trimmed : trim s = s
  nested : IsNested s
  closed : ¬ StandsOutside ',' s

/-- A character stands outside exactly if the text in front of it is nested. -/
theorem standsOutside_iff {c : Char} {s : List Char} :
    StandsOutside c s ↔ ∃ i, i < s.length ∧ s[i]? = some c ∧ IsNested (s.take i) := by
  constructor
  · rintro ⟨u, v, rfl, nested⟩
    exact ⟨u.length, by simp, by simp, by simpa using nested⟩
  · rintro ⟨i, -, at', nested⟩
    obtain ⟨h, hc⟩ := List.getElem?_eq_some_iff.1 at'
    refine ⟨s.take i, s.drop (i + 1), ?_, nested⟩
    rw [← hc, List.getElem_cons_drop, List.take_append_drop]

instance (c : Char) (s : List Char) : Decidable (StandsOutside c s) :=
  decidable_of_iff _ standsOutside_iff.symm

instance (s : List Char) : Decidable (IsArgument s) :=
  decidable_of_iff (s ≠ [] ∧ trim s = s ∧ IsNested s ∧ ¬ StandsOutside ',' s)
    ⟨fun h => ⟨h.1, h.2.1, h.2.2.1, h.2.2.2⟩, fun h => ⟨h.nonempty, h.trimmed, h.nested, h.closed⟩⟩

theorem not_standsOutside_of_notMem {c : Char} {s : List Char} (h : c ∉ s) :
    ¬ StandsOutside c s := by
  rintro ⟨u, v, rfl, -⟩
  exact h (List.mem_append_right _ List.mem_cons_self)

/-! ## Characters -/

/-- An opening bracket is no head of an arrow. -/
theorem isArrowhead_of_isOpener {c : Char} (h : isOpener c = true) (prev : Option Char) :
    isArrowhead prev c = false := by
  have : c ≠ '>' := by
    rintro rfl
    exact absurd h (by decide)
  simp [isArrowhead, this]

/-- The head of an arrow is a closing bracket otherwise. -/
theorem isCloser_of_isArrowhead {c : Char} {prev : Option Char} (h : isArrowhead prev c = true) :
    isCloser c = true := by
  simp only [isArrowhead, Bool.and_eq_true, decide_eq_true_eq] at h
  rw [h.1]
  rfl

/-! ## Joined texts -/

/-- The depth behind an appended text is counted on from the depth behind the first part. -/
theorem openBehind_append (prev : Option Char) (depth : Nat) (s t : List Char) :
    openBehind prev depth (s ++ t) =
      (openBehind prev depth s).bind fun d => openBehind (lastOf prev s) d t := by
  induction s generalizing prev depth with
  | nil => rfl
  | cons c r ih =>
    simp only [List.cons_append, openBehind, lastOf_cons, ih]
    split_ifs <;> rfl

/-- The arrows of an appended text are those of both parts, the character between them known. -/
theorem arrows_append (prev : Option Char) (s t : List Char) :
    arrows prev (s ++ t) = arrows prev s + arrows (lastOf prev s) t := by
  induction s generalizing prev with
  | nil => simp [arrows, lastOf]
  | cons c r ih => rw [List.cons_append, arrows, arrows, ih, lastOf_cons, Nat.add_assoc]

/-- What stands in front matters only to an angle bracket. -/
theorem openBehind_prev {prev : Option Char} (equals : prev ≠ some '=') (minus : prev ≠ some '-')
    (depth : Nat) (s : List Char) : openBehind prev depth s = openBehind none depth s := by
  cases s with
  | nil => rfl
  | cons c r => simp [openBehind, isArrowhead, equals, minus]

/-- What stands in front of a text matters only where it could be the shaft of an arrow. -/
theorem arrows_prev {prev : Option Char} (equals : prev ≠ some '=') (minus : prev ≠ some '-')
    (s : List Char) : arrows prev s = arrows none s := by
  cases s with
  | nil => rfl
  | cons c r => simp [arrows, isArrowhead, equals, minus]

/-- Texts without brackets open and close nothing. -/
theorem openBehind_of_flat {s : List Char} (h : ∀ c ∈ s, isOpener c = false ∧ isCloser c = false)
    (prev : Option Char) (depth : Nat) : openBehind prev depth s = some depth := by
  induction s generalizing prev with
  | nil => rfl
  | cons c r ih =>
    obtain ⟨opener, closer⟩ := h c List.mem_cons_self
    simp [openBehind, opener, closer, ih fun d hd => h d (List.mem_cons_of_mem _ hd)]

/-- A text without brackets has no arrow. -/
theorem arrows_of_flat {s : List Char} (h : ∀ c ∈ s, isOpener c = false ∧ isCloser c = false)
    (prev : Option Char) : arrows prev s = 0 := by
  induction s generalizing prev with
  | nil => rfl
  | cons c r ih =>
    have head : isArrowhead prev c = false := by
      rw [Bool.eq_false_iff]
      intro arrow
      have := isCloser_of_isArrowhead arrow
      rw [(h c List.mem_cons_self).2] at this
      cases this
    rw [arrows, head, ih fun d hd => h d (List.mem_cons_of_mem _ hd)]
    rfl

/-! ## Arrows -/

/-- A text begins with an arrow by its first two characters. -/
theorem begins_arrow (word : String) (c : Char) (hw : word.toList = [c, '>']) (d : Char)
    (r : List Char) : begins word (d :: r) = (d = c && r.head? = some '>') := by
  rw [begins, hw]
  cases r with
  | nil => simp [List.isPrefixOf]
  | cons e r => simp [List.isPrefixOf, beq_eq_decide, eq_comm]

/-- A text holds no arrow exactly if none is counted in it. -/
theorem arrows_eq_zero_iff (s : List Char) : arrows none s = 0 ↔ hasArrow s = false := by
  have step (prev : Option Char) (s : List Char) :
      arrows prev s = 0 ↔
        (s.head? = some '>' → prev ≠ some '=' ∧ prev ≠ some '-') ∧ hasArrow s = false := by
    induction s generalizing prev with
    | nil => simp [arrows, hasArrow, holds]
    | cons c r ih =>
      rw [arrows, Nat.add_eq_zero_iff, ih]
      simp only [hasArrow, holds, begins_arrow "=>" '=' rfl, begins_arrow "->" '-' rfl,
        isArrowhead]
      grind
  simpa using step none s

/-- A text without one of the word's characters does not hold the word. -/
theorem holds_eq_false {word : String} {c : Char} (hc : c ∈ word.toList) {s : List Char}
    (hs : c ∉ s) : holds word s = false := by
  induction s with
  | nil => simpa [holds] using List.ne_nil_of_mem hc
  | cons d r ih =>
    rw [holds, begins_eq_false hc hs, ih fun h => hs (List.mem_cons_of_mem _ h)]
    rfl

/-- Without the first halves of arrows there is none. -/
theorem hasArrow_eq_false {s : List Char} (equals : '=' ∉ s) (minus : '-' ∉ s) :
    hasArrow s = false := by
  rw [hasArrow, holds_eq_false (c := '=') (by decide) equals,
    holds_eq_false (c := '-') (by decide) minus]
  rfl

/-- Behind a text without the head of an arrow no arrow ends. -/
theorem holds_arrow_append {r : List Char} (head : '>' ∉ r) (s : List Char) :
    holds "=>" (s ++ r) = holds "=>" s := by
  induction s with
  | nil => exact holds_eq_false (c := '>') (by decide) head
  | cons c s ih =>
    have next : (s ++ r).head? = some '>' ↔ s.head? = some '>' := by
      cases s with
      | nil => simpa using fun here => head (List.mem_of_head? here)
      | cons d s => rfl
    simp only [List.cons_append, holds, begins_arrow "=>" '=' rfl, ih, next]

/-- No arrow ends behind a text that holds none of the shafts. -/
theorem isArrowhead_lastOf {s : List Char} {c : Char} (equals : '=' ∉ c :: s) (minus : '-' ∉ c :: s)
    (d : Char) : isArrowhead (lastOf (some c) s) d = false := by
  have mem : ∀ e, lastOf (some c) s = some e → e ∈ c :: s := by
    intro e he
    rw [lastOf, Option.or_eq_some_iff] at he
    rcases he with last | ⟨-, here⟩
    · exact List.mem_cons_of_mem _ (List.mem_of_getLast? last)
    · exact Option.some.inj here ▸ List.mem_cons_self
  have notEquals : lastOf (some c) s ≠ some '=' := fun h => equals (mem _ h)
  have notMinus : lastOf (some c) s ≠ some '-' := fun h => minus (mem _ h)
  simp [isArrowhead, notEquals, notMinus]

/-! ## Reading backwards -/

/-- Read backwards, where every `>` closes, a text leaves open what was open in front of it and one
bracket more for each arrow. -/
theorem openGroup_of_openBehind {prev : Option Char} {depth : Nat} {t : List Char}
    (h : openBehind prev depth t = some 0) (base : Nat) (content rest : List Char) :
    openGroup (base + 1) content (t.reverse ++ rest) =
      openGroup (base + 1 + depth + arrows prev t) (t ++ content) rest := by
  induction t generalizing prev depth content rest with
  | nil =>
    cases h
    rfl
  | cons c r ih =>
    -- Backwards `c` is met behind `r`, so that what `r` leaves open is what `c` is read against.
    rw [openBehind] at h
    have read : (c :: r).reverse ++ rest = r.reverse ++ c :: rest := by simp
    rw [read, List.cons_append, arrows]
    cases opener : isOpener c with
    | true =>
      rw [if_pos opener] at h
      rw [ih h, openGroup, isCloser_of_isOpener opener, isArrowhead_of_isOpener opener,
        if_neg Bool.false_ne_true, if_pos opener, if_neg (by omega), if_neg Bool.false_ne_true]
      congr 1
      omega
    | false =>
      rw [if_neg (by rw [opener]; exact Bool.false_ne_true)] at h
      cases arrow : isArrowhead prev c with
      | true =>
        rw [arrow, Bool.not_true, Bool.and_false, if_neg Bool.false_ne_true] at h
        rw [ih h, openGroup, if_pos (isCloser_of_isArrowhead arrow), if_pos rfl]
        congr 1
        omega
      | false =>
        rw [arrow, Bool.not_false, Bool.and_true] at h
        cases closer : isCloser c with
        | true =>
          rw [if_pos closer] at h
          split at h
          · cases h
          · rw [ih h, openGroup, if_pos closer, if_neg Bool.false_ne_true]
            congr 1
            omega
        | false =>
          rw [if_neg (by rw [closer]; exact Bool.false_ne_true)] at h
          rw [ih h, openGroup, closer, opener, if_neg Bool.false_ne_true, if_neg Bool.false_ne_true,
            if_neg Bool.false_ne_true, Nat.zero_add]

/-! ## Reading forwards -/

/-- A character that is no head of an arrow changes the depth as a bracket. -/
theorem depthAfter_of_not_isArrowhead {prev : Option Char} {c : Char}
    (h : isArrowhead prev c = false) (depth : Nat) :
    depthAfter prev depth c =
      if isOpener c then depth + 1 else if isCloser c then depth - 1 else depth := by
  have arrow : (decide (c = '>') && decide (prev = some '=')) = false := by
    rw [Bool.eq_false_iff]
    simp only [isArrowhead, Bool.and_eq_false_iff, Bool.or_eq_false_iff, decide_eq_false_iff_not] at h
    simp only [Bool.and_eq_true, decide_eq_true_eq, ne_eq, not_and]
    intro hc
    exact (h.resolve_left (not_not_intro hc)).1
  rw [depthAfter, arrow, Bool.not_false, Bool.and_true]

/-- Read on by one character. -/
theorem openBehind_cons {prev : Option Char} {depth : Nat} {c : Char} {r : List Char}
    {depth' : Nat} (h : openBehind prev depth (c :: r) = some depth')
    (arrow : isArrowhead prev c = false) (s : List Char) :
    openBehind prev depth (c :: s) = openBehind (some c) (depthAfter prev depth c) s := by
  rw [depthAfter_of_not_isArrowhead arrow]
  rw [openBehind, arrow, Bool.not_false, Bool.and_true] at h ⊢
  split at h
  · rename_i opener
    rw [if_pos opener, if_pos opener]
  · rename_i opener
    rw [if_neg opener, if_neg opener]
    split at h
    · rename_i closer
      split at h
      · cases h
      · rename_i open'
        rw [if_pos closer, if_pos closer, if_neg open']
    · rename_i closer
      rw [if_neg closer, if_neg closer]

/-- Read forwards, a text without arrows is as deep behind it as its brackets are nested, if each
separator in it stands inside brackets. -/
theorem depthBehind_of_openBehind {separator : Char} (flat : isOpener separator = false)
    (flat' : isCloser separator = false) {prev : Option Char} {depth depth' : Nat} {t : List Char}
    (h : openBehind prev depth t = some depth') (arrow : arrows prev t = 0)
    (inside : ∀ u v, t = u ++ separator :: v → openBehind prev depth u ≠ some 0) :
    depthBehind separator prev depth t = some depth' := by
  induction t generalizing prev depth with
  | nil =>
    cases h
    rfl
  | cons c r ih =>
    rw [arrows, Nat.add_eq_zero_iff] at arrow
    have next := openBehind_cons h (by simpa using arrow.1)
    have whole : ¬ (depthAfter prev depth c = 0 ∧ c = separator) := by
      rintro ⟨top, rfl⟩
      rw [depthAfter_of_flat flat flat'] at top
      exact inside [] r rfl (by rw [openBehind, top])
    have rest' : ∀ u v, r = u ++ separator :: v →
        openBehind (some c) (depthAfter prev depth c) u ≠ some 0 := by
      intro u v text
      rw [← next]
      exact inside (c :: u) v (by rw [text]; rfl)
    rw [depthBehind, if_neg whole, ih (by rwa [← next]) arrow.2 rest']

/-- The reader is never deeper than the brackets are nested, since it also takes the head of `->` for
a bracket. -/
theorem depthAfter_le_openBehind {prev : Option Char} {depth depth' : Nat} {c : Char} {r : List Char}
    {behind : Nat} (le : depth' ≤ depth) (h : openBehind prev depth (c :: r) = some behind) :
    ∃ d, depthAfter prev depth' c ≤ d ∧ openBehind (some c) d r = some behind := by
  rw [openBehind] at h
  cases opener : isOpener c with
  | true =>
    rw [if_pos opener] at h
    refine ⟨depth + 1, ?_, h⟩
    rw [depthAfter, if_pos opener]
    omega
  | false =>
    rw [opener, if_neg Bool.false_ne_true] at h
    have lower : depthAfter prev depth' c ≤ depth' := by
      rw [depthAfter, opener, if_neg Bool.false_ne_true]
      split <;> omega
    split at h
    · next closes =>
      split at h
      · cases h
      · refine ⟨depth - 1, ?_, h⟩
        rw [Bool.and_eq_true, Bool.not_eq_true'] at closes
        rw [depthAfter_of_not_isArrowhead closes.2, opener, closes.1, if_neg Bool.false_ne_true,
          if_pos rfl]
        omega
    · exact ⟨depth, by omega, h⟩

/-- Behind a nested text a separator ends a piece. -/
theorem pieces_append_separator {separator : Char} (flat : isOpener separator = false)
    (flat' : isCloser separator = false) {prev : Option Char} {depth depth' : Nat} {t : List Char}
    (le : depth' ≤ depth) (h : openBehind prev depth t = some 0) (rest : List Char) :
    ∃ front, front ≠ [] ∧ pieces [separator] prev depth' (t ++ separator :: rest) =
      front ++ pieces [separator] (some separator) 0 rest := by
  have cut (prev : Option Char) (r : List Char) : pieces [separator] prev 0 (separator :: r) =
      [] :: pieces [separator] (some separator) 0 r := by
    rw [pieces, depthAfter_of_flat flat flat']
    simp [List.isPrefixOf]
  induction t generalizing prev depth depth' with
  | nil =>
    cases h
    obtain rfl := Nat.le_zero.1 le
    exact ⟨[[]], List.cons_ne_nil _ _, cut prev rest⟩
  | cons c r ih =>
    obtain ⟨d, le, h⟩ := depthAfter_le_openBehind le h
    obtain ⟨front, some', split⟩ := ih le h
    by_cases here : depthAfter prev depth' c = 0 ∧ c = separator
    · obtain ⟨top, rfl⟩ := here
      rw [depthAfter_of_flat flat flat'] at top
      subst top
      rw [depthAfter_of_flat flat flat'] at split
      exact ⟨[] :: front, List.cons_ne_nil _ _, by rw [List.cons_append, cut, split]; rfl⟩
    · refine ⟨consFirst c front, consFirst_ne_nil _ _, ?_⟩
      rw [List.cons_append, pieces_cons_of_not here, split]
      cases front with
      | nil => exact absurd rfl some'
      | cons p ps => rfl

/-- A trimmed text that is one piece has itself as its only part. -/
theorem splitBy_of_pieces {word : String} {s : List Char} (trimmed : trim s = s) (nonempty : s ≠ [])
    (whole : pieces word.toList none 0 s = [s]) : splitBy word s = [s] := by
  simp [splitBy, whole, trimmed, nonempty]

/-- A text of one piece is one piece inside brackets as well, together with what closes them. -/
theorem pieces_deeper {separator closer : Char} (ne : closer ≠ separator) {prev : Option Char}
    {depth deeper : Nat} (le : depth ≤ deeper) {s : List Char}
    (whole : pieces [separator] prev depth s = [s]) :
    pieces [separator] prev deeper (s ++ [closer]) = [s ++ [closer]] := by
  induction s generalizing prev depth deeper with
  | nil =>
    rw [List.nil_append, pieces_cons_of_not fun same => ne same.2, pieces]
    rfl
  | cons c r ih =>
    have apart : ¬ (depthAfter prev depth c = 0 ∧ c = separator) := by
      rintro ⟨top, rfl⟩
      rw [pieces] at whole
      simp [top] at whole
    have deep : depthAfter prev depth c ≤ depthAfter prev deeper c := by
      unfold depthAfter
      split_ifs <;> omega
    have apart' : ¬ (depthAfter prev deeper c = 0 ∧ c = separator) := fun same =>
      apart ⟨by omega, same.2⟩
    rw [pieces_cons_of_not apart] at whole
    have inner : pieces [separator] (some c) (depthAfter prev depth c) r = [r] := by
      cases parts : pieces [separator] (some c) (depthAfter prev depth c) r with
      | nil => exact absurd parts (pieces_ne_nil _ _ _ _)
      | cons p ps => simpa [parts, consFirst] using whole
    rw [List.cons_append, pieces_cons_of_not apart', ih deep inner]
    rfl

/-! ## Groups -/

/-- Behind more open brackets a text leaves as many more open. -/
theorem openBehind_add {prev : Option Char} {depth depth' : Nat} {s : List Char}
    (h : openBehind prev depth s = some depth') (more : Nat) :
    openBehind prev (depth + more) s = some (depth' + more) := by
  induction s generalizing prev depth with
  | nil =>
    cases h
    rfl
  | cons c r ih =>
    rw [openBehind] at h ⊢
    split at h
    · rename_i opener
      rw [if_pos opener, Nat.add_right_comm]
      exact ih h
    · rename_i opener
      rw [if_neg opener]
      split at h
      · rename_i closer
        rw [if_pos closer]
        split at h
        · cases h
        · rename_i open'
          rw [if_neg (by omega), show depth + more - 1 = depth - 1 + more by omega]
          exact ih h
      · rename_i closer
        rw [if_neg closer]
        exact ih h

section Group

variable {front content : List Char} {opener closer : Char}

/-- An opening bracket is the shaft of no arrow. -/
theorem ne_arrow_of_isOpener (opens : isOpener opener = true) :
    some opener ≠ some '=' ∧ some opener ≠ some '-' := by
  refine ⟨?_, ?_⟩
  · rintro ⟨⟩
    exact absurd opens (by decide)
  · rintro ⟨⟩
    exact absurd opens (by decide)

theorem openBehind_opener (opens : isOpener opener = true) (depth : Nat) (s : List Char) :
    openBehind (some opener) depth s = openBehind none depth s :=
  openBehind_prev (ne_arrow_of_isOpener opens).1 (ne_arrow_of_isOpener opens).2 depth s

theorem arrows_opener (opens : isOpener opener = true) (s : List Char) :
    arrows (some opener) s = arrows none s :=
  arrows_prev (ne_arrow_of_isOpener opens).1 (ne_arrow_of_isOpener opens).2 s

/-- A nested text in brackets is nested, whatever stands in front of it without brackets. -/
theorem isNested_group (flat : ∀ c ∈ front, isOpener c = false ∧ isCloser c = false)
    (opens : isOpener opener = true) (closes : isCloser closer = true) (nested : IsNested content)
    (arrow : isArrowhead (lastOf (some opener) content) closer = false) :
    IsNested (front ++ opener :: (content ++ [closer])) := by
  have inside : openBehind (some opener) 1 content = some 1 := by
    rw [openBehind_opener opens]
    exact openBehind_add nested 1
  rw [IsNested, openBehind_append, openBehind_of_flat flat, Option.bind_some, openBehind,
    if_pos opens, Nat.zero_add, openBehind_append, inside, Option.bind_some, openBehind,
    if_neg (by simp [isOpener_of_isCloser closes]), closes, arrow, Bool.not_false, Bool.and_true,
    if_pos rfl, if_neg Nat.one_ne_zero]
  rfl

/-- What stands inside the brackets of a group does not stand outside brackets. -/
theorem not_standsOutside_group {c : Char} (here : c ∉ front) (opens : isOpener opener = true)
    (flat : ∀ d ∈ front, isOpener d = false ∧ isCloser d = false)
    (nested : IsNested content) (notOpener : c ≠ opener) (notCloser : c ≠ closer) :
    ¬ StandsOutside c (front ++ opener :: (content ++ [closer])) := by
  rintro ⟨u, v, text, closed⟩
  rcases List.append_eq_append_iff.1 text with ⟨a, rfl, behind⟩ | ⟨b, rfl, behind⟩
  · cases a with
    | nil => exact notOpener (List.cons.inj behind).1.symm
    | cons d a =>
      rw [List.cons_append, List.cons_eq_cons] at behind
      obtain ⟨rfl, rest⟩ := behind
      have lead : a ++ [c] <+: content ++ [closer] := ⟨v, by simp [rest]⟩
      rcases List.prefix_concat_iff.1 lead with whole | ⟨w, rfl⟩
      · exact notCloser (List.append_inj_right' whole rfl |> List.cons.inj |>.1)
      · rw [IsNested, List.append_assoc, openBehind_append, Option.bind_eq_some_iff] at nested
        obtain ⟨depth, inside, -⟩ := nested
        rw [IsNested, openBehind_append, openBehind_of_flat flat, Option.bind_some, openBehind,
          if_pos opens, openBehind_opener opens, openBehind_add inside 1] at closed
        cases closed
  · cases b with
    | nil => exact notOpener (List.cons.inj behind).1
    | cons d b =>
      obtain ⟨rfl, -⟩ := List.cons.inj behind
      exact here (List.mem_append_right _ List.mem_cons_self)

/-- A group is one piece if the separator stands inside its brackets only. -/
theorem pieces_group {separator : Char} (here : separator ∉ front)
    (notOpener : isOpener separator = false) (notCloser : isCloser separator = false)
    (flat : ∀ c ∈ front, isOpener c = false ∧ isCloser c = false) (opens : isOpener opener = true)
    (closes : isCloser closer = true) (nested : IsNested content)
    (arrow : hasArrow content = false) :
    pieces [separator] none 0 (front ++ opener :: (content ++ [closer])) =
      [front ++ opener :: (content ++ [closer])] := by
  have neOpener : separator ≠ opener := fun same => by simp [same, opens] at notOpener
  have neCloser : separator ≠ closer := fun same => by simp [same, closes] at notCloser
  -- One bracket is open behind the content, so that only the closer is left to read.
  have open' : openBehind none 0 (front ++ opener :: content) = some 1 := by
    rw [openBehind_append, openBehind_of_flat flat, Option.bind_some, openBehind, if_pos opens,
      openBehind_opener opens]
    exact openBehind_add nested 1
  have noArrow : arrows none (front ++ opener :: content) = 0 := by
    rw [arrows_append, arrows_of_flat flat, arrows, isArrowhead_of_isOpener opens,
      arrows_opener opens, (arrows_eq_zero_iff content).2 arrow]
    rfl
  have inside : ∀ u v, front ++ opener :: content = u ++ separator :: v →
      openBehind none 0 u ≠ some 0 := by
    intro u v split nested'
    refine not_standsOutside_group here opens flat nested neOpener neCloser
      ⟨u, v ++ [closer], ?_, nested'⟩
    rw [← List.cons_append, ← List.append_assoc, split, List.append_assoc, List.cons_append]
  have whole := pieces_of_depthBehind
    (depthBehind_of_openBehind notOpener notCloser open' noArrow inside) [closer]
  rw [pieces_cons_of_not fun same => neCloser same.2.symm, pieces, consFirst, foldr_consFirst,
    List.append_assoc, List.cons_append] at whole
  exact whole

/-- A group that is not empty does not end in empty brackets. -/
theorem before?_brackets_of_isNested (nonempty : content ≠ []) (nested : IsNested content) :
    before? "[]" (front ++ opener :: (content ++ [closer])) = none := by
  rw [before?, ends, if_neg]
  intro suffix
  obtain ⟨s, hs⟩ := List.isSuffixOf_iff_suffix.1 suffix
  have brackets : "[]".toList = ['['] ++ [']'] := rfl
  rw [brackets, ← List.append_assoc, ← List.cons_append, ← List.append_assoc] at hs
  have inner := congrArg List.getLast? (List.append_inj_left' hs rfl)
  obtain ⟨w, c, rfl⟩ := (List.eq_nil_or_concat' content).resolve_left nonempty
  rw [← List.cons_append, ← List.append_assoc, List.getLast?_concat, List.getLast?_concat,
    Option.some.injEq] at inner
  rw [← inner, IsNested, openBehind_append, Option.bind_eq_some_iff] at nested
  obtain ⟨depth, -, deeper⟩ := nested
  cases deeper

end Group

/-! ## Joined texts with a gap between them -/

/-- What may stand between texts: it opens and closes nothing and is not the first half of an
arrow. -/
structure IsGap (gap : List Char) : Prop where
  flat : ∀ c ∈ gap, isOpener c = false ∧ isCloser c = false
  behind : ∀ prev, lastOf prev gap ≠ some '=' ∧ lastOf prev gap ≠ some '-'

namespace IsGap

variable {gap : List Char}

/-- Brackets are counted in one text after the other. -/
theorem openBehind_intercalate (h : IsGap gap) (texts : List (List Char)) (depth : Nat) :
    openBehind none depth (gap.intercalate texts) = texts.foldlM (openBehind none) depth := by
  induction texts generalizing depth with
  | nil => rfl
  | cons s texts ih =>
    rw [List.foldlM_cons]
    cases texts with
    | nil =>
      rw [List.intercalate_singleton]
      exact (bind_pure _).symm
    | cons t texts =>
      rw [List.intercalate_cons_cons, List.append_assoc, openBehind_append]
      refine congrArg _ (funext fun d => ?_)
      rw [openBehind_append, openBehind_of_flat h.flat, Option.bind_some,
        openBehind_prev (h.behind _).1 (h.behind _).2, ih]

/-- Joined texts hold an arrow exactly if one of them does. -/
theorem arrows_intercalate_eq_zero_iff (h : IsGap gap) (texts : List (List Char)) :
    arrows none (gap.intercalate texts) = 0 ↔ ∀ t ∈ texts, arrows none t = 0 := by
  induction texts with
  | nil => simp [arrows]
  | cons s texts ih =>
    rw [List.forall_mem_cons, ← ih]
    cases texts with
    | nil => simp [arrows]
    | cons t texts =>
      rw [List.intercalate_cons_cons, List.append_assoc, arrows_append, arrows_append,
        arrows_of_flat h.flat, arrows_prev (h.behind _).1 (h.behind _).2, Nat.zero_add,
        Nat.add_eq_zero_iff]

end IsGap

/-! ## Rows of arguments -/

/-- Arguments with commas between them. -/
def listed (args : List (List Char)) : List Char := ", ".toList.intercalate args

theorem listed_cons_cons (a b : List Char) (args : List (List Char)) :
    listed (a :: b :: args) = a ++ ',' :: ' ' :: listed (b :: args) := by
  rw [listed, List.intercalate_cons_cons, List.append_assoc]
  rfl

/-- A list of arguments is not an empty text. -/
theorem listed_ne_nil {args : List (List Char)} (nonempty : args ≠ [])
    (h : ∀ a ∈ args, IsArgument a) : listed args ≠ [] := by
  cases args with
  | nil => exact absurd rfl nonempty
  | cons a args =>
    have first := (h a List.mem_cons_self).nonempty
    cases args with
    | nil =>
      rw [listed, List.intercalate_singleton]
      exact first
    | cons b args =>
      rw [listed_cons_cons]
      exact List.append_ne_nil_of_left_ne_nil first _

/-- The characters of an argument are in the list. -/
theorem mem_listed_of_mem {a : List Char} {args : List (List Char)} (ha : a ∈ args) {c : Char}
    (hc : c ∈ a) : c ∈ listed args := by
  induction args with
  | nil => cases ha
  | cons b args ih =>
    cases args with
    | nil =>
      rw [listed, List.intercalate_singleton]
      exact List.mem_singleton.1 ha ▸ hc
    | cons d args =>
      rw [listed_cons_cons]
      rcases List.mem_cons.1 ha with rfl | ha
      · exact List.mem_append_left _ hc
      · exact List.mem_append_right _ (List.mem_cons_of_mem _ (List.mem_cons_of_mem _ (ih ha)))

/-- A row of arguments is not blank. -/
theorem trim_listed_ne_nil {args : List (List Char)} (nonempty : args ≠ [])
    (h : ∀ a ∈ args, IsArgument a) : trim (listed args) ≠ [] := by
  obtain ⟨a, ha⟩ := List.exists_mem_of_ne_nil args nonempty
  cases first : a.head? with
  | none => exact absurd (List.head?_eq_none_iff.1 first) (h a ha).nonempty
  | some c =>
    have blank := (notBlank_of_trim_eq_self (h a ha).trimmed).1 c first
    exact List.ne_nil_of_mem (mem_trim (mem_listed_of_mem ha (List.mem_of_head? first)) blank)

/-- The characters of a list are those of its arguments, commas and spaces. -/
theorem mem_listed {c : Char} {args : List (List Char)} (h : c ∈ listed args) :
    c = ',' ∨ c = ' ' ∨ ∃ a ∈ args, c ∈ a := by
  induction args with
  | nil => cases h
  | cons a args ih =>
    cases args with
    | nil =>
      rw [listed, List.intercalate_singleton] at h
      exact .inr (.inr ⟨a, List.mem_cons_self, h⟩)
    | cons b args =>
      rw [listed_cons_cons, List.mem_append, List.mem_cons, List.mem_cons] at h
      rcases h with h | h | h | h
      · exact .inr (.inr ⟨a, List.mem_cons_self, h⟩)
      · exact .inl h
      · exact .inr (.inl h)
      · refine (ih h).imp_right (.imp_right ?_)
        rintro ⟨d, hd, mem⟩
        exact ⟨d, List.mem_cons_of_mem _ hd, mem⟩

theorem isGap_comma : IsGap ", ".toList where
  flat := by simp [isOpener, isCloser]
  behind _ := ⟨nofun, nofun⟩

/-- A row of nested texts is nested. -/
theorem isNested_listed {args : List (List Char)} (h : ∀ a ∈ args, IsNested a) :
    IsNested (listed args) := by
  rw [IsNested, listed, isGap_comma.openBehind_intercalate]
  induction args with
  | nil => rfl
  | cons a args ih =>
    have first : openBehind none 0 a = some 0 := h a List.mem_cons_self
    rw [List.foldlM_cons, first]
    exact ih fun c hc => h c (List.mem_cons_of_mem _ hc)

/-- A row holds an arrow exactly if an argument does. -/
theorem arrows_listed_eq_zero_iff (args : List (List Char)) :
    arrows none (listed args) = 0 ↔ args.any hasArrow = false := by
  rw [listed, isGap_comma.arrows_intercalate_eq_zero_iff]
  simp [arrows_eq_zero_iff]

theorem any_hasArrow_eq_false {args : List (List Char)} (h : ∀ a ∈ args, hasArrow a = false) :
    args.any hasArrow = false := by
  simpa using h

/-- Without an arrow, the counter that splits a row finds no comma outside brackets either. -/
theorem IsArgument.isPart {a : List Char} (h : IsArgument a) (arrow : hasArrow a = false) :
    IsPart ',' a where
  nonempty := h.nonempty
  trimmed := h.trimmed
  closed := depthBehind_of_openBehind rfl rfl h.nested ((arrows_eq_zero_iff a).2 arrow)
    fun u v text nested => h.closed ⟨u, v, text, nested⟩

/-- **Arguments without arrows are read back from their row.** -/
theorem splitCommas_listed {args : List (List Char)} (h : ∀ a ∈ args, IsArgument a)
    (arrow : args.any hasArrow = false) : splitCommas (listed args) = args := by
  have comma : IsSeparator ',' := by decide
  have blank : ∀ c ∈ [' '], isBlank c = true := List.forall_mem_singleton.2 rfl
  have parts : ∀ a ∈ args, IsPart ',' a := fun a ha =>
    (h a ha).isPart (by simpa using List.any_eq_false.1 arrow a ha)
  exact splitBy_intercalate comma (List.forall_mem_nil _) blank parts

end Concord.Spelling
