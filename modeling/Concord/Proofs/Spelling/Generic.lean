import Concord.Proofs.Name.Letters
import Concord.Proofs.Spelling.Nesting

/-!
# Concord.Proofs.Spelling.Generic

Generic spellings taken apart again: `Map<string, List<int>>` into `Map`, `string` and `List<int>`.
The head is found by counting brackets backwards, where the `>` of an arrow counts as well, and the
arguments by counting them forwards.

* `generic_written` — what was written is read back, unless an argument holds an arrow; then the
  whole text is its own head.
-/

namespace Concord.Spelling

open Text

/-- A head with its arguments in brackets, as it is written. -/
def Generic.written (opener closer : Char) (g : Generic) : List Char :=
  g.head ++ opener :: (listed g.args ++ [closer])

/-! ## Heads -/

/-- A trimmed text without brackets, which may stand in front of arguments. -/
structure IsHead (s : List Char) : Prop where
  nonempty : s ≠ []
  trimmed : trim s = s
  flat : ∀ c ∈ s, isOpener c = false ∧ isCloser c = false

/-- The only characters of identifiers in a gap of the character tables are capitals of ASCII. -/
theorem isClear_identifier : (WordTable.identifierStart ++ WordTable.identifierExtend).all (fun r =>
    r = ⟨0x41, 0x5a, 1⟩ || Name.isClear r.first r.last) = true := by
  decide +kernel

/-- A character of identifiers that is no capital is a character of names. -/
theorem isNameChar_of_isIdentifierChar {c : Char} (h : isIdentifierChar c = true)
    (small : ¬ (0x41 ≤ c.toNat ∧ c.toNat ≤ 0x5a)) : Name.isNameChar c = true := by
  have table : c = '_' ∨
      ∃ r ∈ WordTable.identifierStart ++ WordTable.identifierExtend, r.has c.toNat = true := by
    simp only [isIdentifierChar, isIdentifierStart, Bool.or_eq_true, decide_eq_true_eq] at h
    rcases h with (underscore | start) | extend
    · exact .inl underscore
    · obtain ⟨r, hr, has⟩ := Name.exists_has_of_mem start
      exact .inr ⟨r, List.mem_append_left _ hr, has⟩
    · obtain ⟨r, hr, has⟩ := Name.exists_has_of_mem extend
      exact .inr ⟨r, List.mem_append_right _ hr, has⟩
  rcases table with rfl | ⟨r, hr, has⟩
  · decide
  · obtain ⟨first, last⟩ := Name.bounds_of_has has
    have clear := List.all_eq_true.1 isClear_identifier r hr
    rw [Bool.or_eq_true, decide_eq_true_eq] at clear
    rcases clear with rfl | clear
    · exact absurd ⟨first, last⟩ small
    · exact Name.isClear_of_le clear first last

theorem not_isNameChar_of_isOpener {c : Char} (h : isOpener c = true) :
    Name.isNameChar c = false := by
  simp only [isOpener, Bool.or_eq_true, decide_eq_true_eq] at h
  rcases h with ((rfl | rfl) | rfl) | rfl <;> decide

theorem not_isNameChar_of_isCloser {c : Char} (h : isCloser c = true) :
    Name.isNameChar c = false := by
  simp only [isCloser, Bool.or_eq_true, decide_eq_true_eq] at h
  rcases h with ((rfl | rfl) | rfl) | rfl <;> decide

/-- Identifiers hold neither white space nor brackets. -/
theorem isIdentifierChar_isFlat {c : Char} (h : isIdentifierChar c = true) :
    isBlank c = false ∧ isOpener c = false ∧ isCloser c = false := by
  by_cases capital : 0x41 ≤ c.toNat ∧ c.toNat ≤ 0x5a
  · exact Name.of_ascii
      (P := fun c => 0x41 ≤ c.toNat → c.toNat ≤ 0x5a →
        isBlank c = false ∧ isOpener c = false ∧ isCloser c = false)
      (by decide +kernel) (by omega) capital.1 capital.2
  · have name := isNameChar_of_isIdentifierChar h capital
    refine ⟨Name.not_isBlank_of_isNameChar name, ?_, ?_⟩
    · rw [Bool.eq_false_iff]
      intro opener
      rw [not_isNameChar_of_isOpener opener] at name
      cases name
    · rw [Bool.eq_false_iff]
      intro closer
      rw [not_isNameChar_of_isCloser closer] at name
      cases name

/-- The characters of an identifier are those of identifiers. -/
theorem isIdentifierChar_of_mem {s : List Char} (h : isIdentifier s = true) {c : Char}
    (hc : c ∈ s) : isIdentifierChar c = true := by
  cases s with
  | nil => cases hc
  | cons d r =>
    rw [isIdentifier, Bool.and_eq_true] at h
    rcases List.mem_cons.1 hc with rfl | rest
    · rw [isIdentifierChar, h.1, Bool.true_or]
    · exact List.all_eq_true.1 h.2 c rest

/-- An identifier holds no other character. -/
theorem notMem_of_isIdentifier {s : List Char} (h : isIdentifier s = true) {c : Char}
    (other : isIdentifierChar c = false) : c ∉ s := fun hc => by
  simp [isIdentifierChar_of_mem h hc] at other

/-- An identifier may be a head. -/
theorem IsHead.of_isIdentifier {s : List Char} (h : isIdentifier s = true) : IsHead s where
  nonempty := by
    rintro rfl
    cases h
  trimmed := trim_eq_self
    (fun _ hc =>
      (isIdentifierChar_isFlat (isIdentifierChar_of_mem h (List.mem_of_head? hc))).1)
    (fun _ hc =>
      (isIdentifierChar_isFlat (isIdentifierChar_of_mem h (List.mem_of_getLast? hc))).1)
  flat _ hc := (isIdentifierChar_isFlat (isIdentifierChar_of_mem h hc)).2

/-! ## Taking apart -/

/-- Read backwards, a text without brackets opens no group. -/
theorem openGroup_of_flat {s : List Char} (h : ∀ c ∈ s, isOpener c = false ∧ isCloser c = false)
    (depth : Nat) (content : List Char) : openGroup depth content s = none := by
  induction s generalizing content with
  | nil => rfl
  | cons c r ih =>
    obtain ⟨opener, closer⟩ := h c List.mem_cons_self
    rw [openGroup, closer, opener, if_neg Bool.false_ne_true, if_neg Bool.false_ne_true,
      ih fun d hd => h d (List.mem_cons_of_mem _ hd)]

/-- The group at the end of a spelling is found if its content holds no arrow. -/
theorem openGroup_of_isNested {content : List Char} {opener : Char}
    (opens : isOpener opener = true) (nested : IsNested content) (arrow : arrows none content = 0)
    (front : List Char) :
    openGroup 1 [] (content.reverse ++ opener :: front.reverse) =
      some (front.reverse, opener, content) := by
  rw [openGroup_of_openBehind nested 0, arrow, List.append_nil, openGroup,
    isCloser_of_isOpener opens, if_neg Bool.false_ne_true, if_pos opens, if_pos (by omega)]

/-- With an arrow in its content the group seems to begin further in front. -/
theorem openGroup_of_arrow {content front : List Char} {opener : Char}
    (opens : isOpener opener = true) (nested : IsNested content) (arrow : arrows none content ≠ 0)
    (flat : ∀ c ∈ front, isOpener c = false ∧ isCloser c = false) :
    openGroup 1 [] (content.reverse ++ opener :: front.reverse) = none := by
  rw [openGroup_of_openBehind nested 0, openGroup, isCloser_of_isOpener opens,
    if_neg Bool.false_ne_true, if_pos opens, if_neg (by omega)]
  exact openGroup_of_flat (fun c hc => flat c (List.mem_reverse.1 hc)) _ _

/-- A text that begins and ends without white space is trimmed. -/
theorem trim_group {front : List Char} {opener closer : Char} (opens : isOpener opener = true)
    (closes : isCloser closer = true) (trimmed : trim front = front) (content : List Char) :
    trim (front ++ opener :: (content ++ [closer])) = front ++ opener :: (content ++ [closer]) := by
  refine trim_eq_self (fun c hc => ?_) (fun c hc => ?_)
  · cases front with
    | nil =>
      cases hc
      exact notBlank_of_isOpener opens
    | cons d r => exact (notBlank_of_trim_eq_self trimmed).1 c (by simpa using hc)
  · rw [getLast?_group, Option.some.injEq] at hc
    exact hc ▸ notBlank_of_isCloser closes

/-- A head with arguments is taken apart, unless an argument holds an arrow. -/
theorem IsHead.generic_written {g : Generic} (head : IsHead g.head) (nonempty : g.args ≠ [])
    (arguments : ∀ a ∈ g.args, IsArgument a) {opener closer : Char} (pair : isPair opener closer) :
    generic (g.written opener closer) =
      if g.args.any hasArrow then ⟨g.written opener closer, []⟩ else g := by
  have nested : IsNested (listed g.args) := isNested_listed fun a ha => (arguments a ha).nested
  have trimmed := trim_group pair.isOpener pair.isCloser head.trimmed (listed g.args)
  rw [Generic.written]
  cases arrow : g.args.any hasArrow with
  | true =>
    have counted : arrows none (listed g.args) ≠ 0 := by
      rw [ne_eq, arrows_listed_eq_zero_iff, arrow]
      exact Bool.noConfusion
    rw [if_pos rfl]
    exact generic_of_openGroup_eq_none
      (openGroup_of_arrow pair.isOpener nested counted head.flat) trimmed
  | false =>
    have group := openGroup_of_isNested pair.isOpener nested
      ((arrows_listed_eq_zero_iff g.args).2 arrow) g.head
    rw [generic_of_openGroup pair group trimmed,
      if_pos ⟨head.nonempty, listed_ne_nil nonempty arguments⟩, head.trimmed,
      splitCommas_listed arguments arrow, if_neg Bool.false_ne_true]

/-- **An identifier with arguments is taken apart again exactly if no argument holds an arrow.  With
an arrow, the whole text is its own head.** -/
theorem generic_written_iff {g : Generic} (head : isIdentifier g.head = true)
    (nonempty : g.args ≠ []) (arguments : ∀ a ∈ g.args, IsArgument a) {opener closer : Char}
    (pair : isPair opener closer) :
    (generic (g.written opener closer) = g ↔ ∀ a ∈ g.args, hasArrow a = false) ∧
      ((∃ a ∈ g.args, hasArrow a = true) →
        generic (g.written opener closer) = ⟨g.written opener closer, []⟩) := by
  have read := (IsHead.of_isIdentifier head).generic_written nonempty arguments pair
  rw [read, ← List.any_eq_true]
  cases arrow : g.args.any hasArrow with
  | true =>
    obtain ⟨a, ha, holds⟩ := List.any_eq_true.1 arrow
    refine ⟨⟨fun same => ?_, fun none => ?_⟩, fun _ => if_pos rfl⟩
    · rw [if_pos rfl] at same
      exact absurd (congrArg Generic.args same).symm nonempty
    · rw [none a ha] at holds
      cases holds
  | false =>
    have none : ∀ a ∈ g.args, hasArrow a = false := by simpa using arrow
    exact ⟨⟨fun _ => none, fun _ => if_neg Bool.false_ne_true⟩, fun some => by cases some⟩

/-- A map from texts to lists of pairs is taken apart. -/
theorem generic_written_iff_map :
    (∀ a ∈ ["string".toList, "List<(int, T[])>".toList], IsArgument a ∧ hasArrow a = false) ∧
      generic "Map<string, List<(int, T[])>>".toList =
        ⟨"Map".toList, ["string".toList, "List<(int, T[])>".toList]⟩ :=
  ⟨by decide +kernel,
    (generic_written_iff (g := ⟨"Map".toList, ["string".toList, "List<(int, T[])>".toList]⟩)
      (by decide +kernel) (by decide) (by decide +kernel) (.inl ⟨rfl, rfl⟩)).1.2
      (by decide +kernel)⟩

/-- A function as the argument hides the head: its arrow is counted as a bracket. -/
theorem function_hides_head :
    isIdentifier "Promise".toList = true ∧ IsArgument "(a: A) => B".toList ∧
      Generic.written '<' '>' ⟨"Promise".toList, ["(a: A) => B".toList]⟩ =
        "Promise<(a: A) => B>".toList ∧
      generic "Promise<(a: A) => B>".toList ≠ ⟨"Promise".toList, ["(a: A) => B".toList]⟩ := by
  decide +kernel

end Concord.Spelling
