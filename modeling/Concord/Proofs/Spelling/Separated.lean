import Concord.Proofs.Spelling.Plain

/-!
# Concord.Proofs.Spelling.Separated

Parts with a separator between them, told by the counter of brackets that splits them.  The counter
takes all kinds of brackets alike, goes no lower than zero and passes over the head of `=>`, so that
parts need not be nested:

```
f(x] | >a | (y) => [z | w]        f(x]        >a        (y) => [z | w]
```

* `pieces_of_depthBehind` — a text in which the counter never comes to the separator at depth zero is
  split nowhere;
* `splitBy_intercalate` — so parts are read back from their row, whatever white space stands around
  the separator.
-/

namespace Concord.Spelling

open Text

/-! ## Characters -/

theorem isOpener_of_isCloser {c : Char} (h : isCloser c = true) : isOpener c = false := by
  simp only [isCloser, Bool.or_eq_true, decide_eq_true_eq] at h
  rcases h with ((rfl | rfl) | rfl) | rfl <;> decide

/-- An opening bracket closes nothing. -/
theorem isCloser_of_isOpener {c : Char} (h : isOpener c = true) : isCloser c = false := by
  cases hc : isCloser c with
  | false => rfl
  | true => rw [isOpener_of_isCloser hc] at h; cases h

theorem notBlank_of_isOpener {c : Char} (h : isOpener c = true) : isBlank c = false := by
  simp only [isOpener, Bool.or_eq_true, decide_eq_true_eq] at h
  rcases h with ((rfl | rfl) | rfl) | rfl <;> decide

theorem notBlank_of_isCloser {c : Char} (h : isCloser c = true) : isBlank c = false := by
  simp only [isCloser, Bool.or_eq_true, decide_eq_true_eq] at h
  rcases h with ((rfl | rfl) | rfl) | rfl <;> decide

/-- A blank is no bracket. -/
theorem flat_of_isBlank {c : Char} (h : isBlank c = true) :
    isOpener c = false ∧ isCloser c = false := by
  refine ⟨?_, ?_⟩
  · rw [Bool.eq_false_iff]
    intro opener
    rw [notBlank_of_isOpener opener] at h
    cases h
  · rw [Bool.eq_false_iff]
    intro closer
    rw [notBlank_of_isCloser closer] at h
    cases h

theorem depthAfter_of_flat {c : Char} (opener : isOpener c = false) (closer : isCloser c = false)
    (prev : Option Char) (depth : Nat) : depthAfter prev depth c = depth := by
  rw [depthAfter, opener, closer, if_neg Bool.false_ne_true, Bool.false_and,
    if_neg Bool.false_ne_true]

theorem depthAfter_prev {prev : Option Char} (h : prev ≠ some '=') (depth : Nat) (c : Char) :
    depthAfter prev depth c = depthAfter none depth c := by
  rw [depthAfter, depthAfter, decide_eq_false h]
  simp

/-- The character that stands in front of what follows a text. -/
def lastOf (prev : Option Char) (s : List Char) : Option Char := s.getLast?.or prev

/-- The last character behind one more is that of the rest, or this one. -/
theorem lastOf_cons (prev : Option Char) (c : Char) (r : List Char) :
    lastOf prev (c :: r) = lastOf (some c) r := by
  cases r with
  | nil => rfl
  | cons d r => simp [lastOf, List.getLast?_cons]

theorem lastOf_ne {c : Char} {s : List Char} (h : c ∉ s) : lastOf none s ≠ some c := by
  rw [lastOf, Option.or_none]
  exact fun last => h (List.mem_of_getLast? last)

theorem lastOf_of_isBlank {s : List Char} (h : ∀ c ∈ s, isBlank c = true) :
    lastOf none s ≠ some '=' ∧ lastOf none s ≠ some '-' :=
  ⟨lastOf_ne fun here => absurd (h _ here) (by decide),
    lastOf_ne fun here => absurd (h _ here) (by decide)⟩

/-! ## Pieces -/

/-- What stands in front matters only if it is the first half of an arrow. -/
theorem pieces_prev {prev : Option Char} (h : prev ≠ some '=') (separator : List Char) (depth : Nat)
    (s : List Char) : pieces separator prev depth s = pieces separator none depth s := by
  cases s with
  | nil => rw [pieces, pieces]
  | cons c r => rw [pieces, pieces, depthAfter_prev h]

/-- A character inside brackets or other than the separator ends no piece. -/
theorem pieces_cons_of_not {separator : Char} {prev : Option Char} {depth : Nat} {c : Char}
    (h : ¬ (depthAfter prev depth c = 0 ∧ c = separator)) (r : List Char) :
    pieces [separator] prev depth (c :: r) =
      consFirst c (pieces [separator] (some c) (depthAfter prev depth c) r) := by
  have here : (decide (depthAfter prev depth c = 0) && !List.isEmpty [separator] &&
      [separator].isPrefixOf (c :: r)) = false := by
    rcases not_and_or.1 h with deep | other
    · simp [deep]
    · simp [List.isPrefixOf, Ne.symm other]
  rw [pieces]
  simp only [here, Bool.false_eq_true, if_false]

/-! ## Separators and parts -/

/-- A character that is not read otherwise: no bracket, no white space and no first half of an
arrow. -/
structure IsSeparator (c : Char) : Prop where
  opener : isOpener c = false
  closer : isCloser c = false
  solid : isBlank c = false
  equals : c ≠ '='

instance (c : Char) : Decidable (IsSeparator c) :=
  decidable_of_iff (isOpener c = false ∧ isCloser c = false ∧ isBlank c = false ∧ c ≠ '=')
    ⟨fun h => ⟨h.1, h.2.1, h.2.2.1, h.2.2.2⟩, fun h => ⟨h.opener, h.closer, h.solid, h.equals⟩⟩

/-- The depth of the counter behind a text; nothing if it comes to the separator at depth zero. -/
def depthBehind (separator : Char) (prev : Option Char) (depth : Nat) : List Char → Option Nat
  | [] => some depth
  | c :: r =>
    if depthAfter prev depth c = 0 ∧ c = separator then none
    else depthBehind separator (some c) (depthAfter prev depth c) r

/-- A trimmed text that the counter, reading it alone, leaves at depth zero without coming to the
separator there. -/
structure IsPart (separator : Char) (s : List Char) : Prop where
  nonempty : s ≠ []
  trimmed : trim s = s
  closed : depthBehind separator none 0 s = some 0

instance (separator : Char) (s : List Char) : Decidable (IsPart separator s) :=
  decidable_of_iff (s ≠ [] ∧ trim s = s ∧ depthBehind separator none 0 s = some 0)
    ⟨fun h => ⟨h.1, h.2.1, h.2.2⟩, fun h => ⟨h.nonempty, h.trimmed, h.closed⟩⟩

variable {separator : Char}

/-- The depth behind an appended text is counted on from the depth behind the first part. -/
theorem depthBehind_append (prev : Option Char) (depth : Nat) (s t : List Char) :
    depthBehind separator prev depth (s ++ t) =
      (depthBehind separator prev depth s).bind fun d =>
        depthBehind separator (lastOf prev s) d t := by
  induction s generalizing prev depth with
  | nil => rfl
  | cons c r ih =>
    rw [List.cons_append, depthBehind, depthBehind, ih, lastOf_cons]
    split <;> rfl

/-- The depth behind a text depends on what stands in front only where it is the shaft of an
arrow. -/
theorem depthBehind_prev {prev : Option Char} (h : prev ≠ some '=') (depth : Nat) (s : List Char) :
    depthBehind separator prev depth s = depthBehind separator none depth s := by
  cases s with
  | nil => rfl
  | cons c r => rw [depthBehind, depthBehind, depthAfter_prev h]

/-- The counter passes over white space. -/
theorem depthBehind_blanks (h : IsSeparator separator) {blanks : List Char}
    (blank : ∀ c ∈ blanks, isBlank c = true) (prev : Option Char) (depth : Nat) :
    depthBehind separator prev depth blanks = some depth := by
  induction blanks generalizing prev with
  | nil => rfl
  | cons c r ih =>
    have here : isBlank c = true := blank c List.mem_cons_self
    have other : c ≠ separator := by
      rintro rfl
      exact absurd h.solid (by rw [here]; exact Bool.noConfusion)
    obtain ⟨opener, closer⟩ := flat_of_isBlank here
    rw [depthBehind, if_neg fun same => other same.2, depthAfter_of_flat opener closer,
      ih fun d hd => blank d (List.mem_cons_of_mem _ hd)]

/-- **A text is split nowhere if the counter never comes to the separator at depth zero.** -/
theorem pieces_of_depthBehind {prev : Option Char} {depth depth' : Nat} {t : List Char}
    (h : depthBehind separator prev depth t = some depth') (rest : List Char) :
    pieces [separator] prev depth (t ++ rest) =
      t.foldr consFirst (pieces [separator] (lastOf prev t) depth' rest) := by
  induction t generalizing prev depth with
  | nil =>
    cases h
    rfl
  | cons c r ih =>
    rw [depthBehind] at h
    split at h
    · cases h
    · next apart =>
      rw [List.cons_append, pieces_cons_of_not apart, ih h, List.foldr_cons, lastOf_cons]

/-- Such a text is one piece. -/
theorem pieces_whole {prev : Option Char} {depth depth' : Nat} {t : List Char}
    (h : depthBehind separator prev depth t = some depth') :
    pieces [separator] prev depth t = [t] := by
  have whole := pieces_of_depthBehind h []
  rwa [List.append_nil, pieces, foldr_consFirst, List.append_nil] at whole

/-- A separator at depth zero ends a piece, and the next one is read as if nothing stood in front of
it. -/
theorem pieces_separator (h : IsSeparator separator) (prev : Option Char) (rest : List Char) :
    pieces [separator] prev 0 (separator :: rest) = [] :: pieces [separator] none 0 rest := by
  have equals : some separator ≠ some '=' := by simpa using h.equals
  rw [pieces, depthAfter_of_flat h.opener h.closer]
  simp [List.isPrefixOf, pieces_prev equals]

/-! ## Joined parts -/

/-- White space in front of the first piece is trimmed. -/
theorem map_trim_pieces_blanks (h : IsSeparator separator) {blanks : List Char}
    (blank : ∀ c ∈ blanks, isBlank c = true) (rest : List Char) :
    (pieces [separator] none 0 (blanks ++ rest)).map trim =
      (pieces [separator] none 0 rest).map trim := by
  rw [pieces_of_depthBehind (depthBehind_blanks h blank none 0),
    pieces_prev (lastOf_of_isBlank blank).1]
  cases split : pieces [separator] none 0 rest with
  | nil => exact absurd split (pieces_ne_nil _ _ _ _)
  | cons p ps => rw [foldr_consFirst, List.map_cons, List.map_cons, trim_blanks_append blank]

/-- A part is the first piece, together with the white space behind it. -/
theorem IsPart.pieces_append {p : List Char} (part : IsPart separator p) (h : IsSeparator separator)
    {blanks : List Char} (blank : ∀ c ∈ blanks, isBlank c = true) (rest : List Char) :
    pieces [separator] none 0 (p ++ (blanks ++ separator :: rest)) =
      (p ++ blanks) :: pieces [separator] none 0 rest := by
  rw [pieces_of_depthBehind part.closed, pieces_of_depthBehind (depthBehind_blanks h blank _ 0),
    pieces_separator h, foldr_consFirst, List.append_nil, foldr_consFirst]

/-- **Parts joined by a separator, with any blanks around it, are split into these parts.** -/
theorem map_trim_pieces_joined (h : IsSeparator separator) {left right : List Char}
    (blankLeft : ∀ c ∈ left, isBlank c = true) (blankRight : ∀ c ∈ right, isBlank c = true)
    {p : List Char} {parts : List (List Char)} (hp : ∀ q ∈ p :: parts, IsPart separator q) :
    (pieces [separator] none 0 ((left ++ separator :: right).intercalate (p :: parts))).map trim =
      p :: parts := by
  induction parts generalizing p with
  | nil =>
    have only := hp p List.mem_cons_self
    rw [List.intercalate_singleton, pieces_whole only.closed, List.map_singleton, only.trimmed]
  | cons q parts ih =>
    have first := hp p List.mem_cons_self
    have read (rest : List Char) : p ++ (left ++ separator :: right) ++ rest =
        p ++ (left ++ separator :: (right ++ rest)) := by simp
    rw [List.intercalate_cons_cons, read, first.pieces_append h blankLeft, List.map_cons,
      trim_append_blanks first.trimmed first.nonempty blankLeft, map_trim_pieces_blanks h blankRight,
      ih fun r hr => hp r (List.mem_cons_of_mem _ hr)]

/-- **Joined parts are split where they were joined.** -/
theorem splitBy_intercalate (h : IsSeparator separator) {left right : List Char}
    (blankLeft : ∀ c ∈ left, isBlank c = true) (blankRight : ∀ c ∈ right, isBlank c = true)
    {parts : List (List Char)} (hp : ∀ p ∈ parts, IsPart separator p) :
    splitBy (String.singleton separator) ((left ++ separator :: right).intercalate parts) =
      parts := by
  have word : (String.singleton separator).toList = [separator] :=
    String.toList_singleton separator
  rw [splitBy, word]
  cases parts with
  | nil =>
    rw [List.intercalate_nil, pieces]
    rfl
  | cons p parts =>
    rw [map_trim_pieces_joined h blankLeft blankRight hp, List.filter_eq_self]
    intro q hq
    exact decide_eq_true (hp q hq).nonempty

end Concord.Spelling
