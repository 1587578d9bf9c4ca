import Mathlib.Data.List.TakeWhile
import Concord.Proofs.Spelling.Texts

/-!
# Concord.Proofs.Spelling.Reading

How one layer of a spelling is read.  A spelling whose head is no single word (`IsLayered`) is in no
list of the vocabulary, so that only its ends decide: `peel_of_element?` and `peel_of_optional?`.
A pointer mark in front leaves the reading of the rest as it is (`shapeChars_of_mark`), and a head
with one argument is read by what the head says (`peel_of_wrapper`).
-/

namespace Concord.Spelling

open Text

/-! ## Layers by kind -/

/-- The layer of a kind around a spelling. -/
def Kind.around (kind : Kind) (inner : List Char) : Layer :=
  .around (kind == .pointer || kind == .optional) (kind == .array) inner

/-- The shape that a layer of a kind gives to what has a shape. -/
def Kind.mark (kind : Kind) (shape : TypeShape) : TypeShape :=
  { shape with
    isPointer := kind == .pointer || kind == .optional || shape.isPointer
    isArray := kind == .array || shape.isArray }

theorem shapeChars_of_peel {s inner : List Char} {kind : Kind} (h : peel s = kind.around inner) :
    shapeChars s = kind.mark (shapeChars inner) := by
  rw [shapeChars_eq, h]
  rfl

/-! ## Marked texts -/

/-- Whether a text holds something besides letters, digits and white space. -/
def IsMarked (s : List Char) : Prop := ∃ c ∈ s, c.isAlphanum = false ∧ isBlank c = false

theorem IsMarked.append_left {s : List Char} (h : IsMarked s) (t : List Char) : IsMarked (s ++ t) := by
  obtain ⟨c, hc, mark⟩ := h
  exact ⟨c, List.mem_append_left _ hc, mark⟩

theorem IsMarked.append_right {s : List Char} (h : IsMarked s) (t : List Char) :
    IsMarked (t ++ s) := by
  obtain ⟨c, hc, mark⟩ := h
  exact ⟨c, List.mem_append_right _ hc, mark⟩

theorem IsMarked.ne_nil {s : List Char} (h : IsMarked s) : s ≠ [] := by
  obtain ⟨c, hc, -⟩ := h
  exact List.ne_nil_of_mem hc

/-- A text that begins with a bracket is marked. -/
theorem isMarked_of_isOpener {c : Char} (opens : isOpener c = true) (r : List Char) :
    IsMarked (c :: r) := by
  refine ⟨c, List.mem_cons_self, ?_⟩
  simp only [isOpener, Bool.or_eq_true, decide_eq_true_eq] at opens
  rcases opens with ((rfl | rfl) | rfl) | rfl <;> decide

/-- Trimming keeps all marks. -/
theorem IsMarked.trim {s : List Char} (h : IsMarked s) : IsMarked (trim s) := by
  obtain ⟨c, hc, mark, blank⟩ := h
  exact ⟨c, mem_trim hc blank, mark, blank⟩

/-- A marked text is none of some plain words. -/
theorem IsMarked.isOneOf {words : List String}
    (plain : ∀ w ∈ words, w.toList.all Char.isAlphanum = true) {s : List Char} (h : IsMarked s) :
    isOneOf words s = false := by
  obtain ⟨c, hc, mark, -⟩ := h
  rw [isOneOf_eq_false]
  intro hs
  have := plain _ hs
  rw [String.toList_ofList, List.all_eq_true] at this
  rw [this c hc] at mark
  cases mark

theorem IsMarked.isNullish_eq_false {s : List Char} (h : IsMarked s) : isNullish s = false :=
  h.trim.isOneOf (by decide)

/-- A marked text is not a word of letters and digits. -/
theorem IsMarked.ne {word : String} (plain : word.toList.all Char.isAlphanum = true)
    {s : List Char} (h : IsMarked s) : s ≠ word.toList := by
  rintro rfl
  obtain ⟨c, hc, mark, -⟩ := h
  rw [List.all_eq_true.1 plain c hc] at mark
  cases mark

theorem IsMarked.isTupleHead_eq_false {s : List Char} (h : IsMarked s) : isTupleHead s = false :=
  h.isOneOf (by decide)

/-! ## The vocabulary -/

/-- What is known of a spelling in the vocabulary: it is a plain word, or a character or a word of it
stands in no layered spelling. -/
theorem known_isPlain : ∀ family ∈ Vocabulary.families, ∀ known ∈ family.2,
    known.toList.all Char.isAlphanum = true ∨
      known.toList.all isSpellingChar = false ∨ ¬ WordsAreFree known.toList := by
  decide +kernel

theorem known_noBar : ∀ family ∈ Vocabulary.families, ∀ known ∈ family.2, '|' ∉ known.toList := by
  decide +kernel

/-- A text without a property that all words of the vocabulary have is not in it. -/
theorem lookup?_eq_none_of_not {p : List Char → Prop}
    (all : ∀ family ∈ Vocabulary.families, ∀ known ∈ family.2, p known.toList) {s : List Char}
    (h : ¬ p s) : Vocabulary.lookup? s = none := by
  rw [Vocabulary.lookup?, Option.map_eq_none_iff, List.find?_eq_none]
  intro family hfamily hs
  have here := all family hfamily _ (List.contains_iff_mem.1 hs)
  rw [String.toList_ofList] at here
  exact h here

theorem lookup?_eq_none_of_bar {s : List Char} (h : '|' ∈ s) : Vocabulary.lookup? s = none :=
  lookup?_eq_none_of_not (p := fun s => '|' ∉ s) known_noBar (not_not_intro h)

namespace IsSpelling

variable {s : List Char}

/-- A marked spelling is no word of the vocabulary. -/
theorem lookup?_eq_none (h : IsSpelling s) (marked : IsMarked s) : Vocabulary.lookup? s = none := by
  refine lookup?_eq_none_of_not (p := fun s => s.all Char.isAlphanum = true ∨
    s.all isSpellingChar = false ∨ ¬ WordsAreFree s) known_isPlain ?_
  obtain ⟨c, hc, mark, -⟩ := marked
  rintro (plain | strange | forbidden)
  · rw [List.all_eq_true.1 plain c hc] at mark
    cases mark
  · rw [h.chars] at strange
    cases strange
  · exact forbidden h.words

/-- Neither is it one once its spaces are taken out. -/
theorem canonical?_eq_none (h : IsSpelling s) (marked : IsMarked s) :
    Vocabulary.canonical? s = none := by
  by_cases space : ' ' ∈ s
  · have compact : Vocabulary.lookup? (s.filter (· ≠ ' ')) = none :=
      lookup?_eq_none_of_bar (List.mem_filter.2 ⟨h.bar space, by decide⟩)
    rw [Vocabulary.canonical?, h.lookup?_eq_none marked, compact]
    rfl
  · rw [canonical?_eq_lookup? space, h.lookup?_eq_none marked]

/-! ## What a spelling does not begin with -/

/-- A spelling holds only the characters of spellings. -/
theorem not_mem (h : IsSpelling s) {c : Char} (hc : isSpellingChar c = false) : c ∉ s := by
  intro hs
  rw [h.char hs] at hc
  cases hc

/-- A spelling does not begin with a blank. -/
theorem head_notBlank (h : IsSpelling s) {c : Char} (hc : s.head? = some c) : isBlank c = false := by
  obtain ⟨first, hfirst, starts⟩ := h.head
  rw [hc, Option.some.injEq] at hfirst
  subst hfirst
  exact (starts_isLawful (h.char (List.mem_of_head? hc)) starts).1

/-- A spelling does not end with a blank. -/
theorem last_notBlank (h : IsSpelling s) {c : Char} (hc : s.getLast? = some c) :
    isBlank c = false := by
  obtain ⟨last, hlast, ends⟩ := h.last
  rw [hc, Option.some.injEq] at hlast
  subst hlast
  exact (ends_isLawful (h.char (List.mem_of_getLast? hc)) ends).1

theorem trim_eq (h : IsSpelling s) : trim s = s :=
  trim_eq_self (fun _ hc => h.head_notBlank hc) (fun _ hc => h.last_notBlank hc)

/-- No spelling begins with a forbidden word and a mark behind it. -/
theorem begins_eq_false (h : IsSpelling s) (text word : String) (c : Char)
    (htext : text.toList = word.toList ++ [c]) (hc : c.isAlphanum = false)
    (forbidden : word ∈ forbiddenWords) (isWord : word.toList.all Char.isAlphanum = true) :
    begins text s = false := by
  rw [begins, htext, Bool.eq_false_iff]
  intro starts
  obtain ⟨t, ht⟩ := List.isPrefixOf_iff_prefix.1 starts
  rw [List.append_assoc, List.singleton_append] at ht
  exact not_wordsAreFree hc ht.symm forbidden isWord h.words

/-- A spelling has no qualifying words in front. -/
theorem stripQualifiers_eq (h : IsSpelling s) : stripQualifiers s = s := by
  have words : ∀ q ∈ Vocabulary.qualifiers, ∃ w ∈ forbiddenWords,
      q.toList = w.toList ++ [' '] ∧ w.toList.all Char.isAlphanum = true := by
    decide +kernel
  refine stripQualifiers_eq_self h.trim_eq ?_ fun q hq => ?_
  · intro quote
    exact h.not_mem (by decide) (List.mem_of_head? quote)
  · obtain ⟨w, forbidden, text, isWord⟩ := words q hq
    exact h.begins_eq_false q w ' ' text rfl forbidden isWord

/-- A marked spelling is a mapping by its head only. -/
theorem isMapping_eq_false (h : IsSpelling s) (marked : IsMarked s)
    (head : isOneOf Vocabulary.maps (generic s).head = false) : isMapping s = false := by
  rw [isMapping, head, marked.isOneOf (by decide +kernel),
    h.begins_eq_false "map[" "map" '[' rfl rfl (by decide) rfl]
  rfl

theorem isFunction_eq_false (h : IsSpelling s)
    (head : isOneOf Vocabulary.functions (generic s).head = false) : isFunction s = false := by
  rw [isFunction_eq_head (h.not_mem (by decide)), head]

/-- Without commas there is no tuple. -/
theorem tupleElements?_eq_none (h : IsSpelling s) (head : isTupleHead (generic s).head = false) :
    tupleElements? s = none := by
  have comma : ',' ∉ s.tail.dropLast := fun hc =>
    h.not_mem (c := ',') (by decide)
      ((List.tail_sublist s).subset ((List.dropLast_sublist _).subset hc))
  have members : (splitCommas s.tail.dropLast).length ≤ 1 := by
    rw [splitCommas, splitBy, pieces_eq_singleton (c := ',') (by decide) none 0 comma]
    exact List.length_filter_le _ _
  have last : (trimEnd s.tail.dropLast).getLast? ≠ some ',' := by
    intro hlast
    have := List.mem_of_getLast? hlast
    rw [trimEnd, trimEndBy, List.mem_reverse] at this
    exact comma (List.mem_reverse.1 ((List.dropWhile_sublist _).subset this))
  rw [tupleElements?, h.stripQualifiers_eq, tupleMembers?, head, Bool.false_and,
    if_neg Bool.false_ne_true]
  dsimp only
  rw [decide_eq_false (Nat.not_lt.2 members), decide_eq_false last]
  simp

end IsSpelling

/-! ## The ends of a spelling -/

theorem before?_append (s : List Char) (word : String) :
    before? word (s ++ word.toList) = some s := by
  rw [before?, ends, if_pos (List.isSuffixOf_iff_suffix.2 (List.suffix_append _ _))]
  simp

/-- A text whose last character is another does not end with the word. -/
theorem ends_eq_false_of_last {word : String} {s : List Char} {c d : Char}
    (hs : s.getLast? = some c) (hw : word.toList.getLast? = some d) (ne : c ≠ d) :
    ends word s = false := by
  rw [ends, Bool.eq_false_iff]
  intro suffix
  obtain ⟨t, rfl⟩ := List.isSuffixOf_iff_suffix.1 suffix
  rw [List.getLast?_append, hw, Option.some_or, Option.some.injEq] at hs
  exact ne hs.symm

theorem before?_eq_none_of_last {word : String} {s : List Char} {c d : Char}
    (hs : s.getLast? = some c) (hw : word.toList.getLast? = some d) (ne : c ≠ d) :
    before? word s = none := by
  rw [before?, ends_eq_false_of_last hs hw ne, if_neg Bool.false_ne_true]

/-- A group that holds a spelling does not end in empty brackets. -/
theorem before?_brackets_of_group {front t : List Char} {opener closer : Char} (h : IsSpelling t) :
    before? "[]" (front ++ opener :: (t ++ [closer])) = none := by
  obtain ⟨last, hlast, ends⟩ := h.last
  have notOpener := (ends_isLawful (h.char (List.mem_of_getLast? hlast)) ends).2
  rw [before?, Text.ends, if_neg]
  intro suffix
  obtain ⟨s, hs⟩ := List.isSuffixOf_iff_suffix.1 suffix
  have brackets : "[]".toList = ['['] ++ [']'] := rfl
  rw [brackets, ← List.append_assoc, ← List.cons_append, ← List.append_assoc] at hs
  have inner := congrArg List.getLast? (List.append_inj_left' hs rfl)
  rw [List.getLast?_concat, List.getLast?_append, List.getLast?_cons, hlast] at inner
  simp only [Option.getD_some, Option.some_or, Option.some.injEq] at inner
  exact notOpener inner.symm

/-- Only a text that begins with a bracket has a length in front. -/
theorem afterLength?_eq_none {s : List Char} (h : s.head? ≠ some '[') : afterLength? s = none := by
  unfold afterLength?
  split
  · exact absurd rfl h
  · rfl

/-- What stands in a bracket and begins a spelling is no length. -/
theorem afterLength?_of_starts {c : Char} (char : isSpellingChar c = true)
    (starts : startsSpelling c = true) (s : List Char) : afterLength? ('[' :: c :: s) = none := by
  obtain ⟨-, notDigit, -, notCloser, -⟩ := starts_isLawful char starts
  rw [afterLength?, List.dropWhile_cons_of_neg (by rw [notDigit]; exact Bool.false_ne_true)]
  split
  · rename_i closer
    exact absurd (List.cons.inj closer).1 notCloser
  · rfl

/-- A text that does not begin with a bracket does not begin with an empty pair of them. -/
theorem begins_bracket_eq_false {s : List Char} (h : s.head? ≠ some '[') : begins "[" s = false := by
  rw [begins, Bool.eq_false_iff]
  intro starts
  obtain ⟨t, rfl⟩ := List.isPrefixOf_iff_prefix.1 starts
  exact h rfl

/-- A marked spelling that ends in no closing bracket is its own head. -/
theorem IsSpelling.isMarked_head {s : List Char} (h : IsSpelling s) (marked : IsMarked s) {c : Char}
    (last : s.getLast? = some c) (angle : c ≠ '>') (square : c ≠ ']') :
    IsMarked (generic s).head := by
  rw [generic_eq_self h.trim_eq (by simpa [last] using angle) (by simpa [last] using square)]
  exact marked

/-! ## Layers told by the ends of a spelling -/

/-- A head of another kind wraps no single value. -/
theorem peelBare_of_head {s : List Char} (unknown : Vocabulary.canonical? s = none)
    (present : isOneOf Vocabulary.deferred (generic s).head = false)
    (routine : (generic s).head ≠ "Coroutine".toList)
    (pointer : isOneOf Vocabulary.pointers (generic s).head = false) (p : Bool) :
    peelBare p s = peelBare.peelPlain p s := by
  rw [peelBare, unknown]
  simp only [present, pointer, if_neg routine]
  split <;> rfl

theorem peelBare_of_isMarked {s : List Char} (unknown : Vocabulary.canonical? s = none)
    (head : IsMarked (generic s).head) (p : Bool) : peelBare p s = peelBare.peelPlain p s :=
  peelBare_of_head unknown (head.isOneOf (by decide)) (head.ne (by decide))
    (head.isOneOf (by decide)) p

/-- A spelling whose head is no single word. -/
structure IsLayered (s : List Char) : Prop extends IsSpelling s where
  marked : IsMarked s
  headMarked : IsMarked (generic s).head

namespace IsLayered

variable {s : List Char}

/-- No word that heads a layer is the head. -/
theorem not_head (h : IsLayered s) {words : List String}
    (plain : ∀ w ∈ words, w.toList.all Char.isAlphanum = true) :
    isOneOf words (generic s).head = false := h.headMarked.isOneOf plain

/-- The layers of a spelling are tried in the order array, optional, union, word. -/
theorem peelBare_eq (h : IsLayered s) (p : Bool) :
    peelBare p s =
      match element? s with
      | some element => .around p true element
      | none =>
        match optional? s with
        | some type => .around true false type
        | none => if isUnion s then .whole { base := "any", isPointer := p }
          else .whole { base := baseName s, isPointer := p } := by
  rw [peelBare_of_isMarked (h.canonical?_eq_none h.marked) h.headMarked, peelBare.peelPlain,
    h.isFunction_eq_false (h.not_head (by decide)),
    h.tupleElements?_eq_none (h.not_head (by decide)),
    h.marked.isOneOf (by decide), h.isMapping_eq_false h.marked (h.not_head (by decide))]
  rfl

/-- A text without brackets in front or behind, and with no wrapper for arrays, is no array. -/
theorem element?_eq_none (h : IsLayered s) (length : afterLength? s = none)
    (brackets : before? "[]" s = none) (apart : (begins "[" s && ends "]" s) = false) :
    element? s = none := by
  rw [element?, length, brackets, apart]
  dsimp only
  rw [h.not_head (by decide), h.headMarked.isTupleHead_eq_false]
  simp

end IsLayered

/-- Without a pointer mark in front only the rest of the reader is left. -/
theorem IsSpelling.peel_eq {s : List Char} (h : IsSpelling s) (clear : beginsWithMark s = false) :
    peel s = peelBare false s := by
  rw [peel]
  simp only [h.stripQualifiers_eq]
  split
  · exact absurd rfl h.nonempty
  · rename_i c r
    have marks : (decide (c = '*') || decide (c = '&')) = false := by
      simpa [beginsWithMark] using clear
    rw [marks, Bool.false_and, if_neg Bool.false_ne_true]

theorem IsLayered.peel_of_element? {s element : List Char} (h : IsLayered s)
    (clear : beginsWithMark s = false) (found : element? s = some element) :
    peel s = Kind.array.around element := by
  rw [h.peel_eq clear, h.peelBare_eq, found]
  rfl

theorem IsLayered.peel_of_optional? {s type : List Char} (h : IsLayered s)
    (clear : beginsWithMark s = false) (other : element? s = none)
    (found : optional? s = some type) : peel s = Kind.optional.around type := by
  rw [h.peel_eq clear, h.peelBare_eq, other, found]
  rfl

/-- A spelling in brackets is an array of what is inside. -/
theorem peel_bracketed {t : List Char} (h : IsSpelling t) :
    peel ('[' :: (t ++ [']'])) = Kind.array.around t := by
  have spelling := h.bracketed
  have marked : IsMarked ('[' :: (t ++ [']'])) := ⟨'[', List.mem_cons_self, by decide⟩
  have bare : generic ([] ++ '[' :: (t ++ [']'])) = ⟨[] ++ '[' :: (t ++ [']']), []⟩ := by
    rw [generic_of_group (.inr ⟨rfl, rfl⟩) h.balanced spelling.trim_eq, if_neg (by simp)]
  have layered : IsLayered ('[' :: (t ++ [']'])) := by
    refine ⟨spelling, marked, ?_⟩
    rw [List.nil_append] at bare
    rw [bare]
    exact marked
  have length : afterLength? ('[' :: (t ++ [']'])) = none := by
    obtain ⟨c, hc, starts⟩ := h.head
    obtain ⟨rest, rfl⟩ := List.head?_eq_some_iff.1 hc
    exact afterLength?_of_starts (h.char List.mem_cons_self) starts _
  have brackets : before? "[]" ([] ++ '[' :: (t ++ [']'])) = none := before?_brackets_of_group h
  have closed : ends "]" ('[' :: (t ++ [']'])) = true :=
    List.isSuffixOf_iff_suffix.2 (List.suffix_append ('[' :: t) [']'])
  have inside : upTo ';' (t ++ [']']).dropLast = t := by
    rw [List.dropLast_concat, upTo, List.takeWhile_eq_self_iff]
    intro c hc
    rw [decide_eq_true_eq]
    rintro rfl
    exact h.not_mem (c := ';') (by decide) hc
  refine layered.peel_of_element? rfl ?_
  rw [List.nil_append] at brackets
  rw [element?, length, brackets, closed, List.tail_cons, inside]
  rfl

/-! ## Pointer marks -/

/-- That there was a pointer mark in front is only added to the shape. -/
theorem shape_peelBare_true (s : List Char) :
    (peelBare true s).shape = { (peelBare false s).shape with isPointer := true } := by
  have plain : (peelBare.peelPlain true s).shape =
      { (peelBare.peelPlain false s).shape with isPointer := true } := by
    unfold peelBare.peelPlain
    repeat' split
    all_goals rfl
  rw [peelBare, peelBare]
  cases Vocabulary.canonical? s with
  | some base => rfl
  | none =>
    dsimp only
    cases (generic s).args with
    | nil => exact plain
    | cons first rest =>
      dsimp only
      split_ifs
      · rfl
      · rfl
      · rfl
      · exact plain

/-- A pointer mark in front of a spelling is the layer of a pointer. -/
theorem shapeChars_of_mark {s : List Char} {c : Char} (hc : c = '*' ∨ c = '&')
    (h : IsSpelling (c :: s)) (inside : IsSpelling s) (clear : beginsWithMark s = false) :
    shapeChars (c :: s) = Kind.pointer.mark (shapeChars s) := by
  have marked : IsMarked (c :: s) := by
    refine ⟨c, List.mem_cons_self, ?_⟩
    rcases hc with rfl | rfl <;> decide
  have mark : (decide (c = '*') || decide (c = '&')) = true := by
    rcases hc with rfl | rfl <;> rfl
  have read : peel (c :: s) = peelBare true s := by
    rw [peel]
    simp only [h.stripQualifiers_eq, inside.stripQualifiers_eq, h.lookup?_eq_none marked, mark]
    rw [Option.isNone_none, Bool.true_and, if_pos rfl, if_neg (by simpa using inside.nonempty)]
  rw [shapeChars_eq, shapeChars_eq s, read, inside.peel_eq clear, shape_peelBare_true]
  rfl

/-! ## Heads -/

theorem splitCommas_of_isSpelling {t : List Char} (h : IsSpelling t) : splitCommas t = [t] :=
  splitBy_eq_singleton (c := ',') (by decide) (h.not_mem (by decide)) h.trim_eq h.nonempty

/-- A wrapper around a spelling is read as its word applied to one argument. -/
theorem Wrapper.generic_eq (w : Wrapper) {t : List Char} (h : IsSpelling t) :
    generic (w.word.toList ++ w.brackets.1 :: (t ++ [w.brackets.2])) = ⟨w.word.toList, [t]⟩ := by
  have word : w.word.toList ≠ [] ∧ trim w.word.toList = w.word.toList := by cases w <;> decide
  rw [generic_of_group w.isPair_brackets h.balanced (h.wrapped w).trim_eq,
    if_pos ⟨word.1, h.nonempty⟩, word.2, splitCommas_of_isSpelling h]

namespace Wrapper

variable (w : Wrapper)

/-- The text of a head with its argument. -/
def apply (t : List Char) : List Char :=
  w.word.toList ++ w.brackets.1 :: (t ++ [w.brackets.2])

/-- A wrapped text begins with a letter, that of the wrapper's word. -/
theorem head?_apply (t : List Char) : ∃ c, (w.apply t).head? = some c ∧ c.isAlpha = true := by
  cases w <;> exact ⟨_, rfl, rfl⟩

/-- So it does not begin with a mark. -/
theorem head?_apply_ne (t : List Char) {c : Char} (hc : c.isAlpha = false) :
    (w.apply t).head? ≠ some c := by
  obtain ⟨d, hd, letter⟩ := w.head?_apply t
  rw [hd, ne_eq, Option.some.injEq]
  rintro rfl
  rw [hc] at letter
  cases letter

theorem isMarked_apply (t : List Char) : IsMarked (w.apply t) := by
  refine ⟨w.brackets.1, List.mem_append_right _ List.mem_cons_self, ?_⟩
  cases w <;> decide

variable {t : List Char}

/-- Only the wrappers of arrays have an element. -/
theorem element?_apply (h : IsSpelling t) :
    element? (w.apply t) = if w.kind = .array then some t else none := by
  rw [element?, afterLength?_eq_none (w.head?_apply_ne t rfl), apply, before?_brackets_of_group h,
    w.generic_eq h, ← apply, begins_bracket_eq_false (w.head?_apply_ne t rfl)]
  cases w <;> rfl

/-- The wrappers of optionals have their inside as the type that may be absent. -/
theorem optional?_apply (h : IsSpelling t) (optional : w.kind = .optional) :
    optional? (w.apply t) = some t := by
  have last : before? "?" (w.apply t) = none := by
    refine before?_eq_none_of_last (c := w.brackets.2) (d := '?') ?_ rfl ?_
    · exact getLast?_group _ _ _ _
    · cases w <;> decide
  rw [optional?, last, apply, w.generic_eq h]
  cases w <;> first | rfl | cases optional

/-- A wrapper that is no function, tuple or mapping is an array or an optional by its kind. -/
theorem peelPlain_apply (h : IsSpelling t)
    (other : isOneOf Vocabulary.functions w.word.toList = false ∧ isTupleHead w.word.toList = false ∧
      isOneOf Vocabulary.maps w.word.toList = false) :
    peelBare.peelPlain false (w.apply t) =
      match element? (w.apply t) with
      | some element => .around false true element
      | none =>
        match optional? (w.apply t) with
        | some type => .around true false type
        | none => if isUnion (w.apply t) then .whole { base := "any" }
          else .whole { base := baseName (w.apply t) } := by
  have spelling : IsSpelling (w.apply t) := h.wrapped w
  have head : (generic (w.apply t)).head = w.word.toList := congrArg Generic.head (w.generic_eq h)
  rw [← head] at other
  rw [peelBare.peelPlain, spelling.isFunction_eq_false other.1,
    spelling.tupleElements?_eq_none other.2.1, (w.isMarked_apply t).isOneOf (by decide),
    spelling.isMapping_eq_false (w.isMarked_apply t) other.2.2]
  rfl

/-- A head with one argument is read by what the head says. -/
theorem peel_apply (h : IsSpelling t) : peel (w.apply t) = w.kind.around t := by
  have clear : beginsWithMark (w.apply t) = false := by
    obtain ⟨c, hc, letter⟩ := w.head?_apply t
    obtain ⟨rest, text⟩ := List.head?_eq_some_iff.1 hc
    rw [text]
    exact beginsWithMark_of_isAlpha letter
  have plain := w.peelPlain_apply h (by cases w <;> decide)
  have heads : isOneOf Vocabulary.deferred w.word.toList = (w.kind == .deferred) ∧
      w.word.toList ≠ "Coroutine".toList ∧
      isOneOf Vocabulary.pointers w.word.toList = (w.kind == .pointer) := by
    cases w <;> decide
  have generic : generic (w.apply t) = ⟨w.word.toList, [t]⟩ := w.generic_eq h
  have spelling : IsSpelling (w.apply t) := h.wrapped w
  rw [spelling.peel_eq clear, peelBare, spelling.canonical?_eq_none (w.isMarked_apply t)]
  simp only [generic, heads.1, heads.2.2, if_neg heads.2.1]
  rw [w.element?_apply h] at plain
  cases kind : w.kind with
  | array =>
    rw [if_neg (by decide), if_neg (by decide), plain, kind, if_pos rfl]
    rfl
  | optional =>
    rw [if_neg (by decide), if_neg (by decide), plain, kind, if_neg (by decide),
      w.optional?_apply h kind]
    rfl
  | pointer => rfl
  | deferred => rfl

end Wrapper

end Concord.Spelling
