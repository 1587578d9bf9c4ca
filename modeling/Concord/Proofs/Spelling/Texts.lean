import Mathlib.Data.List.Basic
import Concord.Proofs.Spelling.Bracket
import Concord.Proofs.Spelling.Layered

/-!
# Concord.Proofs.Spelling.Texts

What the texts of layered spellings cannot hold, whatever the order of their layers.  `IsSpelling`
gathers it: which characters there are and which of them stand at the ends, that brackets match, and
that no word in it makes it another spelling.  It is said of texts and not of trees, since a reader
meets texts that no tree was written as; every way of writing a layer keeps it (`IsSpelling.write`).
-/

namespace Concord.Spelling

open Text

/-! ## Characters of spellings -/

/-- The characters that layered spellings are made of. -/
def isSpellingChar (c : Char) : Bool :=
  c.isAlphanum || [' ', '[', ']', '<', '>', '?', '|', '*', '&'].contains c

/-- The characters that a layered spelling may begin with. -/
def startsSpelling (c : Char) : Bool := c.isAlpha || c == '[' || c == '*' || c == '&'

/-- The characters that a layered spelling may end with. -/
def endsSpelling (c : Char) : Bool := c.isAlphanum || c == ']' || c == '>' || c == '?'

/-- Letters and digits are ASCII characters. -/
theorem lt_of_isAlphanum {c : Char} (h : c.isAlphanum = true) : c.toNat < 128 := by
  have ranges : (decide (c.val ≥ 'A'.val ∧ c.val ≤ 'Z'.val) ||
      (c.val ≥ 'a'.val && c.val ≤ 'z'.val) || (c.val ≥ '0'.val && c.val ≤ '9'.val)) = true := h
  simp only [Bool.or_eq_true, Bool.and_eq_true, decide_eq_true_eq, UInt32.le_iff_toNat_le] at ranges
  have : c.toNat = c.val.toNat := rfl
  have : 'Z'.val.toNat = 90 := rfl
  have : 'z'.val.toNat = 122 := rfl
  have : '9'.val.toNat = 57 := rfl
  omega

/-- All characters of spellings are ASCII, so that what holds of them is checked by inspection. -/
theorem of_isSpellingChar {P : Char → Prop}
    (all : ∀ n < 128, isSpellingChar (Char.ofNat n) = true → P (Char.ofNat n)) {c : Char}
    (h : isSpellingChar c = true) : P c := by
  have ascii : c.toNat < 128 := by
    rw [isSpellingChar, Bool.or_eq_true, List.contains_iff_mem] at h
    rcases h with h | h
    · exact lt_of_isAlphanum h
    · have all : [' ', '[', ']', '<', '>', '?', '|', '*', '&'].all (·.toNat < 128) = true := by
        decide
      exact of_decide_eq_true (List.all_eq_true.1 all c h)
  have := all c.toNat ascii
  rw [Char.ofNat_toNat] at this
  exact this h

/-- A character that may begin a spelling is no blank, digit, quote, closing bracket or question
mark. -/
theorem starts_isLawful {c : Char} (h : isSpellingChar c = true) (starts : startsSpelling c = true) :
    isBlank c = false ∧ isDecimal c = false ∧ c ≠ '\'' ∧ c ≠ ']' ∧ c ≠ '?' :=
  of_isSpellingChar
    (P := fun c => startsSpelling c = true →
      isBlank c = false ∧ isDecimal c = false ∧ c ≠ '\'' ∧ c ≠ ']' ∧ c ≠ '?')
    (by decide +kernel) h starts

theorem ends_isLawful {c : Char} (h : isSpellingChar c = true) (ends : endsSpelling c = true) :
    isBlank c = false ∧ c ≠ '[' :=
  of_isSpellingChar (P := fun c => endsSpelling c = true → isBlank c = false ∧ c ≠ '[')
    (by decide +kernel) h ends

theorem isSpellingChar_of_isAlphanum {c : Char} (h : c.isAlphanum = true) :
    isSpellingChar c = true := by
  rw [isSpellingChar, h, Bool.true_or]

/-- Letters and digits are plain, belong to words and may end a spelling. -/
theorem alphanumeric_isLawful {c : Char} (h : c.isAlphanum = true) :
    isPlain c = true ∧ isWordChar c = true ∧ endsSpelling c = true :=
  of_isSpellingChar
    (P := fun c => c.isAlphanum = true →
      isPlain c = true ∧ isWordChar c = true ∧ endsSpelling c = true)
    (by decide +kernel) (isSpellingChar_of_isAlphanum h) h

/-- A word of letters and digits is balanced, as it holds no bracket. -/
theorem balanced_of_alphanumeric {bars : Bool} {s : List Char}
    (h : s.all Char.isAlphanum = true) : Balanced bars s := by
  refine .of_all (List.all_eq_true.2 fun c hc => ?_)
  have alphanumeric := List.all_eq_true.1 h c hc
  have flat := of_isSpellingChar (P := fun c => c.isAlphanum = true → isFlat false c = true)
    (by decide +kernel) (isSpellingChar_of_isAlphanum alphanumeric) alphanumeric
  rw [isFlat, Bool.or_false, Bool.and_eq_true] at flat
  rw [isFlat, flat.1, flat.2]
  rfl

/-! ## Words of spellings -/

/-- The words that no part of a spelling is: they would make it another spelling. -/
def forbiddenWords : List String := ["byte", "u8", "map"] ++ qualifierWords

/-- Whether no run of letters and digits in a text is a forbidden word. -/
def WordsAreFree (s : List Char) : Prop :=
  ∀ w ∈ s.splitOnP (fun c => !c.isAlphanum), String.ofList w ∉ forbiddenWords

instance (s : List Char) : Decidable (WordsAreFree s) :=
  inferInstanceAs (Decidable
    (∀ w ∈ s.splitOnP (fun c => !c.isAlphanum), String.ofList w ∉ forbiddenWords))

theorem wordsAreFree_append_cons {s t : List Char} {c : Char} (hc : c.isAlphanum = false) :
    WordsAreFree (s ++ c :: t) ↔ WordsAreFree s ∧ WordsAreFree t := by
  rw [WordsAreFree, List.splitOnP_append_cons _ _ (by rw [hc]; rfl), List.forall_mem_append]
  rfl

theorem wordsAreFree_of_alphanumeric {s : List Char} (h : s.all Char.isAlphanum = true) :
    WordsAreFree s ↔ String.ofList s ∉ forbiddenWords := by
  rw [WordsAreFree, List.splitOnP_eq_singleton fun c hc => by rw [List.all_eq_true.1 h c hc]; rfl]
  simp

/-- A text with a forbidden word in front of a blank or a bracket has no free words. -/
theorem not_wordsAreFree {word : String} {s t : List Char} {c : Char} (hc : c.isAlphanum = false)
    (hs : s = word.toList ++ c :: t) (forbidden : word ∈ forbiddenWords)
    (isWord : word.toList.all Char.isAlphanum = true) : ¬ WordsAreFree s := by
  rw [hs, wordsAreFree_append_cons hc, wordsAreFree_of_alphanumeric isWord, String.ofList_toList]
  exact fun h => h.1 forbidden

/-! ## Texts of spellings -/

/-- What every text of a layered spelling satisfies. -/
structure IsSpelling (s : List Char) : Prop where
  chars : s.all isSpellingChar = true
  head : ∃ c, s.head? = some c ∧ startsSpelling c = true
  last : ∃ c, s.getLast? = some c ∧ endsSpelling c = true
  balanced : Balanced true s
  words : WordsAreFree s
  bar : ' ' ∈ s → '|' ∈ s

/-- What stands in front of a spelling, up to the mark that ends it. -/
structure IsLead (p : List Char) (mark : Char) : Prop where
  chars : (p ++ [mark]).all isSpellingChar = true
  head : ∃ c, (p ++ [mark]).head? = some c ∧ startsSpelling c = true
  balanced : Balanced true (p ++ [mark])
  notWord : mark.isAlphanum = false
  words : WordsAreFree p
  bar : ' ' ∈ p ++ [mark] → '|' ∈ p ++ [mark]

/-- What stands behind a spelling, from the mark on that begins it. -/
structure IsTrail (mark : Char) (p : List Char) : Prop where
  chars : (mark :: p).all isSpellingChar = true
  last : ∃ c, (mark :: p).getLast? = some c ∧ endsSpelling c = true
  balanced : Balanced true (mark :: p)
  notWord : mark.isAlphanum = false
  words : WordsAreFree p
  bar : ' ' ∈ mark :: p → '|' ∈ mark :: p

namespace IsSpelling

variable {s : List Char}

theorem char (h : IsSpelling s) {c : Char} (hc : c ∈ s) : isSpellingChar c = true :=
  List.all_eq_true.1 h.chars c hc

/-- A spelling is not empty. -/
theorem nonempty (h : IsSpelling s) : s ≠ [] := by
  obtain ⟨c, hc, -⟩ := h.head
  rintro rfl
  cases hc

/-- A lead may be put in front of a spelling. -/
theorem lead (h : IsSpelling s) {p : List Char} {mark : Char} (hp : IsLead p mark) :
    IsSpelling (p ++ [mark] ++ s) where
  chars := by rw [List.all_append, hp.chars, h.chars]; rfl
  head := by
    obtain ⟨c, hc, starts⟩ := hp.head
    exact ⟨c, by rw [List.head?_append, hc, Option.some_or], starts⟩
  last := by
    obtain ⟨c, hc, ends⟩ := h.last
    exact ⟨c, by rw [List.getLast?_append, hc, Option.some_or], ends⟩
  balanced := .append hp.balanced h.balanced
  words := by
    rw [List.append_assoc, List.singleton_append, wordsAreFree_append_cons hp.notWord]
    exact ⟨hp.words, h.words⟩
  bar := fun space => List.mem_append.2 ((List.mem_append.1 space).imp hp.bar h.bar)

/-- A trail may be put behind a spelling. -/
theorem trail (h : IsSpelling s) {mark : Char} {p : List Char} (hp : IsTrail mark p) :
    IsSpelling (s ++ mark :: p) where
  chars := by rw [List.all_append, h.chars, hp.chars]; rfl
  head := by
    obtain ⟨c, hc, starts⟩ := h.head
    exact ⟨c, by rw [List.head?_append, hc, Option.some_or], starts⟩
  last := by
    obtain ⟨c, hc, ends⟩ := hp.last
    exact ⟨c, by rw [List.getLast?_append, hc, Option.some_or], ends⟩
  balanced := .append h.balanced hp.balanced
  words := by
    rw [wordsAreFree_append_cons hp.notWord]
    exact ⟨h.words, hp.words⟩
  bar := fun space => List.mem_append.2 ((List.mem_append.1 space).imp h.bar hp.bar)

/-- An atom is a spelling. -/
theorem of_isAtom {name : List Char} (h : IsAtom name) : IsSpelling name := by
  have all : ∀ c ∈ name, c.isAlphanum = true := List.all_eq_true.1 h.alphanumeric
  obtain ⟨first, hfirst, letter⟩ : ∃ c, name.head? = some c ∧ c.isAlpha = true := by
    have := h.letter
    cases name with
    | nil => cases this
    | cons c r => exact ⟨c, rfl, this⟩
  refine ⟨List.all_eq_true.2 fun c hc => isSpellingChar_of_isAlphanum (all c hc),
    ⟨first, hfirst, ?_⟩, ?_, balanced_of_alphanumeric h.alphanumeric, ?_, ?_⟩
  · rw [startsSpelling, letter]
    rfl
  · cases hlast : name.getLast? with
    | none =>
      rw [List.getLast?_eq_none_iff.1 hlast] at hfirst
      cases hfirst
    | some c =>
      exact ⟨c, rfl, (alphanumeric_isLawful (all c (List.mem_of_getLast? hlast))).2.2⟩
  · rw [wordsAreFree_of_alphanumeric h.alphanumeric]
    have sub : ∀ w ∈ forbiddenWords, w ∈ reservedWords := by decide +kernel
    exact fun hw => h.free (sub _ hw)
  · intro space
    exact absurd (all ' ' space) (by decide)

/-- A spelling in brackets, with a head in front or none. -/
theorem group (h : IsSpelling s) {word : List Char} {opener closer : Char}
    (pair : isPair opener closer) (isWord : word.all Char.isAlphanum = true)
    (free : String.ofList word ∉ forbiddenWords)
    (starts : ∃ c, (word ++ [opener]).head? = some c ∧ startsSpelling c = true) :
    IsSpelling (word ++ opener :: (s ++ [closer])) := by
  have brackets : isOpener opener = true ∧ isCloser closer = true ∧
      isSpellingChar opener = true ∧ isSpellingChar closer = true ∧
      opener.isAlphanum = false ∧ closer.isAlphanum = false ∧ endsSpelling closer = true := by
    rcases pair with ⟨rfl, rfl⟩ | ⟨rfl, rfl⟩ <;> decide
  obtain ⟨opens, closes, openerChar, closerChar, openerMark, closerMark, ends⟩ := brackets
  refine ⟨?_, ?_, ?_, ?_, ?_, ?_⟩
  · have wordChars : word.all isSpellingChar = true := List.all_eq_true.2 fun c hc =>
      isSpellingChar_of_isAlphanum (List.all_eq_true.1 isWord c hc)
    rw [List.all_append, List.all_cons, List.all_append, wordChars, openerChar, h.chars,
      List.all_cons, closerChar]
    rfl
  · obtain ⟨c, hc, starts⟩ := starts
    refine ⟨c, ?_, starts⟩
    rw [List.head?_append] at hc ⊢
    exact hc
  · exact ⟨closer, getLast?_group _ _ _ _, ends⟩
  · exact .append (balanced_of_alphanumeric isWord) (.group opens closes h.balanced)
  · rw [wordsAreFree_append_cons openerMark, wordsAreFree_append_cons closerMark,
      wordsAreFree_of_alphanumeric isWord]
    exact ⟨free, h.words, by decide⟩
  · intro space
    simp only [List.mem_append, List.mem_cons, List.not_mem_nil, or_false] at space ⊢
    rcases space with hc | rfl | hc | rfl
    · exact absurd (List.all_eq_true.1 isWord _ hc) (by decide)
    · exact absurd opens (by decide)
    · exact .inr (.inr (.inl (h.bar hc)))
    · exact absurd closes (by decide)

end IsSpelling

/-! ## Layers keep spellings -/

/-- Digits are among letters and digits. -/
theorem all_isAlphanum_of_isDigit {s : List Char} (h : s.all Char.isDigit = true) :
    s.all Char.isAlphanum = true := by
  rw [List.all_eq_true] at h ⊢
  intro c hc
  rw [Char.isAlphanum, h c hc, Bool.or_true]

/-- A text that begins with a letter does not begin with the mark of a pointer. -/
theorem beginsWithMark_of_isAlpha {c : Char} {s : List Char} (h : c.isAlpha = true) :
    beginsWithMark (c :: s) = false := by
  have star : c ≠ '*' := by
    rintro rfl
    cases h
  have ampersand : c ≠ '&' := by
    rintro rfl
    cases h
  simp [beginsWithMark, star, ampersand]

/-- The mark of an outer layer opens and closes its own brackets only. -/
theorem Front.balanced {bars : Bool} {f : Front} {s : List Char} (fits : f.fits s = true) :
    Balanced bars f.text := by
  cases f with
  | indexed digits =>
    exact .group rfl rfl (balanced_of_alphanumeric (all_isAlphanum_of_isDigit fits))
  | star | ampersand => cases bars <;> exact .of_all rfl

/-- The mark of an inner layer opens and closes its own brackets only. -/
theorem Back.balanced {bars : Bool} (b : Back) : Balanced bars b.text := by
  cases b with
  | brackets => exact .group (t := []) rfl rfl (.nil _)
  | question => cases bars <;> exact .of_all rfl

/-- A fitting mark in front is a lead. -/
theorem Front.isLead {f : Front} {s : List Char} (fits : f.fits s = true) :
    ∃ p mark, f.text = p ++ [mark] ∧ IsLead p mark := by
  cases f with
  | star => exact ⟨[], '*', rfl, rfl, ⟨'*', rfl, rfl⟩, balanced fits, rfl, by decide, by decide⟩
  | ampersand => exact ⟨[], '&', rfl, rfl, ⟨'&', rfl, rfl⟩, balanced fits, rfl, by decide, by decide⟩
  | indexed digits =>
    have alphanumeric := all_isAlphanum_of_isDigit fits
    have chars : digits.all isSpellingChar = true := List.all_eq_true.2 fun c hc =>
      isSpellingChar_of_isAlphanum (List.all_eq_true.1 alphanumeric c hc)
    refine ⟨'[' :: digits, ']', rfl, ?_, ⟨'[', rfl, rfl⟩, balanced fits, rfl, ?_, ?_⟩
    · rw [List.cons_append, List.all_cons, List.all_append, chars]
      rfl
    · rw [← List.nil_append ('[' :: digits), wordsAreFree_append_cons rfl,
        wordsAreFree_of_alphanumeric alphanumeric]
      refine ⟨by decide, fun forbidden => ?_⟩
      have letters : forbiddenWords.all (fun w => !w.toList.all Char.isDigit) = true := by
        decide +kernel
      have letter := List.all_eq_true.1 letters _ forbidden
      rw [String.toList_ofList, show digits.all Char.isDigit = true from fits] at letter
      cases letter
    · intro space
      simp only [List.cons_append, List.mem_cons, List.mem_append, List.not_mem_nil,
        or_false] at space
      rcases space with space | space | space
      · cases space
      · exact absurd (List.all_eq_true.1 alphanumeric _ space) (by decide)
      · cases space

/-- A mark behind is a trail. -/
theorem Back.isTrail (b : Back) : ∃ mark p, b.text = mark :: p ∧ IsTrail mark p := by
  cases b with
  | brackets =>
    exact ⟨'[', [']'], rfl, rfl, ⟨']', rfl, rfl⟩, brackets.balanced, rfl, by decide, by decide⟩
  | question =>
    exact ⟨'?', [], rfl, rfl, ⟨'?', rfl, rfl⟩, question.balanced, rfl, by decide, by decide⟩

theorem isLead_noneOr : IsLead "None |".toList ' ' :=
  ⟨rfl, ⟨'N', rfl, rfl⟩, .of_all rfl, rfl, by decide, by decide⟩

theorem isTrail_orNone : IsTrail ' ' "| None".toList :=
  ⟨rfl, ⟨'e', rfl, rfl⟩, .of_all rfl, rfl, by decide, by decide⟩

/-- The brackets of a wrapper belong together. -/
theorem Wrapper.isPair_brackets (w : Wrapper) : isPair w.brackets.1 w.brackets.2 := by
  cases w with
  | pythonList | optional => exact .inr ⟨rfl, rfl⟩
  | list | vec | option | box | promise | task => exact .inl ⟨rfl, rfl⟩

/-- A spelling stays one with a fitting mark in front. -/
theorem IsSpelling.front {s : List Char} (h : IsSpelling s) {f : Front} (fits : f.fits s = true) :
    IsSpelling (f.text ++ s) := by
  obtain ⟨p, mark, hf, lead⟩ := f.isLead fits
  rw [hf]
  exact h.lead lead

/-- A spelling stays one with a mark behind. -/
theorem IsSpelling.back {s : List Char} (h : IsSpelling s) (b : Back) : IsSpelling (s ++ b.text) := by
  obtain ⟨mark, p, hb, trail⟩ := b.isTrail
  rw [hb]
  exact h.trail trail

theorem IsSpelling.orNone {s : List Char} (h : IsSpelling s) : IsSpelling (s ++ " | None".toList) :=
  h.trail isTrail_orNone

theorem IsSpelling.noneOr {s : List Char} (h : IsSpelling s) : IsSpelling ("None | ".toList ++ s) :=
  h.lead isLead_noneOr

theorem IsSpelling.bracketed {s : List Char} (h : IsSpelling s) : IsSpelling ('[' :: (s ++ [']'])) := by
  rw [← List.nil_append ('[' :: (s ++ [']']))]
  exact h.group (.inr ⟨rfl, rfl⟩) rfl (by decide) ⟨'[', rfl, rfl⟩

/-- A spelling stays one within a wrapper. -/
theorem IsSpelling.wrapped {s : List Char} (h : IsSpelling s) (w : Wrapper) :
    IsSpelling (w.word.toList ++ w.brackets.1 :: (s ++ [w.brackets.2])) := by
  refine h.group w.isPair_brackets ?_ ?_ ?_
  · cases w <;> decide
  · rw [String.ofList_toList]
    cases w <;> decide
  · cases w <;> exact ⟨_, rfl, rfl⟩

/-- Every way of writing a layer around a spelling makes a spelling. -/
theorem IsSpelling.write {s : List Char} (h : IsSpelling s) {shell : Shell}
    (fits : shell.fits s = true) : IsSpelling (shell.write s) :=
  match shell, fits with
  | .front _, fits => h.front fits
  | .back b, _ => h.back b
  | .bracketed, _ => h.bracketed
  | .wrapped w, _ => h.wrapped w
  | .orNone, _ => h.orNone
  | .noneOr, _ => h.noneOr

/-- **The text of a proper spelled type is a spelling**, by induction on its layers. -/
theorem Spelled.isSpelling {t : Spelled} (h : t.IsProper) : IsSpelling t.text := by
  induction t with
  | atom name => exact .of_isAtom h
  | layer shell inside ih => exact (ih h.2).write h.1

end Concord.Spelling
