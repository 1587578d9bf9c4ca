import Concord.Name

/-!
# Concord.Proofs.Name.Letters

Which characters the compared form of a name is made of.  Code points are told by *gaps*, the ranges
without a name character: blanks, the controls, the punctuation of ASCII and its capitals.  A run of
a character table is compared with the gaps by its two ends, so that what is said of all its
characters is checked run by run.

* `isNameChar_of_mem_normalizeChars` — the compared form of a word holds name characters only;
* `normalizeChars_eq_self` — a text of small letters, digits and underscores of ASCII is its own
  compared form.
-/

namespace Concord.Name

open Text

/-! ## Name characters -/

/-- The code points that stand in no name in its compared form, as ranges; the first four of them
are what ASCII has besides small letters, digits and the underscore. -/
def gaps : List (Nat × Nat) :=
  [(0, 0x2f), (0x3a, 0x5e), (0x60, 0x60), (0x7b, 0x7f), (0x85, 0x85), (0xa0, 0xa0),
   (0x1680, 0x1680), (0x2000, 0x200a), (0x2028, 0x2029), (0x202f, 0x202f), (0x205f, 0x205f),
   (0x3000, 0x3000), (0xd800, 0xdfff)]

/-- Whether no code point from `first` to `last` stands in a gap. -/
def isClear (first last : Nat) : Bool := gaps.all fun g => last < g.1 || g.2 < first

/-- Characters of names in their compared form. -/
def isNameChar (c : Char) : Bool := isClear c.toNat c.toNat

/-- Any number within a clear range is clear. -/
theorem isClear_of_le {first last n : Nat} (h : isClear first last = true) (hf : first ≤ n)
    (hl : n ≤ last) : isClear n n = true := by
  rw [isClear, List.all_eq_true] at h ⊢
  intro g hg
  have := h g hg
  simp only [Bool.or_eq_true, decide_eq_true_eq] at this ⊢
  omega

/-- A character of names is no blank. -/
theorem not_isBlank_of_isNameChar {c : Char} (h : isNameChar c = true) : isBlank c = false := by
  simp only [isNameChar, isClear, gaps, List.all_cons, List.all_nil, Bool.and_true,
    Bool.and_eq_true, Bool.or_eq_true, decide_eq_true_eq] at h
  simp only [isBlank, Bool.or_eq_false_iff, Bool.and_eq_false_iff, decide_eq_false_iff_not,
    beq_eq_false_iff_ne]
  omega

/-! ## Runs and shifts -/

theorem bounds_of_has {r : Run} {n : Nat} (h : r.has n = true) : r.first ≤ n ∧ n ≤ r.last := by
  simp only [Run.has, Bool.and_eq_true, decide_eq_true_eq] at h
  exact h.1

/-- A member of runs is a point of one of them. -/
theorem exists_has_of_mem {n : Nat} {runs : List Run} (h : Run.mem n runs = true) :
    ∃ r ∈ runs, r.has n = true := by
  induction runs with
  | nil => cases h
  | cons r rs ih =>
    rw [Run.mem, Bool.and_eq_true, Bool.or_eq_true] at h
    rcases h.2 with here | later
    · exact ⟨r, List.mem_cons_self, here⟩
    · obtain ⟨r', mem, has⟩ := ih later
      exact ⟨r', List.mem_cons_of_mem _ mem, has⟩

/-- An image under shifts comes from one of them. -/
theorem exists_has_of_image? {n m : Nat} {shifts : List Shift}
    (h : Shift.image? n shifts = some m) :
    ∃ s ∈ shifts, s.run.has n = true ∧ m = (n + s.distance).toNat := by
  induction shifts with
  | nil => cases h
  | cons s rest ih =>
    rw [Shift.image?] at h
    split at h
    · cases h
    · split at h
      · rename_i here
        exact ⟨s, List.mem_cons_self, here, (Option.some.inj h).symm⟩
      · obtain ⟨s', mem, has⟩ := ih h
        exact ⟨s', List.mem_cons_of_mem _ mem, has⟩

/-! ## Small letters -/

/-- Where a shift to lower case ends up. -/
theorem isClear_image : CaseTable.toLower.all (fun s =>
    0 ≤ s.run.first + s.distance && (s.run.last + s.distance).toNat < 0x110000 &&
      isClear (s.run.first + s.distance).toNat (s.run.last + s.distance).toNat) = true := by
  decide +kernel

/-- The only letters and numbers in a gap are the capitals of ASCII. -/
theorem isClear_alphanumeric : WordTable.alphanumeric.all (fun r =>
    r = ⟨0x41, 0x5a, 1⟩ || isClear r.first r.last) = true := by
  decide +kernel

/-- The small form of a capital is a character of names. -/
theorem isNameChar_of_image? {n m : Nat} (h : Shift.image? n CaseTable.toLower = some m) :
    isNameChar (Char.ofNat m) = true := by
  obtain ⟨s, hs, has, rfl⟩ := exists_has_of_image? h
  obtain ⟨first, last⟩ := bounds_of_has has
  have image := List.all_eq_true.1 isClear_image s hs
  simp only [Bool.and_eq_true, decide_eq_true_eq] at image
  obtain ⟨⟨start, bound⟩, clear⟩ := image
  have here := isClear_of_le clear (n := (n + s.distance).toNat) (by omega) (by omega)
  have valid : (n + s.distance).toNat.isValidChar := by
    simp only [isClear, gaps, List.all_cons, List.all_nil, Bool.and_true, Bool.and_eq_true,
      Bool.or_eq_true, decide_eq_true_eq] at here
    rw [Nat.isValidChar]
    omega
  have code : (Char.ofNat (n + s.distance).toNat).toNat = (n + s.distance).toNat := by
    rw [Char.ofNat, dif_pos valid]
    rfl
  rw [isNameChar, code]
  exact here

/-- A character of words that lowering leaves alone is a character of names. -/
theorem isNameChar_of_isWordChar {c : Char} (h : isWordChar c = true)
    (small : Shift.image? c.toNat CaseTable.toLower = none) : isNameChar c = true := by
  rw [isWordChar, Bool.or_eq_true, decide_eq_true_eq] at h
  rcases h with rfl | h
  · decide
  · obtain ⟨r, hr, has⟩ := exists_has_of_mem h
    obtain ⟨first, last⟩ := bounds_of_has has
    have clear := List.all_eq_true.1 isClear_alphanumeric r hr
    rw [Bool.or_eq_true, decide_eq_true_eq] at clear
    rcases clear with rfl | clear
    · have capital : Shift.image? c.toNat CaseTable.toLower = some (c.toNat + (32 : Int)).toNat := by
        rw [CaseTable.toLower, Shift.image?, if_neg (by simpa using first), if_pos]
        simp only [Run.has, Bool.and_eq_true, decide_eq_true_eq, Nat.mod_one, beq_self_eq_true]
        exact ⟨⟨first, last⟩, trivial⟩
      rw [capital] at small
      cases small
    · exact isClear_of_le clear first last

/-- A word character in lower case is made of name characters. -/
theorem isNameChar_of_mem_lowerChar {before after : List Char} {c d : Char}
    (hc : isWordChar c = true) (hd : d ∈ lowerChar before c after) : isNameChar d = true := by
  have many : ∀ image ∈ CaseTable.toLowerMany, ∀ m ∈ image.2, isNameChar (Char.ofNat m) = true := by
    decide
  rw [lowerChar] at hd
  split at hd
  · have sigma : d = 'ς' ∨ d = 'σ' := by
      split at hd
      · exact .inl (List.mem_singleton.1 hd)
      · exact .inr (List.mem_singleton.1 hd)
    rcases sigma with rfl | rfl <;> decide
  · rw [mapCase] at hd
    split at hd
    · rename_i image lookup
      obtain ⟨m, hm, rfl⟩ := List.mem_map.1 hd
      obtain ⟨front, behind, table, -⟩ := List.lookup_eq_some_iff.1 lookup
      have mem : (c.toNat, image) ∈ CaseTable.toLowerMany := by
        rw [table]
        exact List.mem_append_right _ List.mem_cons_self
      exact many _ mem m hm
    · split at hd
      · rename_i m image
        rw [List.mem_singleton.1 hd]
        exact isNameChar_of_image? image
      · rename_i small
        rw [List.mem_singleton.1 hd]
        exact isNameChar_of_isWordChar hc small

/-- A character of a lowered text comes from one of the text's characters. -/
theorem exists_of_mem_lowerAfter {before s : List Char} {d : Char} (h : d ∈ lowerAfter before s) :
    ∃ b c a, c ∈ s ∧ d ∈ lowerChar b c a := by
  induction s generalizing before with
  | nil => cases h
  | cons c r ih =>
    rw [lowerAfter, List.mem_append] at h
    rcases h with h | h
    · exact ⟨before, c, r, List.mem_cons_self, h⟩
    · obtain ⟨b, c', a, hc', hd⟩ := ih h
      exact ⟨b, c', a, List.mem_cons_of_mem _ hc', hd⟩

/-- Separating the words of a text leaves characters of words. -/
theorem isWordChar_of_mem_separate {prev : Option Char} {s : List Char}
    (h : ∀ c ∈ s, isWordChar c = true) : ∀ c ∈ separate prev s, isWordChar c = true := by
  induction s generalizing prev with
  | nil => exact h
  | cons c r ih =>
    have tail : ∀ d ∈ separate (some c) r, isWordChar d = true :=
      ih fun d hd => h d (List.mem_cons_of_mem _ hd)
    have head := h c List.mem_cons_self
    have underscore : isWordChar '_' = true := rfl
    intro d hd
    rw [separate] at hd
    split at hd
    · simp only [List.mem_cons] at hd
      rcases hd with rfl | rfl | hd
      · exact underscore
      · exact head
      · exact tail d hd
    · rcases List.mem_cons.1 hd with rfl | hd
      · exact head
      · exact tail d hd

/-- **The compared form of a word is made of name characters.** -/
theorem isNameChar_of_mem_normalizeChars {s : List Char} (h : ∀ c ∈ s, isWordChar c = true) :
    ∀ c ∈ normalizeChars s, isNameChar c = true := by
  intro d hd
  obtain ⟨b, c, a, hc, hd⟩ := exists_of_mem_lowerAfter hd
  exact isNameChar_of_mem_lowerChar (isWordChar_of_mem_separate h c hc) hd

/-! ## Empty names -/

/-- Lowering a character never leaves nothing. -/
theorem lowerChar_ne_nil (before : List Char) (c : Char) (after : List Char) :
    lowerChar before c after ≠ [] := by
  have many : ∀ image ∈ CaseTable.toLowerMany, image.2 ≠ [] := by decide
  rw [lowerChar]
  split
  · split <;> exact List.cons_ne_nil _ _
  · rw [mapCase]
    split
    · rename_i image lookup
      obtain ⟨front, behind, table, -⟩ := List.lookup_eq_some_iff.1 lookup
      simpa using many (c.toNat, image) (table ▸ by simp)
    · split <;> exact List.cons_ne_nil _ _

/-- A name that is not empty is not empty once normalized. -/
theorem normalizeChars_ne_nil {s : List Char} (h : s ≠ []) : normalizeChars s ≠ [] := by
  cases s with
  | nil => exact absurd rfl h
  | cons c r =>
    rw [normalizeChars, lower, separate]
    split
    · rename_i first
      exact absurd first (by simp)
    · rw [lowerAfter]
      simp [lowerChar_ne_nil]

/-! ## Names of ASCII -/

/-- What holds of the characters of ASCII is checked by inspection. -/
theorem of_ascii {P : Char → Prop} (all : ∀ n < 128, P (Char.ofNat n)) {c : Char}
    (ascii : c.toNat < 128) : P c := by
  have := all c.toNat ascii
  rwa [Char.ofNat_toNat] at this

/-- Small letters, digits and the underscore of ASCII are word characters that stand for themselves
in lower case and begin no word. -/
theorem ascii_nameChar {c : Char} (ascii : c.toNat < 128) (h : isNameChar c = true) :
    isWordChar c = true ∧ isUpper c = false ∧
      mapCase CaseTable.toLower CaseTable.toLowerMany c = [c] :=
  of_ascii
    (P := fun c => isNameChar c = true → isWordChar c = true ∧ isUpper c = false ∧
      mapCase CaseTable.toLower CaseTable.toLowerMany c = [c])
    (by decide +kernel) ascii h

/-- Nothing is put in front of a text. -/
theorem separate_none_cons (c : Char) (r : List Char) :
    separate none (c :: r) = c :: separate (some c) r := by
  rw [separate, Option.any_none, if_neg Bool.false_ne_true]

/-- A text without capitals has no words to separate. -/
theorem separate_eq_self {prev : Option Char} {s : List Char} (h : ∀ c ∈ s, isUpper c = false) :
    separate prev s = s := by
  induction s generalizing prev with
  | nil => rfl
  | cons c r ih =>
    have small : prev.any (beginsWord · c r.head?) = false := by
      cases prev with
      | none => rfl
      | some p => simp [beginsWord, h c List.mem_cons_self]
    rw [separate, small, if_neg Bool.false_ne_true,
      ih fun d hd => h d (List.mem_cons_of_mem _ hd)]

/-- A text of characters that lowering leaves alone is its own small form. -/
theorem lowerAfter_eq_self {before s : List Char}
    (h : ∀ c ∈ s, c ≠ 'Σ' ∧ mapCase CaseTable.toLower CaseTable.toLowerMany c = [c]) :
    lowerAfter before s = s := by
  induction s generalizing before with
  | nil => rfl
  | cons c r ih =>
    have := h c List.mem_cons_self
    rw [lowerAfter, lowerChar, if_neg this.1, this.2,
      ih fun d hd => h d (List.mem_cons_of_mem _ hd)]
    rfl

/-- **A text of small letters, digits and underscores of ASCII is its own compared form.** -/
theorem normalizeChars_eq_self {s : List Char} (name : ∀ c ∈ s, isNameChar c = true)
    (ascii : ∀ c ∈ s, c.toNat < 128) : normalizeChars s = s := by
  rw [normalizeChars, lower,
    separate_eq_self fun c hc => (ascii_nameChar (ascii c hc) (name c hc)).2.1]
  refine lowerAfter_eq_self fun c hc => ⟨?_, (ascii_nameChar (ascii c hc) (name c hc)).2.2⟩
  rintro rfl
  exact absurd (ascii _ hc) (by decide)

end Concord.Name
