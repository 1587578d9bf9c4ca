import Mathlib.Data.List.Basic
import Mathlib.Data.List.TakeWhile
import Mathlib.Tactic.SplitIfs
import Concord.Proofs.Text.Rows
import Concord.Spelling.Shape

/-!
# Concord.Proofs.Spelling.Plain

Plain words: spellings without blanks and without any mark that the reader of spellings looks for.
No layer surrounds them, so that their shape is told by the vocabulary alone (`shapeChars_plain`).

* `trim_eq_self`, `stripQualifiers_eq_self` — what is not touched before a spelling is read;
* `generic_eq_self`, `splitBy_eq_singleton` — spellings that cannot be taken apart;
* `shapeChars_eq` — the shape of a spelling from its outermost layer.
-/

namespace Concord.Spelling

open Text

/-! ## Words at the ends of a text -/

/-- A text without one of the word's characters does not begin with the word. -/
theorem begins_eq_false {word : String} {s : List Char} {c : Char} (hc : c ∈ word.toList)
    (hs : c ∉ s) : begins word s = false := by
  rw [begins, Bool.eq_false_iff]
  intro h
  exact hs ((List.isPrefixOf_iff_prefix.1 h).subset hc)

/-- A word begins no text that begins with another character. -/
theorem begins_cons_eq_false {word : String} {c : Char}
    (other : word.toList.head?.any (· ≠ c) = true) (s : List Char) : begins word (c :: s) = false := by
  rw [begins]
  cases text : word.toList with
  | nil => simp [text] at other
  | cons d w =>
    have ne : d ≠ c := by simpa [text] using other
    simp [List.isPrefixOf, ne]

/-- A word begins no text whose lead ends in a character that the word lacks, and lacks one that the
word holds. -/
theorem begins_eq_false_of_lead {word : String} {s lead : List Char} {mark c : Char}
    (text : lead ++ [mark] <+: s) (beyond : mark ∉ word.toList) (hc : c ∈ word.toList)
    (apart : c ∉ lead ++ [mark]) : begins word s = false := by
  rw [begins, Bool.eq_false_iff]
  intro starts
  cases List.prefix_or_prefix_of_prefix (List.isPrefixOf_iff_prefix.1 starts) text with
  | inl short => exact apart (short.subset hc)
  | inr long => exact beyond (long.subset (by simp))

/-- A text without one of the word's characters does not end with the word. -/
theorem before?_eq_none {word : String} {s : List Char} {c : Char} (hc : c ∈ word.toList)
    (hs : c ∉ s) : before? word s = none := by
  rw [before?, ends, if_neg]
  intro h
  exact hs ((List.isSuffixOf_iff_suffix.1 h).subset hc)

theorem isOneOf_eq_true {words : List String} {s : List Char} :
    isOneOf words s = true ↔ String.ofList s ∈ words := by
  rw [isOneOf, List.contains_iff_mem]

theorem isOneOf_eq_false {words : List String} {s : List Char} :
    isOneOf words s = false ↔ String.ofList s ∉ words := by
  rw [← Bool.not_eq_true, isOneOf_eq_true]

/-- A text with a character that stands in no word of a list is none of the words. -/
theorem isOneOf_eq_false_of_mem {words : List String} {c : Char} {s : List Char} (hc : c ∈ s)
    (strange : ∀ w ∈ words, c ∉ w.toList) : isOneOf words s = false := by
  rw [isOneOf_eq_false]
  intro hs
  refine strange _ hs ?_
  rwa [String.toList_ofList]

/-- A group ends in its closer. -/
theorem getLast?_group (front content : List Char) (opener closer : Char) :
    (front ++ opener :: (content ++ [closer])).getLast? = some closer := by
  rw [← List.cons_append, ← List.append_assoc, List.getLast?_concat]

/-! ## Trimming -/

/-- Nothing is trimmed behind a text that ends in no blank. -/
theorem trimEnd_eq_self {s : List Char} (h : ∀ c, s.getLast? = some c → isBlank c = false) :
    trimEnd s = s := by
  unfold trimEnd trimEndBy
  cases hs : s.reverse with
  | nil => rw [← List.reverse_reverse s, hs]; rfl
  | cons c r =>
    have last : s.getLast? = some c := by rw [← List.head?_reverse, hs]; rfl
    rw [List.dropWhile_cons_of_neg (by simp [h c last]), ← hs, List.reverse_reverse]

/-- Nothing is trimmed in front of a text that begins with no blank. -/
theorem trimStart_eq_self {s : List Char} (h : ∀ c, s.head? = some c → isBlank c = false) :
    trimStart s = s := by
  cases s with
  | nil => rfl
  | cons c r => exact List.dropWhile_cons_of_neg (by simp [h c rfl])

/-- A text with no white space at its two ends is trimmed. -/
theorem trim_eq_self {s : List Char} (head : ∀ c, s.head? = some c → isBlank c = false)
    (last : ∀ c, s.getLast? = some c → isBlank c = false) : trim s = s := by
  rw [trim, trimStart_eq_self head, trimEnd_eq_self last]

/-- What is dropped in front are only characters with the property. -/
theorem mem_dropWhile {p : Char → Bool} {s : List Char} {c : Char} (hc : c ∈ s) (hp : p c = false) :
    c ∈ s.dropWhile p := by
  rw [← List.takeWhile_append_dropWhile (p := p) (l := s), List.mem_append] at hc
  rcases hc with hc | hc
  · rw [List.mem_takeWhile_imp hc] at hp
    cases hp
  · exact hc

/-- Trimming keeps all that is no white space. -/
theorem mem_trim {s : List Char} {c : Char} (hc : c ∈ s) (blank : isBlank c = false) :
    c ∈ trim s := by
  rw [trim, trimStart, trimEnd, trimEndBy, List.mem_reverse]
  exact mem_dropWhile (List.mem_reverse.2 (mem_dropWhile hc blank)) blank

theorem notBlank_of_dropWhile_eq_self {s : List Char} (h : s.dropWhile isBlank = s) {c : Char}
    (hc : s.head? = some c) : isBlank c = false := by
  obtain ⟨r, rfl⟩ := List.head?_eq_some_iff.1 hc
  simpa using List.dropWhile_eq_self_iff.1 h (Nat.succ_pos _)

/-- A trimmed text has no white space at its two ends. -/
theorem notBlank_of_trim_eq_self {s : List Char} (h : trim s = s) :
    (∀ c, s.head? = some c → isBlank c = false) ∧
      ∀ c, s.getLast? = some c → isBlank c = false := by
  have behind : (trim s).Sublist (trimStart s) := by
    rw [trim, trimEnd, trimEndBy, ← List.reverse_sublist, List.reverse_reverse]
    exact List.dropWhile_sublist isBlank
  have start : trimStart s = s := by
    refine (List.dropWhile_sublist isBlank).eq_of_length_le ?_
    have := behind.length_le
    rwa [h] at this
  have last : s.reverse.dropWhile isBlank = s.reverse := by
    rw [trim, start, trimEnd, trimEndBy] at h
    rw [← List.reverse_reverse (s.reverse.dropWhile isBlank), h]
  refine ⟨fun c hc => notBlank_of_dropWhile_eq_self start hc, fun c hc => ?_⟩
  exact notBlank_of_dropWhile_eq_self last (by rw [List.head?_reverse, hc])

/-- White space behind a trimmed text is trimmed. -/
theorem trim_append_blanks {s gap : List Char} (trimmed : trim s = s) (nonempty : s ≠ [])
    (blank : ∀ c ∈ gap, isBlank c = true) : trim (s ++ gap) = s := by
  obtain ⟨head, last⟩ := notBlank_of_trim_eq_self trimmed
  have start : trimStart (s ++ gap) = s ++ gap :=
    trimStart_eq_self fun c hc => head c (by rwa [List.head?_append_of_ne_nil _ nonempty] at hc)
  rw [trim, start, trimEnd, trimEndBy, List.reverse_append,
    List.dropWhile_append_of_pos fun c hc => blank c (List.mem_reverse.1 hc)]
  exact trimEnd_eq_self last

theorem trim_blanks_append {blanks : List Char} (blank : ∀ c ∈ blanks, isBlank c = true)
    (s : List Char) : trim (blanks ++ s) = trim s := by
  rw [trim, trimStart, List.dropWhile_append_of_pos blank]
  rfl

theorem trim_cons_blank {c : Char} (h : isBlank c = true) (s : List Char) :
    trim (c :: s) = trim s :=
  trim_blanks_append (List.forall_mem_singleton.2 h) s

/-! ## Spellings without a qualifier -/

/-- A trimmed spelling that begins with no quote and no qualifier has nothing to strip. -/
theorem stripQualifiers_eq_self {s : List Char} (trimmed : trim s = s)
    (quote : s.head? ≠ some '\'')
    (qualifiers : ∀ q ∈ Vocabulary.qualifiers, begins q s = false) : stripQualifiers s = s := by
  have lifetime : dropLifetime s = s := by
    unfold dropLifetime
    split
    · exact absurd rfl quote
    · rfl
  have words : dropQualifiers s = s := by
    unfold dropQualifiers
    generalize Vocabulary.qualifiers = qs at qualifiers
    induction qs with
    | nil => rfl
    | cons q qs ih =>
      have once : dropQualifier s q = s := by
        rw [dropQualifier, after?, qualifiers q (by simp)]
        rfl
      rw [List.foldl_cons, once]
      exact ih fun q' hq' => qualifiers q' (List.mem_cons_of_mem _ hq')
  rw [stripQualifiers, lead, trimmed, lifetime, words, if_neg (Nat.lt_irrefl _)]

/-- No qualifier stands in front of a bracket. -/
theorem stripQualifiers_of_isOpener {c : Char} (opens : isOpener c = true) {r : List Char}
    (trimmed : trim (c :: r) = c :: r) : stripQualifiers (c :: r) = c :: r := by
  have words : ∀ q ∈ Vocabulary.qualifiers, q.toList.head?.any (!isOpener ·) = true := by decide
  refine stripQualifiers_eq_self trimmed ?_ fun q hq => begins_cons_eq_false ?_ r
  · rintro ⟨⟩
    exact absurd opens (by decide)
  · obtain ⟨d, head, other⟩ := (Option.any_eq_true _ _).1 (words q hq)
    rw [head, Option.any_some, decide_eq_true_iff]
    rintro rfl
    simp [opens] at other

/-! ## Spellings that are not taken apart -/

/-- A trimmed spelling that ends with no closing bracket of arguments is its own head. -/
theorem generic_eq_self {s : List Char} (trimmed : trim s = s) (angle : s.getLast? ≠ some '>')
    (square : s.getLast? ≠ some ']') : generic s = ⟨s, []⟩ := by
  rw [generic, trimmed, genericTrimmed]
  split
  · rfl
  · rename_i last before h
    rw [← List.head?_reverse, h, List.head?_cons] at angle square
    rw [if_neg (by simp_all)]

/-- A text without a character of the separator is one piece. -/
theorem pieces_eq_singleton {separator : List Char} {c : Char} (hc : c ∈ separator)
    (prev : Option Char) (depth : Nat) {s : List Char} (hs : c ∉ s) :
    pieces separator prev depth s = [s] := by
  induction s generalizing prev depth with
  | nil => rw [pieces]
  | cons a r ih =>
    have apart : separator.isPrefixOf (a :: r) = false := by
      rw [Bool.eq_false_iff]
      intro h
      exact hs ((List.isPrefixOf_iff_prefix.1 h).subset hc)
    rw [pieces, apart, Bool.and_false]
    simp only [Bool.false_eq_true, if_false]
    rw [ih _ _ (fun h => hs (List.mem_cons_of_mem _ h))]
    rfl

/-- A text without the separator has itself, trimmed, as its only part. -/
theorem splitBy_eq_trim {separator : String} {c : Char} (hc : c ∈ separator.toList)
    {s : List Char} (hs : c ∉ s) (nonempty : trim s ≠ []) : splitBy separator s = [trim s] := by
  rw [splitBy, pieces_eq_singleton hc none 0 hs, List.map_singleton,
    List.filter_cons_of_pos (by simpa using nonempty), List.filter_nil]

theorem splitBy_eq_singleton {separator : String} {c : Char} (hc : c ∈ separator.toList)
    {s : List Char} (hs : c ∉ s) (trimmed : trim s = s) (nonempty : s ≠ []) :
    splitBy separator s = [s] := by
  rw [splitBy_eq_trim hc hs (by rwa [trimmed]), trimmed]

/-- The words in front of the parameters of a function, and the parenthesis alone. -/
def functionLeads : List String := ["func(", "func (", "fn(", "fn (", "("]

/-- Without parameters in front only a head of functions makes a function. -/
theorem isFunction_of_begins {s : List Char} (apart : ∀ w ∈ functionLeads, begins w s = false) :
    isFunction s = isOneOf Vocabulary.functions (generic s).head := by
  simp only [functionLeads, List.forall_mem_cons] at apart
  simp [isFunction, apart]

/-- Without a parenthesis only a head of functions makes a function. -/
theorem isFunction_eq_head {s : List Char} (paren : '(' ∉ s) :
    isFunction s = isOneOf Vocabulary.functions (generic s).head := by
  have all : ∀ w ∈ functionLeads, '(' ∈ w.toList := by decide
  exact isFunction_of_begins fun w hw => begins_eq_false (all w hw) paren

/-- A text that does not begin with the bracket is not enclosed in it. -/
theorem isEnclosed_eq_false {opener closer : Char} {s : List Char} (h : s.head? ≠ some opener) :
    isEnclosed opener closer s = false := by
  cases s with
  | nil => rfl
  | cons c r =>
    have ne : c ≠ opener := by simpa using h
    simp [isEnclosed, ne]

/-- Without blanks only the spelling itself is looked up. -/
theorem canonical?_eq_lookup? {s : List Char} (blank : ' ' ∉ s) :
    Vocabulary.canonical? s = Vocabulary.lookup? s := by
  have solid : s.filter (· ≠ ' ') = s := by
    rw [List.filter_eq_self]
    intro c hc
    rw [decide_eq_true_eq]
    rintro rfl
    exact blank hc
  rw [Vocabulary.canonical?, solid]
  cases Vocabulary.lookup? s <;> rfl

/-! ## Segments -/

/-- A text without dots and colons belongs to the first segment of what stands behind it. -/
theorem segments_append {p : List Char} (dot : '.' ∉ p) (colon : ':' ∉ p) (r : List Char) :
    segments (p ++ r) = p.foldr consFirst (segments r) := by
  induction p with
  | nil => rfl
  | cons c p ih =>
    simp only [List.mem_cons, not_or] at dot colon
    rw [List.cons_append, segments, ih dot.2 colon.2]
    · rfl
    · rintro r' rfl
      exact absurd rfl colon.1
    · rintro rfl
      exact absurd rfl dot.1

theorem segments_eq_singleton {p : List Char} (dot : '.' ∉ p) (colon : ':' ∉ p) :
    segments p = [p] := by
  have whole := segments_append dot colon []
  rwa [List.append_nil, segments, foldr_consFirst, List.append_nil] at whole

/-! ## Shapes by layers -/

/-- The shape that a layer gives to a spelling. -/
def Layer.shape : Layer → TypeShape
  | .whole shape => shape
  | .around isPointer isArray inner =>
    { shapeChars inner with
      isPointer := isPointer || (shapeChars inner).isPointer
      isArray := isArray || (shapeChars inner).isArray }

/-- The shape of a spelling is what its outermost layer makes of it. -/
theorem shapeChars_eq (s : List Char) : shapeChars s = (peel s).shape := by
  rw [shapeChars]
  split
  · rename_i h
    rw [h, Layer.shape]
  · rename_i h
    rw [h, Layer.shape]

/-- Without a qualifier and a pointer mark in front only the rest of the reader is left. -/
theorem peel_eq_peelBare {s : List Char} (unqualified : stripQualifiers s = s) (nonempty : s ≠ [])
    (star : s.head? ≠ some '*') (ampersand : s.head? ≠ some '&') : peel s = peelBare false s := by
  rw [peel, unqualified]
  cases s with
  | nil => exact absurd rfl nonempty
  | cons c r =>
    have apart : c ≠ '*' ∧ c ≠ '&' := ⟨by simpa using star, by simpa using ampersand⟩
    simp [apart]

/-! ## Plain words -/

/-- The marks that the reader of spellings looks for inside a word. -/
def marks : List Char :=
  ['\'', '*', '&', '<', '>', '(', ')', '[', ']', '\x7b', '\x7d', '?', '|', '.', ':']

theorem mem_marks_of_bracket {c : Char} (h : isOpener c = true ∨ isCloser c = true) : c ∈ marks := by
  simp only [isOpener, isCloser, Bool.or_eq_true, decide_eq_true_eq] at h
  rcases h with (((rfl | rfl) | rfl) | rfl) | (((rfl | rfl) | rfl) | rfl) <;> decide

/-- Whether a character is neither white space nor a mark. -/
def isPlain (c : Char) : Bool := !isBlank c && !marks.contains c

/-- A word without white space and marks. -/
structure IsPlainWord (s : List Char) : Prop where
  nonempty : s ≠ []
  plain : ∀ c ∈ s, isPlain c = true

/-- The base of a plain word that is none of the words with a meaning of their own. -/
def wordBase (word : List Char) : String :=
  if (word.filter isWordChar).isEmpty then "any"
  else
    let name := Name.normalizeChars (word.filter isWordChar)
    (Vocabulary.lookup? name).getD (String.ofList name)

/-- The shape of a plain word. -/
def plainShape (s : List Char) : TypeShape :=
  match Vocabulary.lookup? s with
  | some base => { base }
  | none =>
    if isOneOf Vocabulary.functions s then { base := "function" }
    else if isOneOf Vocabulary.sequences s then { base := "any", isArray := true }
    else if isOneOf Vocabulary.maps s then { base := "map", isMap := true }
    else { base := wordBase s }

namespace IsPlainWord

variable {s : List Char}

/-- A plain word holds none of the marks. -/
theorem not_mem (h : IsPlainWord s) {c : Char} (hc : c ∈ marks) : c ∉ s := by
  intro hs
  have := h.plain c hs
  rw [isPlain, List.contains_iff_mem.2 hc] at this
  simp at this

/-- A plain word opens and closes nothing. -/
theorem flat (h : IsPlainWord s) : ∀ c ∈ s, isOpener c = false ∧ isCloser c = false := by
  intro c hc
  have apart : ¬ (isOpener c = true ∨ isCloser c = true) :=
    fun bracket => h.not_mem (mem_marks_of_bracket bracket) hc
  simpa using apart

/-- A plain word holds no blank. -/
theorem not_blank (h : IsPlainWord s) {c : Char} (hc : c ∈ s) : isBlank c = false := by
  have := h.plain c hc
  rw [isPlain, Bool.and_eq_true, Bool.not_eq_true'] at this
  exact this.1

theorem head?_ne (h : IsPlainWord s) {c : Char} (hc : c ∈ marks) : s.head? ≠ some c := by
  intro hs
  exact h.not_mem hc (List.mem_of_head? hs)

theorem getLast?_ne (h : IsPlainWord s) {c : Char} (hc : c ∈ marks) : s.getLast? ≠ some c := by
  intro hs
  exact h.not_mem hc (List.mem_of_getLast? hs)

theorem trim_eq (h : IsPlainWord s) : trim s = s :=
  trim_eq_self (fun _ hc => h.not_blank (List.mem_of_head? hc))
    (fun _ hc => h.not_blank (List.mem_of_getLast? hc))

/-- A plain word has no qualifying words in front. -/
theorem stripQualifiers_eq (h : IsPlainWord s) : stripQualifiers s = s := by
  refine stripQualifiers_eq_self h.trim_eq (h.head?_ne (by decide)) fun q hq => ?_
  have space : ' ' ∈ q.toList := by
    have all : ∀ q ∈ Vocabulary.qualifiers, ' ' ∈ q.toList := by decide
    exact all q hq
  refine begins_eq_false space fun hs => ?_
  have : isBlank ' ' = false := h.not_blank hs
  exact absurd this (by decide)

theorem generic_eq (h : IsPlainWord s) : generic s = ⟨s, []⟩ :=
  generic_eq_self h.trim_eq (h.getLast?_ne (by decide)) (h.getLast?_ne (by decide))

theorem canonical?_eq (h : IsPlainWord s) : Vocabulary.canonical? s = Vocabulary.lookup? s :=
  canonical?_eq_lookup? fun blank => absurd (h.not_blank blank) (by decide)

theorem segments_eq (h : IsPlainWord s) : segments s = [s] :=
  segments_eq_singleton (h.not_mem (by decide)) (h.not_mem (by decide))

/-- The base of a plain word outside the vocabulary is the word in the spelling of bases. -/
theorem baseName_eq (h : IsPlainWord s) (unknown : Vocabulary.lookup? s = none) :
    baseName s = wordBase s := by
  have filled : s.isEmpty = false := by simpa using h.nonempty
  rw [baseName]
  simp only [h.generic_eq, h.trim_eq, filled, Bool.false_eq_true, if_false, h.canonical?_eq,
    unknown, h.segments_eq]
  rw [List.filter_cons_of_pos (by simpa using h.nonempty), List.filter_nil, wordBase]
  rfl

theorem isFunction_eq (h : IsPlainWord s) : isFunction s = isOneOf Vocabulary.functions s := by
  rw [isFunction_eq_head (h.not_mem (by decide)), h.generic_eq]

/-- A plain word is no tuple. -/
theorem tupleElements?_eq (h : IsPlainWord s) : tupleElements? s = none := by
  rw [tupleElements?, h.stripQualifiers_eq, tupleMembers?, h.generic_eq,
    isEnclosed_eq_false (h.head?_ne (by decide)), isEnclosed_eq_false (h.head?_ne (by decide))]
  simp

/-- A plain word is no array. -/
theorem element?_eq (h : IsPlainWord s) : element? s = none := by
  have square : '[' ∉ s := h.not_mem (by decide)
  have length : afterLength? s = none := by
    unfold afterLength?
    split
    · simp at square
    · rfl
  rw [element?, length, before?_eq_none (c := '[') (by decide) square,
    begins_eq_false (c := '[') (by decide) square, h.generic_eq]
  simp [isHomogeneous]

theorem isMapping_eq (h : IsPlainWord s) : isMapping s = isOneOf Vocabulary.maps s := by
  rw [isMapping, begins_eq_false (c := '[') (by decide) (h.not_mem (by decide)), h.generic_eq]
  simp

theorem splitBy_eq (h : IsPlainWord s) : splitBy "|" s = [s] :=
  splitBy_eq_singleton (c := '|') (by decide) (h.not_mem (by decide)) h.trim_eq h.nonempty

/-- A plain word is no optional. -/
theorem optional?_eq (h : IsPlainWord s) : optional? s = none := by
  have members : (unionMembers s).length ≤ 1 := by
    rw [unionMembers, h.generic_eq, h.splitBy_eq]
    dsimp only
    split <;> simp
  rw [optional?, before?_eq_none (c := '?') (by decide) (h.not_mem (by decide)), h.generic_eq]
  simp only [List.isEmpty_nil, Bool.not_true, Bool.and_false, Bool.false_eq_true, if_false]
  rw [if_neg]
  rw [decide_eq_false (by omega), Bool.false_and]
  exact Bool.false_ne_true

theorem isUnion_eq (h : IsPlainWord s) : isUnion s = false := by
  rw [isUnion, h.generic_eq, h.splitBy_eq]
  simp

/-- **A plain word has no layers**: its shape is that of the word. -/
theorem peel_eq (h : IsPlainWord s) : peel s = .whole (plainShape s) := by
  have bare : peelBare false s = .whole (plainShape s) := by
    rw [peelBare, h.canonical?_eq, plainShape]
    cases unknown : Vocabulary.lookup? s with
    | some base => rfl
    | none =>
      simp only [h.generic_eq]
      rw [peelBare.peelPlain, h.isFunction_eq, h.tupleElements?_eq, h.element?_eq, h.isMapping_eq,
        h.optional?_eq, h.isUnion_eq, h.baseName_eq unknown]
      simp only [Option.isSome_none, Bool.false_eq_true, if_false]
      split_ifs <;> rfl
  rw [peel_eq_peelBare h.stripQualifiers_eq h.nonempty (h.head?_ne (by decide))
    (h.head?_ne (by decide)), bare]

end IsPlainWord

/-- **The shape of a plain word is told by the vocabulary.** -/
theorem shapeChars_plain {s : List Char} (h : IsPlainWord s) : shapeChars s = plainShape s := by
  rw [shapeChars_eq, h.peel_eq, Layer.shape]

end Concord.Spelling
