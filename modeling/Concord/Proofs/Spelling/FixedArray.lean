import Concord.Proofs.Spelling.Grouped

/-!
# Concord.Proofs.Spelling.FixedArray

Arrays with a length: `[T; 3]`.  The length is cut off at the first semicolon, wherever it stands:

```
[u8; 3]                  array of  u8
[[Option<u8>; 3]; 2]     array of  [Option<u8>
[HashMap<K, [u8; 3]>; 4] array of  HashMap<K, [u8
```

* `peel_fixedArray` — an array with a length is an array of what stands in front of that semicolon;
* `shapeChars_fixedArray` — so its shape is told by the type of its elements if there is no other
  semicolon;
* `shapeChars_nestedArray` — and an array of arrays of a name is an array of the name as if nothing
  was known of it.
-/

namespace Concord.Spelling

open Text

/-! ## Texts that begin with a square bracket -/

section Bracket

variable {r : List Char}

/-- What the vocabulary knows behind a square bracket is closed and has no length. -/
theorem known_bracket : ∀ family ∈ Vocabulary.families, ∀ known ∈ family.2,
    known.toList.head? = some '[' → ']' ∈ known.toList ∧ ';' ∉ known.toList := by
  decide +kernel

/-- A bracket that is not closed, or with a semicolon behind it, begins no word of the vocabulary.
-/
theorem canonical?_bracket (h : ']' ∉ r ∨ ';' ∈ r) : Vocabulary.canonical? ('[' :: r) = none := by
  have unknown {s : List Char} (hs : ']' ∉ s ∨ ';' ∈ s) : Vocabulary.lookup? ('[' :: s) = none :=
    lookup?_eq_none_of_not (p := fun s => s.head? = some '[' → ']' ∈ s ∧ ';' ∉ s) known_bracket
      fun closed => by
        obtain ⟨close, length⟩ := closed rfl
        simp only [List.mem_cons] at close length
        grind
  have solid : ('[' :: r).filter (· ≠ ' ') = '[' :: r.filter (· ≠ ' ') := rfl
  have compact : ']' ∉ r.filter (· ≠ ' ') ∨ ';' ∈ r.filter (· ≠ ' ') :=
    h.imp (fun open' close => open' (List.mem_filter.1 close).1)
      fun length => List.mem_filter.2 ⟨length, by decide⟩
  rw [Vocabulary.canonical?, unknown h, solid, unknown compact]
  rfl

theorem isFunction_bracket (head : IsMarked (generic ('[' :: r)).head) :
    isFunction ('[' :: r) = false := by
  have leads : ∀ w ∈ functionLeads, w.toList.head?.any (· ≠ '[') = true := by decide
  rw [isFunction_of_begins fun w hw => begins_cons_eq_false (leads w hw) r, head.isOneOf (by decide)]

end Bracket

/-! ## Types and lengths -/

/-- A type of elements: trimmed and nested. -/
structure IsElement (t : List Char) : Prop where
  nonempty : t ≠ []
  trimmed : trim t = t
  nested : IsNested t

/-- The length of an array, written in digits or otherwise. -/
structure IsLength (n : List Char) : Prop extends IsElement n where
  noSemicolon : ';' ∉ n

instance (t : List Char) : Decidable (IsElement t) :=
  decidable_of_iff (t ≠ [] ∧ trim t = t ∧ IsNested t)
    ⟨fun h => ⟨h.1, h.2.1, h.2.2⟩, fun h => ⟨h.nonempty, h.trimmed, h.nested⟩⟩

theorem IsPlainWord.isElement {s : List Char} (h : IsPlainWord s) : IsElement s where
  nonempty := h.nonempty
  trimmed := h.trim_eq
  nested := openBehind_of_flat h.flat none 0

/-- Digits are a length. -/
theorem isLength_of_isDigit {n : List Char} (nonempty : n ≠ []) (digits : n.all Char.isDigit = true) :
    IsLength n := by
  have digit := List.all_eq_true.1 digits
  have word : IsPlainWord n := ⟨nonempty, fun c hc =>
    (alphanumeric_isLawful (List.all_eq_true.1 (all_isAlphanum_of_isDigit digits) c hc)).1⟩
  exact ⟨word.isElement, fun hc => absurd (digit _ hc) (by decide)⟩

/-- What stands between the brackets of an array with a length. -/
def sized (t n : List Char) : List Char := t ++ ';' :: ' ' :: n

/-- An array with a length. -/
def fixedArray (t n : List Char) : List Char := '[' :: (sized t n ++ [']'])

variable {t n : List Char}

/-- An element with a length behind it may be an element. -/
theorem isElement_sized (element : IsElement t) (length : IsLength n) : IsElement (sized t n) where
  nonempty := List.append_ne_nil_of_left_ne_nil element.nonempty _
  trimmed := by
    refine trim_eq_self (fun c hc => ?_) fun c hc => ?_
    · rw [sized, List.head?_append_of_ne_nil _ element.nonempty] at hc
      exact (notBlank_of_trim_eq_self element.trimmed).1 c hc
    · refine (notBlank_of_trim_eq_self length.trimmed).2 c ?_
      obtain ⟨m, d, rfl⟩ := (List.eq_nil_or_concat' n).resolve_left length.nonempty
      have whole : sized t (m ++ [d]) = (t ++ ';' :: ' ' :: m) ++ [d] := by simp [sized]
      rw [whole, List.getLast?_concat] at hc
      rw [List.getLast?_concat, hc]
  nested := by
    have gap : openBehind (lastOf none t) 0 (';' :: ' ' :: n) = openBehind (some ' ') 0 n := by
      simp [openBehind, isOpener, isCloser]
    rw [sized, IsNested, openBehind_append, element.nested, Option.bind_some, gap,
      openBehind_prev (by decide) (by decide)]
    exact length.nested

/-- A fixed array may be an element. -/
theorem isElement_fixedArray (element : IsElement t) (length : IsLength n) :
    IsElement (fixedArray t n) where
  nonempty := List.cons_ne_nil _ _
  trimmed := by
    have whole : trim ([] ++ '[' :: (sized t n ++ [']'])) = [] ++ '[' :: (sized t n ++ [']']) :=
      trim_group rfl rfl rfl _
    exact whole
  nested := by
    have whole : IsNested ([] ++ '[' :: (sized t n ++ [']'])) :=
      isNested_group (by simp) rfl rfl (isElement_sized element length).nested (by simp [isArrowhead])
    exact whole

/-- The element is what stands in front of the first semicolon. -/
theorem upTo_sized (t n : List Char) : upTo ';' (sized t n) = upTo ';' t := by
  rw [upTo, upTo, sized, List.takeWhile_append]
  split
  · next whole =>
    rw [List.takeWhile_cons_of_neg (by simp), List.append_nil]
    exact (List.Sublist.eq_of_length (List.takeWhile_sublist _) whole).symm
  · rfl

theorem upTo_of_notMem {c : Char} {s : List Char} (h : c ∉ s) : upTo c s = s :=
  List.takeWhile_eq_self_iff.2 fun _ hd => decide_eq_true fun same => h (same ▸ hd)

/-- The length is a part of its own. -/
theorem splitBy_sized_ne (element : IsElement t) (length : IsLength n) :
    splitBy ";" (sized t n) ≠ [trim (sized t n)] := by
  intro whole
  obtain ⟨front, -, split⟩ : ∃ front, front ≠ [] ∧ pieces [';'] none 0 (t ++ ';' :: ' ' :: n) =
      front ++ pieces [';'] (some ';') 0 (' ' :: n) :=
    pieces_append_separator rfl rfl (Nat.le_refl 0) element.nested _
  have semicolon : ";".toList = [';'] := rfl
  have behind : pieces [';'] (some ';') 0 (' ' :: n) = [' ' :: n] :=
    pieces_eq_singleton (c := ';') (by decide) _ _ (by simpa using length.noSemicolon)
  rw [splitBy, semicolon, sized, split, behind, List.map_append, List.filter_append,
    List.map_singleton, trim_cons_blank rfl, length.trimmed,
    List.filter_cons_of_pos (by simpa using length.nonempty), List.filter_nil] at whole
  have same := congrArg List.getLast? whole
  rw [List.getLast?_concat, List.getLast?_singleton, Option.some.injEq, ← sized,
    (isElement_sized element length).trimmed] at same
  have shorter := congrArg List.length same
  simp [sized] at shorter
  omega

/-! ## Arrays with a length -/

/-- Brackets around a nested text are the whole of it. -/
theorem generic_bracket {content : List Char} (nested : IsNested content) :
    generic ('[' :: (content ++ [']'])) = ⟨'[' :: (content ++ [']']), []⟩ := by
  have trimmed : trim ([] ++ '[' :: (content ++ [']'])) = [] ++ '[' :: (content ++ [']']) :=
    trim_group rfl rfl rfl content
  have opens : isOpener '[' = true := rfl
  by_cases arrow : arrows none content = 0
  · have group := openGroup_of_isNested opens nested arrow []
    have read := generic_of_openGroup (.inr ⟨rfl, rfl⟩) group trimmed
    rwa [if_neg (by simp)] at read
  · have group : openGroup 1 [] (content.reverse ++ '[' :: List.reverse []) = none :=
      openGroup_of_arrow opens nested arrow (by simp)
    exact generic_of_openGroup_eq_none group trimmed

/-- A nested text in brackets is no length of an array if it does not consist of digits. -/
theorem afterLength?_bracket {content : List Char} (nested : IsNested content) {c : Char}
    (hc : c ∈ content) (strange : isDecimal c = false) :
    afterLength? ('[' :: (content ++ [']'])) = none := by
  have flat : ∀ d, isDecimal d = true → isOpener d = false ∧ isCloser d = false := by
    intro d decimal
    constructor
    all_goals
      rw [Bool.eq_false_iff]
      intro bracket
      simp only [isOpener, isCloser, Bool.or_eq_true, decide_eq_true_eq] at bracket
      rcases bracket with ((rfl | rfl) | rfl) | rfl <;> exact absurd decimal (by decide +kernel)
  cases behind : content.dropWhile isDecimal with
  | nil =>
    rw [List.dropWhile_eq_nil_iff.1 behind c hc] at strange
    cases strange
  | cons d rest =>
    have other : d ≠ ']' := by
      rintro rfl
      have split := List.takeWhile_append_dropWhile (p := isDecimal) (l := content)
      rw [behind] at split
      rw [← split, IsNested, openBehind_append,
        openBehind_of_flat fun e he => flat e (List.mem_takeWhile_imp he)] at nested
      simp [openBehind, isOpener, isCloser, isArrowhead] at nested
    rw [afterLength?, List.dropWhile_append, behind]
    simp [other]

/-- **An array with a length is an array of what stands in front of the first semicolon.** -/
theorem peel_fixedArray (element : IsElement t) (length : IsLength n) :
    peel (fixedArray t n) = Kind.array.around (upTo ';' t) := by
  have inner : IsElement (sized t n) := isElement_sized element length
  have semicolon : ';' ∈ sized t n := by simp [sized]
  have read : generic (fixedArray t n) = ⟨fixedArray t n, []⟩ := generic_bracket inner.nested
  have marked : IsMarked (fixedArray t n) := isMarked_of_isOpener rfl _
  have head : IsMarked (generic (fixedArray t n)).head := by rwa [read]
  have unknown : Vocabulary.canonical? (fixedArray t n) = none :=
    canonical?_bracket (.inr (by simp [semicolon]))
  have function : isFunction (fixedArray t n) = false := isFunction_bracket head
  have unqualified : stripQualifiers (fixedArray t n) = fixedArray t n :=
    stripQualifiers_of_isOpener rfl (isElement_fixedArray element length).trimmed
  have inside : (fixedArray t n).tail.dropLast = sized t n := by simp [fixedArray]
  have tuple : tupleElements? (fixedArray t n) = none := by
    rw [tupleElements?, unqualified, tupleMembers?, head.isTupleHead_eq_false, inside]
    simp [splitBy_sized_ne element length, fixedArray]
  have found : element? (fixedArray t n) = some (upTo ';' t) := by
    have brackets : before? "[]" ([] ++ fixedArray t n) = none :=
      before?_brackets_of_isNested inner.nonempty inner.nested
    have enclosed : (begins "[" (fixedArray t n) && ends "]" (fixedArray t n)) = true := by
      rw [Bool.and_eq_true]
      exact ⟨rfl, List.isSuffixOf_iff_suffix.2 ⟨'[' :: sized t n, rfl⟩⟩
    rw [element?, fixedArray, afterLength?_bracket inner.nested semicolon (by decide +kernel),
      ← fixedArray, ← List.nil_append (fixedArray t n), brackets]
    simp only [List.nil_append, enclosed, if_true, inside, upTo_sized]
  rw [peel_eq_peelBare unqualified marked.ne_nil (by simp [fixedArray]) (by simp [fixedArray]),
    peelBare_of_isMarked unknown head, peelBare.peelPlain, function, tuple, found]
  rfl

/-- **The shape of an array with a length is told by what stands in front of the first semicolon**,
which is the type of its elements if that holds none. -/
theorem shapeChars_fixedArray (element : IsElement t) (length : IsLength n) :
    shapeChars (fixedArray t n) = Kind.array.mark (shapeChars (upTo ';' t)) ∧
      (';' ∉ t → shapeChars (fixedArray t n) = Kind.array.mark (shapeChars t)) := by
  have shape : shapeChars (fixedArray t n) = Kind.array.mark (shapeChars (upTo ';' t)) :=
    shapeChars_of_peel (peel_fixedArray element length)
  exact ⟨shape, fun single => by rw [shape, upTo_of_notMem single]⟩

/-- An array of pairs that may be absent. -/
theorem shapeChars_fixedArray_pair :
    IsElement "Option<(u8, bool)>".toList ∧ IsLength "16".toList ∧
      shapeChars "[Option<(u8, bool)>; 16]".toList =
        Kind.array.mark (shapeChars "Option<(u8, bool)>".toList) :=
  have element : IsElement "Option<(u8, bool)>".toList := by decide +kernel
  have length : IsLength "16".toList := isLength_of_isDigit (by decide) (by decide)
  ⟨element, length, (shapeChars_fixedArray element length).2 (by decide)⟩

/-- The first length is that of the elements, which are cut in two there: nothing is left of the
option and of what it holds. -/
theorem nested_length_cuts_element :
    IsElement "[Option<u8>; 3]".toList ∧ ¬ StandsOutside ';' "[Option<u8>; 3]".toList ∧
      Vocabulary.canonical? "[[Option<u8>; 3]; 2]".toList = none ∧
      fixedArray "[Option<u8>; 3]".toList "2".toList = "[[Option<u8>; 3]; 2]".toList ∧
      shapeChars "[[Option<u8>; 3]; 2]".toList = { base := "option", isArray := true } ∧
      Kind.array.mark (shapeChars "[Option<u8>; 3]".toList) =
        { base := "byte", isPointer := true, isArray := true } := by
  decide +kernel

/-! ## Arrays of arrays -/

/-- An array of arrays, with the length of the outermost one first. -/
def nestedArray (t : List Char) : List (List Char) → List Char
  | [] => t
  | n :: ns => fixedArray (nestedArray t ns) n

/-- An array of arrays, however deep, may be an element. -/
theorem isElement_nestedArray (element : IsElement t) {ns : List (List Char)}
    (lengths : ∀ n ∈ ns, IsLength n) : IsElement (nestedArray t ns) := by
  induction ns with
  | nil => exact element
  | cons n ns ih =>
    exact isElement_fixedArray (ih fun m hm => lengths m (List.mem_cons_of_mem _ hm))
      (lengths n List.mem_cons_self)

/-- In front of the first semicolon stand all brackets. -/
theorem upTo_nestedArray (single : ';' ∉ t) (ns : List (List Char)) :
    upTo ';' (nestedArray t ns) = List.replicate ns.length '[' ++ t := by
  induction ns with
  | nil => exact upTo_of_notMem single
  | cons n ns ih =>
    have text : nestedArray t (n :: ns) = '[' :: sized (nestedArray t ns) (n ++ [']']) := by
      simp [nestedArray, fixedArray, sized]
    have bracket (s : List Char) : upTo ';' ('[' :: s) = '[' :: upTo ';' s :=
      List.takeWhile_cons_of_pos (by decide)
    rw [text, bracket, upTo_sized, ih]
    rfl

section Unclosed

variable {r : List Char} (trimmed : trim ('[' :: r) = '[' :: r)
  (apart : ∀ c ∈ marks, c ≠ '[' → c ∉ '[' :: r)

include trimmed apart

/-- Brackets that are not closed enclose nothing. -/
theorem generic_unclosed : generic ('[' :: r) = ⟨'[' :: r, []⟩ := by
  have last {c : Char} (hc : c ∈ marks) (other : c ≠ '[') : ('[' :: r).getLast? ≠ some c :=
    fun h => apart c hc other (List.mem_of_getLast? h)
  exact generic_eq_self trimmed (last (by decide) (by decide)) (last (by decide) (by decide))

theorem isLayerless_unclosed : IsLayerless ('[' :: r) := by
  have marked : IsMarked ('[' :: r) := isMarked_of_isOpener rfl r
  have head : IsMarked (generic ('[' :: r)).head := by rwa [generic_unclosed trimmed apart]
  have unqualified : stripQualifiers ('[' :: r) = '[' :: r :=
    stripQualifiers_of_isOpener rfl trimmed
  have close : ']' ∉ '[' :: r := apart _ (by decide) (by decide)
  have behind : ']' ∉ r := fun hc => close (List.mem_cons_of_mem _ hc)
  have tuple : tupleElements? ('[' :: r) = none := by
    have open' : isEnclosed '[' ']' ('[' :: r) = false := by
      have last : r.getLast? ≠ some ']' := fun h => behind (List.mem_of_getLast? h)
      simp [isEnclosed, last]
    rw [tupleElements?, unqualified, tupleMembers?, head.isTupleHead_eq_false, open',
      isEnclosed_eq_false (by simp)]
    rfl
  have element : element? ('[' :: r) = none := by
    have length : afterLength? ('[' :: r) = none := by
      rw [afterLength?]
      split
      · next rest =>
        exact absurd ((List.dropWhile_sublist _).subset (rest ▸ List.mem_cons_self)) behind
      · rfl
    have open' : ends "]" ('[' :: r) = false := by
      rw [ends, Bool.eq_false_iff]
      intro suffix
      exact close ((List.isSuffixOf_iff_suffix.1 suffix).subset List.mem_cons_self)
    have sequence : isOneOf Vocabulary.sequences (generic ('[' :: r)).head = false :=
      head.isOneOf (by decide)
    rw [element?, length, before?_eq_none (c := ']') (by decide) close, open']
    simp [sequence, head.isTupleHead_eq_false]
  exact ⟨unqualified, canonical?_bracket (.inl behind), head, marked, by simp,
    isFunction_bracket head, tuple, element, begins_cons_eq_false (by decide) r,
    before?_eq_none (c := '?') (by decide) (apart _ (by decide) (by decide)),
    splitBy_eq_singleton (c := '|') (by decide) (apart _ (by decide) (by decide)) trimmed
      marked.ne_nil⟩

/-- The base of a text with an unclosed bracket is made of the whole text. -/
theorem baseName_unclosed : baseName ('[' :: r) = wordBase ('[' :: r) := by
  have read := generic_unclosed trimmed apart
  have layerless := isLayerless_unclosed trimmed apart
  have single : segments (generic ('[' :: r)).head = [] ++ ['[' :: r] := by
    rw [read]
    exact segments_eq_singleton (apart _ (by decide) (by decide)) (apart _ (by decide) (by decide))
  refine baseName_of_segments ?_ layerless.headMarked.ne_nil ?_ single layerless.marked.ne_nil
  · rw [read, trimmed]
  · rw [read, layerless.unknown]

end Unclosed

/-- A word behind brackets that are not closed is a name of which nothing is known. -/
theorem shapeChars_unclosed (word : IsPlainWord t) (k : Nat) :
    shapeChars (List.replicate (k + 1) '[' ++ t) = { base := wordBase t } := by
  have apart : ∀ c ∈ marks, c ≠ '[' → c ∉ List.replicate (k + 1) '[' ++ t := by
    intro c hc other mem
    rcases List.mem_append.1 mem with front | behind
    · exact other (List.eq_of_mem_replicate front)
    · exact word.not_mem hc behind
  have trimmed : trim (List.replicate (k + 1) '[' ++ t) = List.replicate (k + 1) '[' ++ t := by
    refine trim_eq_self (fun c hc => ?_) fun c hc => ?_
    · cases hc
      rfl
    · rw [List.getLast?_append_of_ne_nil _ word.nonempty] at hc
      exact word.not_blank (List.mem_of_getLast? hc)
  have letters : (List.replicate (k + 1) '[' ++ t).filter isWordChar = t.filter isWordChar := by
    rw [List.filter_append, List.filter_replicate_of_neg (by decide +kernel), List.nil_append]
  rw [← wordBase_congr letters]
  rw [List.replicate_succ, List.cons_append] at apart trimmed ⊢
  rw [(isLayerless_unclosed trimmed apart).shapeChars_eq, baseName_unclosed trimmed apart]

/-- **An array of arrays of a word is an array of a name of which nothing is known.** -/
theorem shapeChars_nestedArray (word : IsPlainWord t) (single : ';' ∉ t) {n m : List Char}
    {ns : List (List Char)} (lengths : ∀ l ∈ n :: m :: ns, IsLength l) :
    shapeChars (nestedArray t (n :: m :: ns)) = { base := wordBase t, isArray := true } := by
  have inner : IsElement (nestedArray t (m :: ns)) :=
    isElement_nestedArray word.isElement fun l hl => lengths l (List.mem_cons_of_mem _ hl)
  rw [nestedArray, (shapeChars_fixedArray inner (lengths n List.mem_cons_self)).1,
    upTo_nestedArray single, List.length_cons, shapeChars_unclosed word]
  rfl

end Concord.Spelling
