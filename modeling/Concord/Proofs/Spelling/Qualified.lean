import Concord.Proofs.Spelling.Applied
import Concord.Proofs.Spelling.Innermost

/-!
# Concord.Proofs.Spelling.Qualified

Types behind the name of a package: `pkg.Page<User>`, `crate::Page<User>`.  The qualifier is dropped
where a base is read from the head, and nowhere before it: the words that head a layer are not found
behind a qualifier.

* `isInnermost_qualified` — so no layer surrounds a qualified type;
* `shapeChars_qualified` — its shape is the name of its head, which is the shape of the type alone if
  the head is the name of a type, and another one if the head is a wrapper that sets a flag.
-/

namespace Concord.Spelling

open Text

/-! ## Qualified types -/

/-- What stands between the segments of a name. -/
def separators : List String := [".", "::"]

/-- A type behind a qualifier. -/
def qualified (q : List Char) (separator : String) (t : List Char) : List Char :=
  q ++ (separator.toList ++ t)

/-- The spelling of a type whose head is an identifier: a name, by itself or applied to arguments. -/
inductive IsHeaded (head : List Char) : List Char → Prop
  | alone (name : isIdentifier head = true) : IsHeaded head head
  | applied {a : Application} (proper : a.IsProper) (same : a.head = head) : IsHeaded head a.text

/-- The head of a headed text is an identifier. -/
theorem IsHeaded.isIdentifier {head t : List Char} (h : IsHeaded head t) :
    isIdentifier head = true := by
  cases h with
  | alone name => exact name
  | applied proper same => exact same ▸ proper.head

/-- An identifier is a plain word. -/
theorem isPlainWord_of_isIdentifier {s : List Char} (h : isIdentifier s = true) :
    IsPlainWord s where
  nonempty := (IsHead.of_isIdentifier h).nonempty
  plain c hc := by
    have char := isIdentifierChar_of_mem h hc
    have mark : c ∉ marks := fun mark => by simp [notIdentifier_of_mark mark] at char
    simp [isPlain, (isIdentifierChar_isFlat char).1, mark]

section Qualified

variable {q : List Char} {separator : String}

/-- A separator begins with a dot or a colon. -/
theorem exists_mark (separated : separator ∈ separators) :
    ∃ c r, separator.toList = c :: r ∧ (c = '.' ∨ c = ':') := by
  simp only [separators, List.mem_cons, List.not_mem_nil, or_false] at separated
  cases separated with
  | inl dot => exact ⟨'.', [], by rw [dot]; rfl, .inl rfl⟩
  | inr colon => exact ⟨':', [':'], by rw [colon]; rfl, .inr rfl⟩

/-- A qualified text is marked by its separator. -/
theorem isMarked_qualified (separated : separator ∈ separators) (t : List Char) :
    IsMarked (qualified q separator t) := by
  obtain ⟨c, r, text, mark⟩ := exists_mark separated
  refine ⟨c, by simp [qualified, text], ?_⟩
  cases mark with
  | inl dot => exact dot ▸ by decide
  | inr colon => exact colon ▸ by decide

/-- A qualified type begins with an identifier. -/
theorem head?_qualified_ne (identifier : isIdentifier q = true) {c : Char}
    (other : isIdentifierChar c = false) (t : List Char) :
    (qualified q separator t).head? ≠ some c := by
  rw [qualified, List.head?_append_of_ne_nil _ (IsHead.of_isIdentifier identifier).nonempty]
  exact fun first => notMem_of_isIdentifier identifier other (List.mem_of_head? first)

/-- A word that is no identifier and holds no separator begins no qualified type. -/
theorem begins_qualified_eq_false (identifier : isIdentifier q = true)
    (separated : separator ∈ separators) {word : String} {c : Char} (hc : c ∈ word.toList)
    (other : isIdentifierChar c = false) (dot : '.' ∉ word.toList) (colon : ':' ∉ word.toList)
    (t : List Char) : begins word (qualified q separator t) = false := by
  obtain ⟨mark, r, text, either⟩ := exists_mark separated
  have beyond : mark ∉ word.toList := by
    cases either with
    | inl same => rwa [same]
    | inr same => rwa [same]
  have lead : q ++ [mark] <+: qualified q separator t := ⟨r ++ t, by simp [qualified, text]⟩
  refine begins_eq_false_of_lead lead beyond hc fun here => ?_
  cases List.mem_append.1 here with
  | inl inside => exact notMem_of_isIdentifier identifier other inside
  | inr same => exact beyond (List.mem_singleton.1 same ▸ hc)

/-- **No layer surrounds a qualified type**, if its head and its end are no more than its own. -/
theorem isInnermost_qualified (identifier : isIdentifier q = true)
    (separated : separator ∈ separators) {t : List Char}
    (trimmed : trim (qualified q separator t) = qualified q separator t)
    (unknown : Vocabulary.canonical? (qualified q separator t) = none)
    (headMarked : IsMarked (generic (qualified q separator t)).head)
    (array : before? "[]" (qualified q separator t) = none)
    (optional : before? "?" (qualified q separator t) = none)
    (union : splitBy "|" (qualified q separator t) = [qualified q separator t]) :
    IsInnermost (qualified q separator t) := by
  have first {c : Char} (hc : c ∈ marks) : (qualified q separator t).head? ≠ some c :=
    head?_qualified_ne identifier (notIdentifier_of_mark hc) t
  have qualifiers : ∀ w ∈ Vocabulary.qualifiers,
      ' ' ∈ w.toList ∧ '.' ∉ w.toList ∧ ':' ∉ w.toList := by decide
  have leads : ∀ w ∈ functionLeads, '(' ∈ w.toList ∧ '.' ∉ w.toList ∧ ':' ∉ w.toList := by decide
  have unqualified : stripQualifiers (qualified q separator t) = qualified q separator t := by
    refine stripQualifiers_eq_self trimmed (first (by decide)) fun w hw => ?_
    obtain ⟨blank, dot, colon⟩ := qualifiers w hw
    exact begins_qualified_eq_false identifier separated blank (by decide +kernel) dot colon t
  have function : isFunction (qualified q separator t) = false := by
    rw [isFunction_of_begins fun w hw => ?_]
    · exact headMarked.isOneOf (by decide)
    · obtain ⟨paren, dot, colon⟩ := leads w hw
      exact begins_qualified_eq_false identifier separated paren (by decide +kernel) dot colon t
  have tuple : tupleElements? (qualified q separator t) = none := by
    rw [tupleElements?, unqualified, tupleMembers?, isEnclosed_eq_false (first (by decide)),
      isEnclosed_eq_false (first (by decide)), headMarked.isTupleHead_eq_false]
    rfl
  have map : begins "map[" (qualified q separator t) = false :=
    begins_qualified_eq_false identifier separated (c := '[') (by decide) (by decide +kernel)
      (by decide) (by decide) t
  have marked : ∀ c ∈ ['*', '&', '['], c ∈ marks := by simp [marks]
  exact ⟨unqualified, unknown, headMarked, isMarked_qualified separated t,
    fun c hc => first (marked c hc), function, tuple, array, map, optional, union⟩

/-! ## Names behind a qualifier -/

variable {head : List Char}

/-- The characters of a qualified text are those of the qualifier, the separator and the text. -/
theorem mem_qualified {c : Char} {t : List Char} (separated : separator ∈ separators)
    (hc : c ∈ qualified q separator t) : c ∈ q ∨ (c = '.' ∨ c = ':') ∨ c ∈ t := by
  have dots : ∀ s ∈ separators, ∀ c ∈ s.toList, c = '.' ∨ c = ':' := by simp [separators]
  simp only [qualified, List.mem_append] at hc
  exact hc.imp_right (.imp_left (dots separator separated c))

/-- What stands neither in identifiers nor between them. -/
theorem notMem_qualified (identifier : isIdentifier q = true) (separated : separator ∈ separators)
    {c : Char} (other : isIdentifierChar c = false) (mark : c ≠ '.' ∧ c ≠ ':') {t : List Char}
    (apart : c ∉ t) : c ∉ qualified q separator t := by
  intro hc
  rcases mem_qualified separated hc with inside | here | behind
  · exact notMem_of_isIdentifier identifier other inside
  · exact here.elim mark.1 mark.2
  · exact apart behind

/-- A qualified text has nothing to trim if the text has nothing to trim behind. -/
theorem trim_qualified (identifier : isIdentifier q = true) {t : List Char} (nonempty : t ≠ [])
    (last : ∀ c, t.getLast? = some c → isBlank c = false) :
    trim (qualified q separator t) = qualified q separator t := by
  have word := isPlainWord_of_isIdentifier identifier
  refine trim_eq_self (fun c hc => ?_) (fun c hc => last c ?_)
  · rw [qualified, List.head?_append_of_ne_nil _ word.nonempty] at hc
    exact word.not_blank (List.mem_of_head? hc)
  · rwa [qualified, ← List.append_assoc, List.getLast?_append_of_ne_nil _ nonempty] at hc

theorem trim_qualified_name (identifier : isIdentifier q = true) (name : isIdentifier head = true) :
    trim (qualified q separator head) = qualified q separator head :=
  have word := isPlainWord_of_isIdentifier name
  trim_qualified identifier word.nonempty fun _ hc => word.not_blank (List.mem_of_getLast? hc)

/-- A qualified name is looked up as it stands. -/
theorem canonical?_qualified (identifier : isIdentifier q = true)
    (separated : separator ∈ separators) (name : isIdentifier head = true) :
    Vocabulary.canonical? (qualified q separator head) =
      Vocabulary.lookup? (qualified q separator head) :=
  have blank : ' ' ∉ head := fun hc =>
    absurd ((isPlainWord_of_isIdentifier name).not_blank hc) (by decide)
  canonical?_eq_lookup? (notMem_qualified identifier separated (by decide +kernel) (by decide) blank)

/-- A qualified name has two segments. -/
theorem segments_qualified (identifier : isIdentifier q = true) (separated : separator ∈ separators)
    (name : isIdentifier head = true) : segments (qualified q separator head) = [q, head] := by
  have word := isPlainWord_of_isIdentifier identifier
  have last := (isPlainWord_of_isIdentifier name).segments_eq
  have behind : segments (separator.toList ++ head) = [[], head] := by
    simp only [separators, List.mem_cons, List.not_mem_nil, or_false] at separated
    rcases separated with rfl | rfl <;> simp [segments, last]
  rw [qualified, segments_append (word.not_mem (by decide)) (word.not_mem (by decide)), behind,
    foldr_consFirst, List.append_nil]

/-- The shape of a qualified type is the name of its head. -/
theorem shapeChars_of_head (identifier : isIdentifier q = true) (separated : separator ∈ separators)
    (name : isIdentifier head = true)
    (unknown : Vocabulary.lookup? (qualified q separator head) = none) {t : List Char}
    (inner : IsInnermost (qualified q separator t))
    (read : (generic (qualified q separator t)).head = qualified q separator head) :
    shapeChars (qualified q separator t) = { base := wordBase head } := by
  have base : baseName (qualified q separator t) = wordBase head := by
    have split : segments (generic (qualified q separator t)).head = [q] ++ [head] := by
      rw [read, segments_qualified identifier separated name]
      rfl
    refine baseName_of_segments ?_ ?_ ?_ split (isPlainWord_of_isIdentifier name).nonempty
    · rw [read, trim_qualified_name identifier name]
    · rw [read]
      exact (isMarked_qualified separated head).ne_nil
    · rw [read, canonical?_qualified identifier separated name, unknown]
  rw [inner.shapeChars_eq, base]

/-- A qualified name is a head without arguments. -/
theorem generic_qualified_name (identifier : isIdentifier q = true)
    (separated : separator ∈ separators) (name : isIdentifier head = true) :
    generic (qualified q separator head) = ⟨qualified q separator head, []⟩ := by
  have apart {c : Char} (hc : c ∈ marks) (mark : c ≠ '.' ∧ c ≠ ':') :
      (qualified q separator head).getLast? ≠ some c := fun last =>
    notMem_qualified identifier separated (notIdentifier_of_mark hc) mark
      ((isPlainWord_of_isIdentifier name).not_mem hc) (List.mem_of_getLast? last)
  exact generic_eq_self (trim_qualified_name identifier name) (apart (by decide) (by decide))
    (apart (by decide) (by decide))

/-- A qualified name outside the vocabulary has no layers. -/
theorem isInnermost_qualified_name (identifier : isIdentifier q = true)
    (separated : separator ∈ separators) (name : isIdentifier head = true)
    (unknown : Vocabulary.lookup? (qualified q separator head) = none) :
    IsInnermost (qualified q separator head) := by
  have apart {c : Char} (hc : c ∈ marks) (mark : c ≠ '.' ∧ c ≠ ':') :
      c ∉ qualified q separator head :=
    notMem_qualified identifier separated (notIdentifier_of_mark hc) mark
      ((isPlainWord_of_isIdentifier name).not_mem hc)
  have marked := isMarked_qualified (q := q) separated head
  have trimmed : trim (qualified q separator head) = qualified q separator head :=
    trim_qualified_name identifier name
  refine isInnermost_qualified identifier separated trimmed ?_ ?_
    (before?_eq_none (c := '[') (by decide) (apart (by decide) (by decide)))
    (before?_eq_none (c := '?') (by decide) (apart (by decide) (by decide)))
    (splitBy_eq_singleton (c := '|') (by decide) (apart (by decide) (by decide)) trimmed
      marked.ne_nil)
  · rw [canonical?_qualified identifier separated name, unknown]
  · rw [generic_qualified_name identifier separated name]
    exact marked

end Qualified

/-! ## Applications behind a qualifier -/

/-- No word of the vocabulary has a qualifier in front and brackets of arguments behind. -/
theorem known_notApplied : ∀ family ∈ Vocabulary.families, ∀ known ∈ family.2,
    ('.' ∉ known.toList ∧ ':' ∉ known.toList) ∨ ('<' ∉ known.toList ∧ '[' ∉ known.toList) := by
  decide +kernel

namespace Application.IsProper

variable {a : Application} {q : List Char} {separator : String}

theorem qualified_text (a : Application) : qualified q separator a.text =
    qualified q separator a.front ++ a.opener :: (a.content ++ [a.closer]) := by
  simp [qualified, text]

/-- A qualified application has nothing to trim. -/
theorem trim_qualified_text (h : a.IsProper) (identifier : isIdentifier q = true) :
    trim (qualified q separator a.text) = qualified q separator a.text := by
  refine trim_qualified identifier (List.ne_nil_of_mem a.opener_mem_text) fun c hc => ?_
  rw [getLast?_text, Option.some.injEq] at hc
  exact hc ▸ notBlank_of_isCloser h.pair.isCloser

/-- The qualified head of an application opens and closes nothing. -/
theorem flat_qualified_front (h : a.IsProper) (identifier : isIdentifier q = true)
    (separated : separator ∈ separators) :
    ∀ c ∈ qualified q separator a.front, isOpener c = false ∧ isCloser c = false := by
  intro c hc
  rcases mem_qualified separated hc with inside | (rfl | rfl) | behind
  · exact (IsHead.of_isIdentifier identifier).flat c inside
  · decide
  · decide
  · exact h.flat_front c behind

/-- A qualified application is no word of the vocabulary. -/
theorem canonical?_qualified_text (h : a.IsProper) (separated : separator ∈ separators) :
    Vocabulary.canonical? (qualified q separator a.text) = none := by
  obtain ⟨mark, r, text, either⟩ := exists_mark separated
  have bracket : a.opener = '<' ∨ a.opener = '[' := h.pair.imp And.left And.left
  have unknown {s : List Char} (front : mark ∈ s) (behind : a.opener ∈ s) :
      Vocabulary.lookup? s = none := by
    refine lookup?_eq_none_of_not
      (p := fun s => ('.' ∉ s ∧ ':' ∉ s) ∨ ('<' ∉ s ∧ '[' ∉ s)) known_notApplied ?_
    rintro (⟨dot, colon⟩ | ⟨angle, square⟩)
    · exact either.elim (fun same => dot (same ▸ front)) (fun same => colon (same ▸ front))
    · exact bracket.elim (fun same => angle (same ▸ behind)) (fun same => square (same ▸ behind))
  have front : mark ∈ qualified q separator a.text := by simp [qualified, text]
  have behind : a.opener ∈ qualified q separator a.text := by
    simp [qualified, a.opener_mem_text]
  have solid : mark ≠ ' ' ∧ a.opener ≠ ' ' := by
    rcases either with rfl | rfl <;> rcases bracket with same | same <;> simp [same]
  rw [Vocabulary.canonical?, unknown front behind,
    unknown (List.mem_filter.2 ⟨front, by simpa using solid.1⟩)
      (List.mem_filter.2 ⟨behind, by simpa using solid.2⟩)]
  rfl

/-- A qualified application has the qualified head and the same arguments. -/
theorem generic_qualified_text (h : a.IsProper) (identifier : isIdentifier q = true) :
    generic (qualified q separator a.text) =
      ⟨qualified q separator a.head, splitCommas a.content⟩ := by
  have group := openGroup_of_isNested h.pair.isOpener h.nested
    ((arrows_eq_zero_iff a.content).2 h.arrow) (qualified q separator a.front)
  have nonempty : qualified q separator a.front ≠ [] :=
    List.append_ne_nil_of_left_ne_nil (IsHead.of_isIdentifier identifier).nonempty _
  have front : trim (qualified q separator a.front) = qualified q separator a.head := by
    have text : qualified q separator a.front = qualified q separator a.head ++ a.gap := by
      simp [qualified, Application.front]
    rw [text]
    exact trim_append_blanks (trim_qualified_name identifier h.head)
      (List.append_ne_nil_of_left_ne_nil (IsHead.of_isIdentifier identifier).nonempty _) h.gap
  have trimmed : trim (qualified q separator a.text) = qualified q separator a.text :=
    h.trim_qualified_text identifier
  rw [qualified_text] at trimmed ⊢
  rw [generic_of_openGroup h.pair group trimmed, if_pos ⟨nonempty, h.content_ne_nil⟩, front]

/-- A qualified application has no layers, as no list of heads knows its own. -/
theorem isInnermost_qualified_text (h : a.IsProper) (identifier : isIdentifier q = true)
    (separated : separator ∈ separators) : IsInnermost (qualified q separator a.text) := by
  have trimmed : trim (qualified q separator a.text) = qualified q separator a.text :=
    h.trim_qualified_text identifier
  have bar : '|' ∉ qualified q separator a.front :=
    notMem_qualified identifier separated (by decide +kernel) (by decide)
      (h.notMem_front (by decide) (by decide +kernel))
  have marked := isMarked_qualified (q := q) separated
  refine isInnermost_qualified identifier separated trimmed (h.canonical?_qualified_text separated)
    ?_ ?_ ?_ ?_
  · rw [h.generic_qualified_text identifier]
    exact marked a.head
  · rw [qualified_text]
    exact before?_brackets_of_isNested h.content_ne_nil h.nested
  · refine before?_eq_none_of_last (c := a.closer) (d := '?') ?_ rfl
      (h.pair.ne_closer (by decide) (by decide)).symm
    rw [qualified_text, getLast?_group]
  · refine splitBy_of_pieces trimmed (marked a.text).ne_nil ?_
    rw [qualified_text]
    exact pieces_group bar rfl rfl (h.flat_qualified_front identifier separated) h.pair.isOpener
      h.pair.isCloser h.nested h.arrow

end Application.IsProper

/-! ## Heads -/

/-- The heads of layers that set a flag. -/
def flagHeads : List String :=
  Vocabulary.pointers ++ Vocabulary.sequences ++ Vocabulary.maps ++ Vocabulary.optionals

/-- The words that head a layer and name no type. -/
def layerHeads : List String :=
  flagHeads ++ Vocabulary.deferred ++ Vocabulary.functions ++
    ["tuple", "Tuple", "Coroutine", "Union"]

/-- The kinds of layers have no head in common. -/
theorem heads_areDisjoint : ∀ w ∈ Vocabulary.sequences ++ Vocabulary.maps ++ Vocabulary.optionals,
    isOneOf Vocabulary.deferred w.toList = false ∧ w.toList ≠ "Coroutine".toList ∧
      isOneOf Vocabulary.pointers w.toList = false ∧
      isOneOf Vocabulary.functions w.toList = false ∧ isTupleHead w.toList = false := by
  decide +kernel

/-- What is known of a head that stands for no layer. -/
structure IsTypeHead (head : List Char) : Prop where
  deferred : isOneOf Vocabulary.deferred head = false
  pointer : isOneOf Vocabulary.pointers head = false
  function : isOneOf Vocabulary.functions head = false
  sequence : isOneOf Vocabulary.sequences head = false
  map : isOneOf Vocabulary.maps head = false
  optional : isOneOf Vocabulary.optionals head = false
  tuple : isTupleHead head = false
  routine : head ≠ "Coroutine".toList
  union : head ≠ "Union".toList

/-- A head outside the heads of layers is one of types. -/
theorem IsTypeHead.of_notMem {head : List Char} (h : String.ofList head ∉ layerHeads) :
    IsTypeHead head := by
  have ne {w : String} (hw : String.ofList head ≠ w) : head ≠ w.toList := fun same =>
    hw (by rw [same, String.ofList_toList])
  simp only [layerHeads, flagHeads, List.mem_append, List.mem_cons, List.not_mem_nil, or_false,
    not_or] at h
  obtain ⟨⟨⟨⟨⟨⟨pointer, sequence⟩, map⟩, optional⟩, deferred⟩, function⟩,
    small, capital, routine, union⟩ := h
  exact ⟨isOneOf_eq_false.2 deferred, isOneOf_eq_false.2 pointer, isOneOf_eq_false.2 function,
    isOneOf_eq_false.2 sequence, isOneOf_eq_false.2 map, isOneOf_eq_false.2 optional,
    isOneOf_eq_false.2 (by simp [small, capital]), ne routine, ne union⟩

namespace Application.IsProper

variable {a : Application}

/-- An application that wraps no single value has the shape of its plain form. -/
theorem shapeChars_text (h : a.IsProper) (word : Vocabulary.canonical? a.text = none)
    (present : isOneOf Vocabulary.deferred a.head = false) (routine : a.head ≠ "Coroutine".toList)
    (pointer : isOneOf Vocabulary.pointers a.head = false) :
    shapeChars a.text = (peelBare.peelPlain false a.text).shape := by
  rw [shapeChars_eq, h.peel_text, peelBare_of_head word]
  · rwa [h.generic_text]
  · rwa [h.generic_text]
  · rwa [h.generic_text]

/-- An application of a head of pointers has the flag of pointers. -/
theorem isPointer_of_pointer (h : a.IsProper) (word : Vocabulary.canonical? a.text = none)
    (pointer : isOneOf Vocabulary.pointers a.head = true) :
    (shapeChars a.text).isPointer = true := by
  obtain ⟨first, rest, args⟩ : ∃ first rest, a.parts.args = first :: rest :=
    List.exists_cons_of_ne_nil h.args
  have other : ∀ w ∈ Vocabulary.pointers, isOneOf Vocabulary.deferred w.toList = false ∧
      w.toList ≠ "Coroutine".toList := by decide +kernel
  obtain ⟨present, routine⟩ := other _ (isOneOf_eq_true.1 pointer)
  rw [String.toList_ofList] at present routine
  have head : a.parts.head = a.head := rfl
  rw [shapeChars_eq, h.peel_text, peelBare, word, h.generic_text]
  simp only [args, head, present, pointer, if_neg routine]
  rfl

/-- A layer that sets a flag leaves no mere base. -/
theorem shapeChars_ne_base (h : a.IsProper) (word : Vocabulary.canonical? a.text = none)
    (flag : String.ofList a.head ∈ flagHeads) (base : String) : shapeChars a.text ≠ { base } := by
  obtain ⟨first, rest, args⟩ : ∃ first rest, a.parts.args = first :: rest :=
    List.exists_cons_of_ne_nil h.args
  suffices marked : (shapeChars a.text).isPointer = true ∨ (shapeChars a.text).isArray = true ∨
      (shapeChars a.text).isMap = true by
    intro same
    simp [same] at marked
  rw [flagHeads, List.append_assoc, List.append_assoc, List.mem_append, ← List.append_assoc] at flag
  cases flag with
  | inl pointer => exact .inl (h.isPointer_of_pointer word (isOneOf_eq_true.2 pointer))
  | inr container =>
      obtain ⟨present, routine, pointer, function, tuple⟩ := heads_areDisjoint _ container
      rw [String.toList_ofList] at present routine pointer function tuple
      rw [h.shapeChars_text word present routine pointer, h.peelPlain_text function tuple]
      cases sequence : isOneOf Vocabulary.sequences a.head with
      | true => simp [args, Layer.shape]
      | false =>
          cases map : isMapping a.text with
          | true => simp [Layer.shape]
          | false =>
              have optional : isOneOf Vocabulary.optionals a.head = true := by
                rw [h.isMapping_text, Bool.or_eq_false_iff] at map
                rw [List.mem_append, List.mem_append] at container
                rw [isOneOf_eq_false] at sequence
                rw [isOneOf_eq_true]
                exact container.resolve_left (not_or.2 ⟨sequence, isOneOf_eq_false.1 map.2⟩)
              simp [h.optional?_text, optional, args, Layer.shape]

/-- A head that names a type is all of the shape. -/
theorem shapeChars_eq_wordBase (h : a.IsProper) (word : Vocabulary.canonical? a.text = none)
    (free : String.ofList a.head ∉ layerHeads) (unknown : Vocabulary.lookup? a.head = none) :
    shapeChars a.text = { base := wordBase a.head } := by
  have kind := IsTypeHead.of_notMem free
  have map : isMapping a.text = false := by
    have apart : begins "map[" a.text = false := by
      rw [Bool.eq_false_iff]
      intro starts
      rw [h.head_of_begins_map starts] at unknown
      exact absurd unknown (by decide)
    rw [h.isMapping_text, apart, kind.map]
    rfl
  have optional : optional? a.text = none := by
    rw [h.optional?_text, kind.optional, if_neg Bool.false_ne_true,
      if_neg fun same => kind.union same.1]
  have base : baseName a.text = wordBase a.head := by
    have name := isPlainWord_of_isIdentifier h.head
    have head : (generic a.text).head = a.head := by rw [h.generic_text]; rfl
    have split : segments (generic a.text).head = [] ++ [a.head] := by
      rw [head, name.segments_eq]
      rfl
    refine baseName_of_segments ?_ ?_ ?_ split name.nonempty
    · rw [head, name.trim_eq]
    · rw [head]
      exact name.nonempty
    · rw [head, name.canonical?_eq, unknown]
  rw [h.shapeChars_text word kind.deferred kind.routine kind.pointer,
    h.peelPlain_text kind.function kind.tuple, kind.sequence, map, optional, h.isUnion_text,
    decide_eq_false kind.union, base]
  rfl

end Application.IsProper

/-- A headed text outside the vocabulary, with a head of no layer, has the base of its head. -/
theorem IsHeaded.shapeChars_eq {head t : List Char} (headed : IsHeaded head t)
    (word : Vocabulary.canonical? t = none) (free : String.ofList head ∉ layerHeads)
    (unknown : Vocabulary.lookup? head = none) : shapeChars t = { base := wordBase head } := by
  cases headed with
  | alone name =>
      have kind := IsTypeHead.of_notMem free
      rw [shapeChars_plain (isPlainWord_of_isIdentifier name), plainShape, unknown, kind.function,
        kind.sequence, kind.map]
      rfl
  | applied proper same =>
      subst same
      exact proper.shapeChars_eq_wordBase word free unknown

/-- **Behind a qualifier a type is the name of its head.**  That is its shape without the qualifier
if the head names a type and is no word of the vocabulary.  If the head is a wrapper with arguments
that sets a flag, the flag is lost. -/
theorem shapeChars_qualified {q head t : List Char} {separator : String}
    (identifier : isIdentifier q = true) (separated : separator ∈ separators)
    (headed : IsHeaded head t)
    (unknown : Vocabulary.lookup? (qualified q separator head) = none) :
    shapeChars (qualified q separator t) = { base := wordBase head } ∧
      (Vocabulary.canonical? t = none → Vocabulary.lookup? head = none →
        String.ofList head ∉ layerHeads → shapeChars (qualified q separator t) = shapeChars t) ∧
      (Vocabulary.canonical? t = none → t ≠ head →
        String.ofList head ∈ flagHeads → shapeChars (qualified q separator t) ≠ shapeChars t) := by
  have shape : shapeChars (qualified q separator t) = { base := wordBase head } := by
    cases headed with
    | alone name =>
        exact shapeChars_of_head identifier separated name unknown
          (isInnermost_qualified_name identifier separated name unknown)
          (congrArg Generic.head (generic_qualified_name identifier separated name))
    | applied proper same =>
        subst same
        exact shapeChars_of_head identifier separated proper.head unknown
          (proper.isInnermost_qualified_text identifier separated)
          (congrArg Generic.head (proper.generic_qualified_text identifier))
  refine ⟨shape, fun word known free => ?_, fun word applied flag => ?_⟩
  · rw [shape, headed.shapeChars_eq word free known]
  · rw [shape]
    cases headed with
    | alone name => exact absurd rfl applied
    | applied proper same => exact (proper.shapeChars_ne_base word (same ▸ flag) _).symm

/-- A page of users from another package is a page. -/
theorem shapeChars_qualified_page :
    IsHeaded "Page".toList "Page<User>".toList ∧
      shapeChars "models.Page<User>".toList = shapeChars "Page<User>".toList ∧
      shapeChars "crate::Page<User>".toList = shapeChars "Page<User>".toList :=
  have headed : IsHeaded "Page".toList "Page<User>".toList :=
    .applied (a := ⟨"Page".toList, [], '<', '>', "User".toList⟩)
      ⟨by decide +kernel, nofun, .inl ⟨rfl, rfl⟩, by decide +kernel, by decide +kernel,
        by decide +kernel, by decide +kernel⟩ rfl
  have models : isIdentifier "models".toList = true := by decide +kernel
  have crate : isIdentifier "crate".toList = true := by decide +kernel
  have dot : "." ∈ separators := by decide
  have colons : "::" ∈ separators := by decide
  ⟨headed,
    (shapeChars_qualified models dot headed (by decide +kernel)).2.1 (by decide +kernel)
      (by decide +kernel) (by decide +kernel),
    (shapeChars_qualified crate colons headed (by decide +kernel)).2.1 (by decide +kernel)
      (by decide +kernel) (by decide +kernel)⟩

/-- A qualifier in front of a wrapper hides what it wraps. -/
theorem qualifier_hides_optional :
    isIdentifier "typing".toList = true ∧ isIdentifier "Optional".toList = true ∧
      qualified "typing".toList "." "Optional[int]".toList = "typing.Optional[int]".toList ∧
      Vocabulary.lookup? "typing.Optional[int]".toList = none ∧
      Vocabulary.lookup? "typing.Optional".toList = none ∧
      shapeChars "typing.Optional[int]".toList = { base := "optional" } ∧
      shapeChars "Optional[int]".toList = { base := "integer", isPointer := true } := by
  decide +kernel

end Concord.Spelling
