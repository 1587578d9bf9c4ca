import Concord.Proofs.Spelling.Returned
import Concord.Proofs.Spelling.Texts

/-!
# Concord.Proofs.Spelling.ReturnType

Return types made of names, nothing, fallible results and tuples, nested in each other:

```
name       User
nothing    void   None   ()
fallible   Result<T, E>
several    (T, U)   [T, U]   tuple[T, U]
```

`ReturnType.text` is what is written and `ReturnType.values` what is returned: a name its base,
nothing no value, a fallible result its value and an error, a tuple the values of its members.  The
main statement, `returns_texts`, is that just these values are read.
-/

namespace Concord.Spelling

open Text

/-! ## Return types -/

/-- The ways to write that nothing is returned. -/
inductive Nothing where
  | void
  | none
  | unit
deriving DecidableEq, Repr

/-- The ways to write a tuple: `(A, B)`, `[A, B]` and `tuple[A, B]`. -/
inductive TupleForm where
  | round
  | square
  | named
deriving DecidableEq, Repr

/-- A return type. -/
inductive ReturnType where
  | name (word : List Char)
  | nothing (spelling : Nothing)
  | fallible (value : ReturnType) (error : List Char)
  | several (form : TupleForm) (members : List ReturnType)
deriving Repr

/-- How it is written that nothing is returned. -/
def Nothing.text : Nothing → List Char
  | void => "void".toList
  | none => "None".toList
  | unit => "()".toList

/-- What stands in front of the brackets of a tuple. -/
def TupleForm.head : TupleForm → List Char
  | round | square => []
  | named => "tuple".toList

/-- The brackets of a tuple. -/
def TupleForm.brackets : TupleForm → Char × Char
  | round => ('(', ')')
  | square | named => ('[', ']')

/-- Members written as a tuple. -/
def TupleForm.write (form : TupleForm) (members : List (List Char)) : List Char :=
  Generic.written form.brackets.1 form.brackets.2 ⟨form.head, members⟩

/-- A value or an error, as it is written. -/
def writtenResult (value error : List Char) : List Char :=
  Generic.written '<' '>' ⟨"Result".toList, [value, error]⟩

/-- A name of a type: letters and digits of ASCII and underscores. -/
structure IsTypeName (word : List Char) : Prop where
  nonempty : word ≠ []
  chars : word.all (fun c => c.isAlphanum || c = '_') = true

/-- The name of a type that is a value by itself: it neither puts a value off nor stands for
nothing. -/
structure IsValueName (word : List Char) : Prop extends IsTypeName word where
  settled : String.ofList word ∉ Vocabulary.deferred
  filled : (shapeChars word).base ≠ "void"

namespace ReturnType

mutual

/-- How a return type is written. -/
def text : ReturnType → List Char
  | name word => word
  | nothing spelling => spelling.text
  | fallible value error => writtenResult value.text error
  | several form members => form.write (texts members)

/-- How return types are written. -/
def texts : List ReturnType → List (List Char)
  | [] => []
  | r :: rs => r.text :: texts rs

end

mutual

/-- The bases of the values that are returned. -/
def values : ReturnType → List String
  | name word => [(shapeChars word).base]
  | nothing _ => []
  | fallible value _ => value.values ++ ["error"]
  | several _ members => allValues members

/-- The bases of the values that are returned one after the other. -/
def allValues : List ReturnType → List String
  | [] => []
  | r :: rs => r.values ++ allValues rs

end

/-- Return types whose names are names of types, with two members or more in every tuple. -/
inductive IsProper : ReturnType → Prop
  | name {word : List Char} (value : IsValueName word) : IsProper (name word)
  | nothing (spelling : Nothing) : IsProper (nothing spelling)
  | fallible {value : ReturnType} {error : List Char} (inner : value.IsProper)
      (name : IsTypeName error) : IsProper (fallible value error)
  | several {members : List ReturnType} (form : TupleForm) (two : 2 ≤ members.length)
      (each : ∀ m ∈ members, m.IsProper) : IsProper (several form members)

/-- The texts of a row of return types are those of its members. -/
theorem texts_eq_map (rs : List ReturnType) : texts rs = rs.map text := by
  induction rs with
  | nil => rfl
  | cons r rs ih => rw [texts, ih, List.map_cons]

/-- The values of a row of return types are those of its members, in order. -/
theorem allValues_eq_flatMap (rs : List ReturnType) : allValues rs = rs.flatMap values := by
  induction rs with
  | nil => rfl
  | cons r rs ih => rw [allValues, ih, List.flatMap_cons]

end ReturnType

/-! ## Their texts -/

/-- The characters that return types are made of. -/
def isReturnChar (c : Char) : Bool :=
  c.isAlphanum || ['_', ' ', ',', '(', ')', '[', ']', '<', '>'].contains c

/-- What every text of a return type satisfies. -/
structure IsReturnText (s : List Char) : Prop where
  argument : IsArgument s
  chars : ∀ c ∈ s, isReturnChar c = true
  unqualified : stripQualifiers s = s
  unnamed : beforeName? s = none

namespace IsReturnText

variable {s : List Char}

/-- A return text holds only the characters of return texts. -/
theorem not_mem (h : IsReturnText s) {c : Char} (hc : isReturnChar c = false) : c ∉ s := by
  intro hs
  rw [h.chars c hs] at hc
  cases hc

theorem hasArrow_eq (h : IsReturnText s) : hasArrow s = false :=
  hasArrow_eq_false (h.not_mem rfl) (h.not_mem rfl)

theorem member_eq (h : IsReturnText s) : member s = s :=
  member_eq_self h.argument.trimmed (h.not_mem rfl) h.unnamed

end IsReturnText

/-- The characters of type names are plain, belong to words and may stand in return texts. -/
theorem typeName_isLawful {c : Char} (h : (c.isAlphanum || decide (c = '_')) = true) :
    isPlain c = true ∧ isWordChar c = true ∧ isReturnChar c = true := by
  rw [Bool.or_eq_true, decide_eq_true_eq] at h
  rcases h with h | rfl
  · obtain ⟨plain, word, -⟩ := alphanumeric_isLawful h
    exact ⟨plain, word, by rw [isReturnChar, h, Bool.true_or]⟩
  · decide

theorem marks_notWord : (',' :: marks).all (fun c => !isWordChar c) = true := by
  decide +kernel

/-- The comma and the marks stand in no word. -/
theorem notWord_of_mem {c : Char} (hc : c ∈ ',' :: marks) : isWordChar c = false := by
  simpa using List.all_eq_true.1 marks_notWord c hc

namespace IsTypeName

variable {word : List Char}

theorem char (h : IsTypeName word) {c : Char} (hc : c ∈ word) :
    isPlain c = true ∧ isWordChar c = true ∧ isReturnChar c = true :=
  typeName_isLawful (List.all_eq_true.1 h.chars c hc)

theorem isPlainWord (h : IsTypeName word) : IsPlainWord word where
  nonempty := h.nonempty
  plain _ hc := (h.char hc).1

theorem flat (h : IsTypeName word) : ∀ c ∈ word, isOpener c = false ∧ isCloser c = false :=
  h.isPlainWord.flat

/-- A type name holds no comma. -/
theorem comma (h : IsTypeName word) : ',' ∉ word := by
  intro hc
  have char := (h.char hc).2.1
  rw [notWord_of_mem List.mem_cons_self] at char
  cases char

/-- A type name may be a head. -/
theorem isHead (h : IsTypeName word) : IsHead word where
  nonempty := h.nonempty
  trimmed := h.isPlainWord.trim_eq
  flat := h.flat

/-- A type name may be a return text. -/
theorem isReturnText (h : IsTypeName word) : IsReturnText word where
  argument := {
    nonempty := h.nonempty
    trimmed := h.isPlainWord.trim_eq
    nested := openBehind_of_flat h.flat none 0
    closed := not_standsOutside_of_notMem h.comma }
  chars _ hc := (h.char hc).2.2
  unqualified := h.isPlainWord.stripQualifiers_eq
  unnamed := beforeName?_eq_none_of_word fun _ hc => (h.char hc).2.1

end IsTypeName

/-- A text of return types in brackets holds no other characters. -/
theorem isReturnChar_of_mem_written {g : Generic} {opener closer : Char}
    (head : ∀ c ∈ g.head, isReturnChar c = true) (arguments : ∀ a ∈ g.args, IsReturnText a)
    (opens : isReturnChar opener = true) (closes : isReturnChar closer = true) {c : Char}
    (hc : c ∈ g.written opener closer) : isReturnChar c = true := by
  simp only [Generic.written, List.mem_append, List.mem_cons, List.not_mem_nil, or_false] at hc
  rcases hc with hc | rfl | hc | rfl
  · exact head c hc
  · exact opens
  · rcases mem_listed hc with rfl | rfl | ⟨a, ha, mem⟩
    · rfl
    · rfl
    · exact (arguments a ha).chars c mem
  · exact closes

/-- Return types in brackets, behind a name or nothing, can stand in a return type. -/
theorem isReturnText_written {g : Generic} {opener closer : Char}
    (head : g.head = [] ∨ IsTypeName g.head) (arguments : ∀ a ∈ g.args, IsReturnText a)
    (brackets : isOpener opener = true ∧ isCloser closer = true ∧ isReturnChar opener = true ∧
      isReturnChar closer = true) :
    IsReturnText (g.written opener closer) := by
  obtain ⟨opens, closes, openerChar, closerChar⟩ := brackets
  have front : (∀ c ∈ g.head, isReturnChar c = true) ∧
      (∀ c ∈ g.head, isOpener c = false ∧ isCloser c = false) ∧ trim g.head = g.head ∧
      ',' ∉ g.head ∧ ' ' ∉ g.head ∧ g.head.head? ≠ some '\'' := by
    rcases head with empty | name
    · rw [empty]
      exact ⟨List.forall_mem_nil _, List.forall_mem_nil _, rfl, List.not_mem_nil,
        List.not_mem_nil, by decide⟩
    · exact ⟨fun _ hc => (name.char hc).2.2, name.flat, name.isPlainWord.trim_eq, name.comma,
        fun space => absurd (name.isPlainWord.not_blank space) (by decide),
        name.isPlainWord.head?_ne (by decide)⟩
  obtain ⟨headChars, flat, trimmed, comma, space, quote⟩ := front
  have chars : ∀ c ∈ g.written opener closer, isReturnChar c = true := fun _ hc =>
    isReturnChar_of_mem_written headChars arguments openerChar closerChar hc
  have notMem {c : Char} (hc : isReturnChar c = false) : c ∉ opener :: listed g.args := by
    intro mem
    have char := chars c (by
      rw [Generic.written, ← List.cons_append]
      exact List.mem_append_right _ (List.mem_append_left _ mem))
    rw [hc] at char
    cases char
  refine ⟨isArgument_written opens closes flat trimmed comma (fun a ha => (arguments a ha).argument)
    (isArrowhead_lastOf (notMem rfl) (notMem rfl) closer), chars,
    stripQualifiers_written opens closes trimmed space quote,
    beforeName?_eq_none_of_last (c := closer) ?_
      (notWord_of_mem (List.mem_cons_of_mem _ (mem_marks_of_bracket (.inr closes))))⟩
  exact getLast?_group _ _ _ _

/-- The words for nothing may be return texts. -/
theorem Nothing.isReturnText (spelling : Nothing) : IsReturnText spelling.text := by
  cases spelling with
  | void => exact IsTypeName.isReturnText ⟨by decide, by decide⟩
  | none => exact IsTypeName.isReturnText ⟨by decide, by decide⟩
  | unit =>
    exact isReturnText_written (g := ⟨[], []⟩) (.inl rfl) (fun _ h => by cases h) (by decide)

theorem isTypeName_result : IsTypeName "Result".toList := ⟨by decide, by decide⟩

theorem isTypeName_tuple : IsTypeName "tuple".toList := ⟨by decide, by decide⟩

/-- A fallible return type may be a return text where its two arguments may. -/
theorem isReturnText_writtenResult {value error : List Char} (hv : IsReturnText value)
    (he : IsReturnText error) : IsReturnText (writtenResult value error) := by
  refine isReturnText_written (.inr isTypeName_result) (fun a ha => ?_) (by decide)
  simp only [List.mem_cons, List.not_mem_nil, or_false] at ha
  rcases ha with rfl | rfl
  · exact hv
  · exact he

/-- A tuple may be a return text where its members may. -/
theorem TupleForm.isReturnText (form : TupleForm) {members : List (List Char)}
    (h : ∀ m ∈ members, IsReturnText m) : IsReturnText (form.write members) := by
  refine isReturnText_written ?_ h ?_
  · cases form with
    | round | square => exact .inl rfl
    | named => exact .inr isTypeName_tuple
  · cases form <;> decide

/-- The text of a proper return type is a return text. -/
theorem ReturnType.isReturnText {r : ReturnType} (h : r.IsProper) : IsReturnText r.text := by
  induction h with
  | name value => exact value.isReturnText
  | nothing spelling => exact spelling.isReturnText
  | fallible inner name ih => exact isReturnText_writtenResult ih name.isReturnText
  | several form two each ih =>
    rw [text]
    refine form.isReturnText ?_
    rw [texts_eq_map]
    simpa using ih

/-! ## Names and nothing -/

theorem deferred_noBrackets : ∀ w ∈ Vocabulary.deferred,
    '<' ∉ w.toList ∧ '[' ∉ w.toList ∧ '(' ∉ w.toList := by
  decide +kernel

/-- A plain word that is no deferred head returns its own value. -/
theorem returned_of_word {word : List Char} (h : IsPlainWord word)
    (settled : String.ofList word ∉ Vocabulary.deferred) : returned word = valueOf word := by
  have bare := isOneOf_eq_false.2 settled
  rw [returned_eq h.stripQualifiers_eq bare (by rw [h.generic_eq]; exact bare),
    returnedSettled_of_not_fallible (.inr (by rw [h.generic_eq])), h.tupleElements?_eq]

theorem IsValueName.returned_eq {word : List Char} (h : IsValueName word) :
    returned word = .value (shapeChars word).base := by
  rw [returned_of_word h.isPlainWord h.settled, valueOf, if_neg h.filled]

/-- Every word for nothing has the base of nothing. -/
theorem Nothing.shapeChars_base (spelling : Nothing) : (shapeChars spelling.text).base = "void" := by
  have unqualified := spelling.isReturnText.unqualified
  have known : Vocabulary.canonical? spelling.text = some "void" := by
    cases spelling <;> decide +kernel
  have bare : peelBare false spelling.text = .whole { base := "void" } := by rw [peelBare, known]
  have peel : peel spelling.text = .whole { base := "void" } := by
    rw [Spelling.peel, unqualified]
    cases spelling <;> exact bare
  rw [shapeChars_eq, peel, Layer.shape]

/-- A word for nothing returns nothing. -/
theorem Nothing.returned_eq (spelling : Nothing) : returned spelling.text = .nothing := by
  have value : returned spelling.text = valueOf spelling.text := by
    cases spelling with
    | void => exact returned_of_word (IsTypeName.isPlainWord ⟨by decide, by decide⟩) (by decide)
    | none => exact returned_of_word (IsTypeName.isPlainWord ⟨by decide, by decide⟩) (by decide)
    | unit =>
      have text : generic unit.text = ⟨unit.text, []⟩ :=
        generic_eq_self (by decide) (by decide) (by decide)
      have empty : splitCommas unit.text.tail.dropLast = [] := @splitCommas_listed [] nofun rfl
      have none' : tupleElements? unit.text = Option.none := by
        rw [tupleElements?, unit.isReturnText.unqualified, tupleMembers?, text]
        simp only [empty]
        decide
      rw [Spelling.returned_eq unit.isReturnText.unqualified (by decide) (by rw [text]; decide),
        returnedSettled_of_not_fallible (.inr (by rw [text])), none']
  rw [value, valueOf, if_pos spelling.shapeChars_base]

/-! ## Results -/

theorem result_isHead : IsHead "Result".toList ∧
    isOneOf Vocabulary.deferred "Result".toList = false ∧
    isOneOf fallibleHeads "Result".toList = true :=
  ⟨isTypeName_result.isHead, by decide, by decide⟩

/-- A fallible return type returns its value, and the error apart. -/
theorem returned_writtenResult {value error : List Char} (hv : IsReturnText value)
    (he : IsReturnText error) : returned (writtenResult value error) = .fallible value := by
  have text := isReturnText_writtenResult hv he
  obtain ⟨head, settled, fallible⟩ := result_isHead
  have arguments : ∀ a ∈ [value, error], IsReturnText a := by simp [hv, he]
  have read : generic (writtenResult value error) = ⟨"Result".toList, [value, error]⟩ := by
    rw [writtenResult, head.generic_written (by simp)
      (fun a ha => (arguments a ha).argument) (.inl ⟨rfl, rfl⟩)]
    simp [hv.hasArrow_eq, he.hasArrow_eq]
  have angle : '<' ∈ writtenResult value error := by simp [writtenResult, Generic.written]
  rw [returned_eq text.unqualified
    (isOneOf_eq_false_of_mem angle fun w hw => (deferred_noBrackets w hw).1)
    (by rw [read]; exact settled), read]
  exact returnedSettled_of_fallible fallible rfl _

/-! ## Tuples -/

/-- A row of members in brackets is no head with arguments. -/
theorem TupleForm.generic_write_of_headless {form : TupleForm} (headless : form.head = [])
    {members : List (List Char)} (h : ∀ m ∈ members, IsReturnText m) :
    generic (form.write members) = ⟨form.write members, []⟩ := by
  have text := (form.isReturnText h).argument
  cases form with
  | named => cases headless
  | round =>
    have last : (TupleForm.round.write members).getLast? = some ')' := getLast?_group _ _ _ _
    exact generic_eq_self text.trimmed (by rw [last]; decide) (by rw [last]; decide)
  | square =>
    have nested := isNested_listed fun m hm => (h m hm).argument.nested
    have opens : isOpener '[' = true := rfl
    have group := openGroup_of_isNested opens nested
      ((arrows_listed_eq_zero_iff members).2
        (any_hasArrow_eq_false fun m hm => (h m hm).hasArrow_eq)) []
    have read := generic_of_openGroup (.inr ⟨rfl, rfl⟩) group text.trimmed
    rwa [if_neg (by simp)] at read

/-- A tuple without a head is a row in its brackets. -/
theorem TupleForm.isEnclosed_write {form : TupleForm} (headless : form.head = [])
    {members : List (List Char)} (h : ∀ m ∈ members, IsReturnText m) :
    isEnclosed '(' ')' (form.write members) = true ∨
      isEnclosed '[' ']' (form.write members) = true := by
  have nested := isNested_listed fun m hm => (h m hm).argument.nested
  cases form with
  | named => cases headless
  | round => exact .inl (isEnclosed_of_isNested rfl nested)
  | square => exact .inr (isEnclosed_of_isNested rfl nested)

/-- A tuple with a head is the head applied to its members. -/
theorem TupleForm.generic_write_of_named {form : TupleForm} (named : form.head ≠ [])
    {members : List (List Char)} (nonempty : members ≠ []) (h : ∀ m ∈ members, IsReturnText m) :
    generic (form.write members) = ⟨"tuple".toList, members⟩ := by
  have text : form.write members = Generic.written '[' ']' ⟨"tuple".toList, members⟩ := by
    cases form with
    | round | square => exact absurd rfl named
    | named => rfl
  rw [text, isTypeName_tuple.isHead.generic_written nonempty (fun m hm => (h m hm).argument)
    (.inr ⟨rfl, rfl⟩), any_hasArrow_eq_false fun m hm => (h m hm).hasArrow_eq]
  rfl

/-- The members of a tuple are read back from it. -/
theorem TupleForm.tupleElements?_write (form : TupleForm) {members : List (List Char)}
    (h : ∀ m ∈ members, IsReturnText m) (two : 2 ≤ members.length) :
    tupleElements? (form.write members) = some members := by
  have arguments : ∀ m ∈ members, IsArgument m := fun m hm => (h m hm).argument
  have nonempty : members ≠ [] := by
    rintro rfl
    cases two
  have unlabelled : members.map member = members := by
    rw [List.map_congr_left (g := id) fun m hm => (h m hm).member_eq, List.map_id]
  rw [tupleElements?, (form.isReturnText h).unqualified]
  by_cases headless : form.head = []
  · have parts := splitCommas_listed arguments
      (any_hasArrow_eq_false fun m hm => (h m hm).hasArrow_eq)
    have semicolon : ';' ∉ listed members := by
      intro mem
      rcases mem_listed mem with other | other | ⟨m, hm, here⟩
      · cases other
      · cases other
      · exact (h m hm).not_mem rfl here
    have text : form.write members =
        form.brackets.1 :: (listed members ++ [form.brackets.2]) := by
      rw [write, Generic.written, headless, List.nil_append]
    rw [tupleMembers?_of_isEnclosed text (by rw [generic_write_of_headless headless h])
      (isEnclosed_write headless h)
      (splitBy_eq_trim (c := ';') (by decide) semicolon (trim_listed_ne_nil nonempty arguments))
      (by rwa [parts]), parts, unlabelled]
  · have isTuple : isTupleHead "tuple".toList = true := by decide
    rw [tupleMembers?_of_generic (generic_write_of_named headless nonempty h) isTuple two
      (isHomogeneous_eq_false fun m hm => (h m hm).not_mem rfl), unlabelled]

/-- A tuple of two members or more returns its members. -/
theorem TupleForm.returned_write (form : TupleForm) {members : List (List Char)}
    (h : ∀ m ∈ members, IsReturnText m) (two : 2 ≤ members.length) :
    returned (form.write members) = .several members := by
  have bare : isOneOf Vocabulary.deferred (form.write members) = false := by
    have opener : form.brackets.1 ∈ form.write members := by simp [write, Generic.written]
    refine isOneOf_eq_false_of_mem opener fun w hw => ?_
    obtain ⟨-, square, round⟩ := deferred_noBrackets w hw
    cases form with
    | round => exact round
    | square | named => exact square
  have head : isOneOf Vocabulary.deferred (generic (form.write members)).head = false ∧
      (isOneOf fallibleHeads (generic (form.write members)).head = false ∨
        (generic (form.write members)).args = []) := by
    by_cases headless : form.head = []
    · rw [generic_write_of_headless headless h]
      exact ⟨bare, .inr rfl⟩
    · rw [generic_write_of_named headless (by rintro rfl; cases two) h]
      have words : isOneOf Vocabulary.deferred "tuple".toList = false ∧
          isOneOf fallibleHeads "tuple".toList = false := by decide
      exact ⟨words.1, .inl words.2⟩
  rw [returned_eq (form.isReturnText h).unqualified bare head.1,
    returnedSettled_of_not_fallible head.2, form.tupleElements?_write h two]

/-! ## Lists of return types -/

namespace ReturnType

/-- What is read from a return type is what it returns. -/
theorem returnsChars_text {r : ReturnType} (h : r.IsProper) : returnsChars r.text = r.values := by
  induction h with
  | name value => rw [text, values, returnsChars_eq, value.returned_eq, Returned.bases]
  | nothing spelling => rw [text, values, returnsChars_eq, spelling.returned_eq, Returned.bases]
  | fallible inner name ih =>
    rw [text, values, returnsChars_eq,
      returned_writtenResult (isReturnText inner) name.isReturnText, Returned.bases, ih]
  | @several members form two each ih =>
    have parts : ∀ m ∈ texts members, IsReturnText m := by
      rw [texts_eq_map]
      simpa using fun m hm => isReturnText (each m hm)
    rw [text, values, returnsChars_eq, form.returned_write parts (by simpa [texts_eq_map] using two),
      Returned.bases, texts_eq_map, List.flatMap_map, allValues_eq_flatMap]
    exact List.flatMap_congr ih

/-- No proper return type has the base of nothing among its values. -/
theorem void_notMem_values {r : ReturnType} (h : r.IsProper) : "void" ∉ r.values := by
  induction h with
  | name value =>
    rw [values, List.mem_singleton]
    exact value.filled.symm
  | nothing spelling => exact List.not_mem_nil
  | fallible inner name ih =>
    rw [values, List.mem_append, not_or]
    exact ⟨ih, by decide⟩
  | several form two each ih =>
    rw [values, allValues_eq_flatMap, List.mem_flatMap]
    rintro ⟨m, hm, void⟩
    exact ih m hm void

/-- How a list of return types is written. -/
def spellings (rs : List ReturnType) : List String := rs.map fun r => String.ofList r.text

/-- A row of proper return types returns their values one after the other. -/
theorem returns_spellings {rs : List ReturnType} (h : ∀ r ∈ rs, r.IsProper) :
    returns (spellings rs) = rs.flatMap values := by
  rw [returns, spellings, List.flatMap_map]
  refine List.flatMap_congr fun r hr => ?_
  rw [String.toList_ofList, returnsChars_text (h r hr)]

/-- **What is read from return types is what they return, one after the other.  That nothing is
returned is never read as a value, and saying so anywhere in the list changes nothing.** -/
theorem returns_proper {rs : List ReturnType} (h : ∀ r ∈ rs, r.IsProper) :
    returns (spellings rs) = rs.flatMap values ∧ "void" ∉ returns (spellings rs) ∧
      ∀ (front behind : List ReturnType) (more : List Nothing), rs = front ++ behind →
        returns (spellings (front ++ more.map nothing ++ behind)) = returns (spellings rs) := by
  have read := returns_spellings h
  refine ⟨read, ?_, ?_⟩
  · rw [read, List.mem_flatMap]
    rintro ⟨r, hr, void⟩
    exact void_notMem_values (h r hr) void
  · rintro front behind more rfl
    have proper : ∀ r ∈ front ++ more.map nothing ++ behind, r.IsProper := by
      intro r hr
      simp only [List.mem_append, List.mem_map] at hr
      rcases hr with (hr | ⟨w, -, rfl⟩) | hr
      · exact h r (List.mem_append_left _ hr)
      · exact .nothing w
      · exact h r (List.mem_append_right _ hr)
    have none' : (more.map nothing).flatMap values = [] := by
      rw [List.flatMap_map]
      exact List.flatMap_eq_nil_iff.2 fun _ _ => rfl
    rw [read, returns_spellings proper, List.flatMap_append, List.flatMap_append, none',
      List.append_nil, List.flatMap_append]

theorem base_of_isTypeName {word : List Char} (h : IsTypeName word) :
    (shapeChars word).base = (plainShape word).base := by rw [shapeChars_plain h.isPlainWord]

/-- A tuple with a tuple and nothing in it, as the value of a result. -/
theorem returns_proper_nested :
    returns ["Result<(User, (), tuple[Id, HTTPServer]), IoError>", "None"] =
      ["user", "id", "http_server", "error"] := by
  have user : IsTypeName "User".toList := ⟨by decide, by decide⟩
  have id : IsTypeName "Id".toList := ⟨by decide, by decide⟩
  have server : IsTypeName "HTTPServer".toList := ⟨by decide, by decide⟩
  have error : IsTypeName "IoError".toList := ⟨by decide, by decide⟩
  have bases : (shapeChars "User".toList).base = "user" ∧ (shapeChars "Id".toList).base = "id" ∧
      (shapeChars "HTTPServer".toList).base = "http_server" := by
    rw [base_of_isTypeName user, base_of_isTypeName id, base_of_isTypeName server]
    decide +kernel
  obtain ⟨userBase, idBase, serverBase⟩ := bases
  have pair : IsProper (several .named [name "Id".toList, name "HTTPServer".toList]) := by
    refine .several _ (Nat.le_refl 2) ?_
    rw [List.forall_mem_cons, List.forall_mem_singleton]
    exact ⟨.name ⟨id, by decide, by rw [idBase]; decide⟩,
      .name ⟨server, by decide, by rw [serverBase]; decide⟩⟩
  have triple : IsProper (several .round
      [name "User".toList, nothing .unit,
        several .named [name "Id".toList, name "HTTPServer".toList]]) := by
    refine .several _ (by decide) ?_
    rw [List.forall_mem_cons, List.forall_mem_cons, List.forall_mem_singleton]
    exact ⟨.name ⟨user, by decide, by rw [userBase]; decide⟩, .nothing .unit, pair⟩
  have both : ∀ r ∈ [fallible (several .round [name "User".toList, nothing .unit,
      several .named [name "Id".toList, name "HTTPServer".toList]]) "IoError".toList,
      nothing .none], r.IsProper := by
    rw [List.forall_mem_cons, List.forall_mem_singleton]
    exact ⟨.fallible triple error, .nothing .none⟩
  refine (congrArg returns ?_).trans ((returns_proper both).1.trans ?_)
  · decide +kernel
  · simp only [values, allValues, List.flatMap_cons, List.flatMap_nil, userBase, idBase, serverBase]
    rfl

end ReturnType

end Concord.Spelling
