import Concord.Proofs.Spelling.Applied
import Concord.Proofs.Spelling.Returned

/-!
# Concord.Proofs.Spelling.Deferred

What a function returns whose value arrives later: `Promise<T>`, `Future<T>`, `Awaitable[T]`, and
`Coroutine[X, Y, T]`.

* `returned_deferred` — behind a wrapper a type is taken apart and written again before it is read;
* `returned_coroutine` — a coroutine returns the base of its last argument, and no more;
* `returnsChars_deferred` — so a wrapper changes nothing if the type reads the same written again,
  and a coroutine changes nothing if the type is neither a fallible result nor a tuple.
-/

namespace Concord.Spelling

open Text

/-! ## Wrappers -/

/-- Heads that stand for their last argument: those of deferred values and of coroutines. -/
def wrappers : List String := "Coroutine" :: Vocabulary.deferred

/-- The spellings in the vocabulary that hold brackets of arguments. -/
def bracketed : List String := ["[]byte", "byte[]", "Vec<u8>", "&[u8]", "[u8]"]

/-- Only these words of the vocabulary hold a bracket of arguments. -/
theorem known_bracketed : Vocabulary.families.all (fun family => family.2.all fun known =>
    known.toList.all (fun c => c != '<' && c != '[') || bracketed.contains known) = true := by
  decide +kernel

theorem bracketed_notWrapped : ∀ w ∈ wrappers, ∀ known ∈ bracketed,
    begins w known.toList = false := by
  decide

/-- No spelling in the vocabulary is a wrapper with arguments. -/
theorem lookup?_eq_none_of_wrapper {w : String} (hw : w ∈ wrappers) {s : List Char}
    (starts : begins w s = true) {c : Char} (bracket : c = '<' ∨ c = '[') (hc : c ∈ s) :
    Vocabulary.lookup? s = none := by
  refine lookup?_eq_none_of_not (p := fun s =>
    (s.all (fun c => c != '<' && c != '[') || bracketed.contains (String.ofList s)) = true)
    (fun family hfamily known hknown => ?_) ?_
  · rw [String.ofList_toList]
    exact List.all_eq_true.1 (List.all_eq_true.1 known_bracketed family hfamily) known hknown
  · rw [Bool.or_eq_true]
    rintro (flat | marked)
    · have apart := List.all_eq_true.1 flat c hc
      cases bracket with
      | inl angle => simp [angle] at apart
      | inr square => simp [square] at apart
    · have apart := bracketed_notWrapped w hw _ (List.contains_iff_mem.1 marked)
      rw [String.toList_ofList, starts] at apart
      cases apart

/-- A wrapper heads neither a fallible result nor a tuple. -/
theorem wrapper_isPlain : ∀ w ∈ wrappers, isOneOf fallibleHeads w.toList = false ∧
    isTupleHead w.toList = false := by
  decide

theorem valueOf_of_peel {s inner : List Char} {p a : Bool} (h : peel s = .around p a inner) :
    valueOf s = valueOf inner := by
  rw [valueOf, valueOf, shapeChars_eq s, h]
  rfl

namespace Application.IsProper

variable {a : Application}

/-- An application of a wrapper is no word of the vocabulary. -/
theorem canonical?_eq_none (h : a.IsProper) (head : String.ofList a.head ∈ wrappers) :
    Vocabulary.canonical? a.text = none := by
  have bracket : a.opener = '<' ∨ a.opener = '[' := h.pair.imp And.left And.left
  have blank : a.opener ≠ ' ' := by
    rcases bracket with opens | opens <;> rw [opens] <;> decide
  have solid : a.head.filter (· ≠ ' ') = a.head := by
    rw [List.filter_eq_self]
    intro c hc
    rw [decide_eq_true_eq]
    rintro rfl
    exact absurd (isIdentifierChar_isFlat (isIdentifierChar_of_mem h.head hc)).1 (by decide)
  have text : a.text = a.head ++ (a.gap ++ a.opener :: (a.content ++ [a.closer])) := by
    rw [Application.text, front, List.append_assoc]
  have starts (rest : List Char) : begins (String.ofList a.head) (a.head ++ rest) = true := by
    rw [begins, String.toList_ofList, List.isPrefixOf_iff_prefix]
    exact List.prefix_append _ _
  have whole := lookup?_eq_none_of_wrapper head (starts _) bracket (text ▸ a.opener_mem_text)
  have compact : Vocabulary.lookup? (a.text.filter (· ≠ ' ')) = none := by
    refine lookup?_eq_none_of_wrapper head ?_ bracket
      (List.mem_filter.2 ⟨a.opener_mem_text, by simpa using blank⟩)
    rw [text, List.filter_append, solid]
    exact starts _
  rw [← text] at whole
  rw [Vocabulary.canonical?, whole, compact]
  rfl

/-- A deferred value has the base of the value. -/
theorem valueOf_deferred (h : a.IsProper) (head : isOneOf Vocabulary.deferred a.head = true)
    {t : List Char} {rest : List (List Char)} (args : a.parts.args = t :: rest) :
    valueOf a.text = valueOf t := by
  refine valueOf_of_peel (p := false) (a := false) ?_
  rw [h.peel_text, peelBare, h.canonical?_eq_none (List.mem_cons_of_mem _ (isOneOf_eq_true.1 head)),
    h.generic_text]
  dsimp only
  rw [args]
  exact if_pos head

/-- A coroutine has the base of its last argument. -/
theorem valueOf_coroutine (h : a.IsProper) (head : a.head = "Coroutine".toList) {first : List Char}
    {rest : List (List Char)} (args : a.parts.args = first :: rest) :
    valueOf a.text = valueOf (rest.getLastD first) := by
  refine valueOf_of_peel (p := false) (a := false) ?_
  rw [h.peel_text, peelBare, h.canonical?_eq_none (by rw [head]; decide), h.generic_text]
  dsimp only
  rw [args]
  have here : a.parts.head = "Coroutine".toList := head
  dsimp only
  rw [here, if_neg (by decide), if_pos rfl]

/-- A wrapper by itself is a value. -/
theorem returnedSettled_wrapper (h : a.IsProper) (head : String.ofList a.head ∈ wrappers) :
    returnedSettled a.parts a.text = valueOf a.text := by
  obtain ⟨notFallible, notTuple⟩ := wrapper_isPlain _ head
  rw [String.toList_ofList] at notFallible notTuple
  rw [returnedSettled_of_not_fallible (.inl notFallible), h.tupleElements?_text, notTuple]
  rfl

theorem not_deferred_text (h : a.IsProper) : isOneOf Vocabulary.deferred a.text = false :=
  h.isOneOf_text (by decide)

/-- Behind a deferred wrapper a type is taken apart and written again. -/
theorem returned_deferred (h : a.IsProper) (head : isOneOf Vocabulary.deferred a.head = true)
    {t : List Char} {rest : List (List Char)} (args : a.parts.args = t :: rest) :
    returned a.text = returnedSettled (generic t) (generic t).render := by
  have inside : settled a.text = (generic t, (generic t).render) := by
    rw [settled, h.generic_text, args]
    exact if_pos head
  rw [returned, h.unqualified, h.not_deferred_text, inside]
  rfl

/-- A coroutine returns the last of its arguments. -/
theorem returned_coroutine (h : a.IsProper) (head : a.head = "Coroutine".toList)
    {first : List Char} {rest : List (List Char)} (args : a.parts.args = first :: rest) :
    returned a.text = valueOf (rest.getLastD first) := by
  have present : isOneOf Vocabulary.deferred a.parts.head = false := by
    rw [show a.parts.head = "Coroutine".toList from head]
    decide
  rw [returned_eq h.unqualified h.not_deferred_text (by rwa [h.generic_text]), h.generic_text,
    h.returnedSettled_wrapper (by rw [head]; decide), h.valueOf_coroutine head args]

/-- A deferred value that is written again leaves the base of the value. -/
theorem returnedSettled_render (h : a.IsProper) (head : isOneOf Vocabulary.deferred a.head = true)
    {t : List Char} {rest : List (List Char)} (args : a.parts.args = t :: rest) :
    returnedSettled a.parts a.parts.render = valueOf t := by
  have wrapper : String.ofList a.head ∈ wrappers := List.mem_cons_of_mem _ (isOneOf_eq_true.1 head)
  have again := h.rewritten.returnedSettled_wrapper wrapper
  rw [h.parts_rewritten] at again
  rw [h.render_parts, again]
  exact h.rewritten.valueOf_deferred head (by rw [h.parts_rewritten, args])

/-- An application returns the same as written again, unless one of the spellings is a word of the
vocabulary. -/
theorem returnedSettled_rewritten (h : a.IsProper)
    (words : Vocabulary.canonical? a.text = Vocabulary.canonical? a.parts.render) :
    returnedSettled a.parts a.parts.render = returnedSettled a.parts a.text := by
  rw [h.render_parts] at words ⊢
  have members : tupleElements? (a.parts.applied '<' '>').text = tupleElements? a.text := by
    rw [h.rewritten.tupleElements?_text, h.tupleElements?_text, h.parts_rewritten]
    rfl
  have base := h.shapeChars_base_congr h.rewritten h.parts_rewritten.symm words
  rw [returnedSettled, returnedSettled, members, base]

end Application.IsProper

/-! ## Types that read the same behind a wrapper -/

/-- A type that says the same when it is taken apart and written again: it has no qualifier, is not
deferred itself, and either is written as it was or applies an identifier to arguments. -/
structure IsSteady (t : List Char) : Prop where
  unqualified : stripQualifiers t = t
  present : isOneOf Vocabulary.deferred (generic t).head = false
  rewritten : (generic t).render = t ∨ ∃ a : Application, a.IsProper ∧ a.text = t ∧
    Vocabulary.canonical? t = Vocabulary.canonical? (generic t).render

namespace IsSteady

variable {t : List Char}

theorem bare (h : IsSteady t) : isOneOf Vocabulary.deferred t = false := by
  have words : ∀ w ∈ Vocabulary.deferred, generic w.toList = ⟨w.toList, []⟩ := by
    decide +kernel
  rw [Bool.eq_false_iff]
  intro bare
  have head := words _ (isOneOf_eq_true.1 bare)
  rw [String.toList_ofList] at head
  have present := h.present
  rw [head, bare] at present
  cases present

/-- A steady type returns the same written again. -/
theorem returned_eq (h : IsSteady t) :
    returned t = returnedSettled (generic t) (generic t).render := by
  rw [Spelling.returned_eq h.unqualified h.bare h.present]
  rcases h.rewritten with same | ⟨a, proper, rfl, words⟩
  · rw [same]
  · rw [proper.generic_text] at words ⊢
    exact (proper.returnedSettled_rewritten words).symm

/-- A steady type that is neither a fallible result nor a tuple returns its base. -/
theorem returned_eq_valueOf (h : IsSteady t)
    (infallible : isOneOf fallibleHeads (generic t).head = false ∨ (generic t).args = [])
    (single : tupleElements? t = none) : returned t = valueOf t := by
  rw [Spelling.returned_eq h.unqualified h.bare h.present,
    returnedSettled_of_not_fallible infallible, single]

end IsSteady

/-! ## Deferred values -/

/-- The heads of deferred values are identifiers. -/
theorem deferred_isIdentifier : ∀ w ∈ Vocabulary.deferred, isIdentifier w.toList = true ∧
    isOneOf Vocabulary.deferred w.toList = true := by
  decide +kernel

section Written

variable {t : List Char} {opener closer : Char}

/-- A deferred value returns what its argument returns once settled. -/
theorem returned_written_deferred {w : String} (hw : w ∈ Vocabulary.deferred)
    (argument : IsArgument t) (arrow : hasArrow t = false) (pair : isPair opener closer) :
    returned (Generic.written opener closer ⟨w.toList, [t]⟩) =
      returnedSettled (generic t) (generic t).render := by
  obtain ⟨identifier, deferred⟩ := deferred_isIdentifier w hw
  have arguments : ∀ b ∈ [t], IsArgument b ∧ hasArrow b = false := by simp [argument, arrow]
  have proper : (Generic.applied opener closer ⟨w.toList, [t]⟩).IsProper :=
    Generic.isProper_applied identifier (List.cons_ne_nil _ _) arguments pair
  rw [← Generic.text_applied]
  exact proper.returned_deferred deferred (congrArg Generic.args (Generic.parts_applied arguments))

/-- A coroutine with three arguments returns the third. -/
theorem returned_written_coroutine {x y : List Char} (hx : IsArgument x ∧ hasArrow x = false)
    (hy : IsArgument y ∧ hasArrow y = false) (ht : IsArgument t ∧ hasArrow t = false)
    (pair : isPair opener closer) :
    returned (Generic.written opener closer ⟨"Coroutine".toList, [x, y, t]⟩) = valueOf t := by
  have arguments : ∀ b ∈ [x, y, t], IsArgument b ∧ hasArrow b = false := by simp [hx, hy, ht]
  have identifier : isIdentifier "Coroutine".toList = true := by decide +kernel
  have proper : (Generic.applied opener closer ⟨"Coroutine".toList, [x, y, t]⟩).IsProper :=
    Generic.isProper_applied identifier (List.cons_ne_nil _ _) arguments pair
  rw [← Generic.text_applied]
  exact proper.returned_coroutine rfl (congrArg Generic.args (Generic.parts_applied arguments))

end Written

/-- **A deferred wrapper changes nothing about a steady type.  Any other type is taken apart and
written again behind it, and a wrapper inside a wrapper leaves the base of what is inside both.  A
coroutine returns the base of its last argument, which is all that the argument returns if it is
steady and neither a fallible result nor a tuple.** -/
theorem returnsChars_deferred {t : List Char} (argument : IsArgument t) (arrow : hasArrow t = false)
    {opener closer : Char} (pair : isPair opener closer) :
    (∀ w ∈ Vocabulary.deferred,
      (IsSteady t →
        returnsChars (Generic.written opener closer ⟨w.toList, [t]⟩) = returnsChars t) ∧
      returned (Generic.written opener closer ⟨w.toList, [t]⟩) =
        returnedSettled (generic t) (generic t).render ∧
      ∀ a : Application, a.IsProper → a.text = t → isOneOf Vocabulary.deferred a.head = true →
        ∀ u, a.parts.args.head? = some u →
          returned (Generic.written opener closer ⟨w.toList, [t]⟩) = valueOf u) ∧
    ∀ x y, IsArgument x ∧ hasArrow x = false → IsArgument y ∧ hasArrow y = false →
      returned (Generic.written opener closer ⟨"Coroutine".toList, [x, y, t]⟩) = valueOf t ∧
      (IsSteady t → isOneOf fallibleHeads (generic t).head = false ∨ (generic t).args = [] →
        tupleElements? t = none →
        returnsChars (Generic.written opener closer ⟨"Coroutine".toList, [x, y, t]⟩) =
          returnsChars t) := by
  refine ⟨fun w hw => ?_, fun x y hx hy => ?_⟩
  · have outer := returned_written_deferred hw argument arrow pair
    refine ⟨fun steady => ?_, outer, ?_⟩
    · rw [returnsChars_eq, returnsChars_eq, outer, steady.returned_eq]
    · rintro a inner rfl head u args
      obtain ⟨rest, args⟩ := List.head?_eq_some_iff.1 args
      rw [outer, inner.generic_text, inner.returnedSettled_render head args]
  · have value := returned_written_coroutine hx hy ⟨argument, arrow⟩ pair
    refine ⟨value, fun steady infallible single => ?_⟩
    rw [returnsChars_eq, returnsChars_eq, value, steady.returned_eq_valueOf infallible single]

/-- A pair that arrives later is a pair. -/
theorem returnsChars_deferred_pair :
    IsArgument "tuple[User, Error]".toList ∧ hasArrow "tuple[User, Error]".toList = false ∧
      returnsChars "Awaitable[tuple[User, Error]]".toList =
        returnsChars "tuple[User, Error]".toList :=
  have steady : IsSteady "tuple[User, Error]".toList :=
    { unqualified := by decide +kernel
      present := by decide +kernel
      rewritten := .inr ⟨⟨"tuple".toList, [], '[', ']', "User, Error".toList⟩,
        ⟨by decide +kernel, nofun, .inr ⟨rfl, rfl⟩, by decide +kernel, by decide +kernel,
          by decide +kernel, by decide +kernel⟩, rfl, by decide +kernel⟩ }
  ⟨by decide +kernel, by decide +kernel,
    ((returnsChars_deferred (by decide +kernel) (by decide +kernel) (.inr ⟨rfl, rfl⟩)).1
      "Awaitable" (by decide)).1 steady⟩

/-- A coroutine that ends in a pair returns one value, and a wrapper behind a wrapper is taken for a
value. -/
theorem wrappers_hide_values :
    (IsArgument "tuple[User, Error]".toList ∧
      returnsChars "Coroutine[Any, Any, tuple[User, Error]]".toList = ["any"] ∧
      returnsChars "tuple[User, Error]".toList = ["user", "error"]) ∧
    IsArgument "Task".toList ∧ returnsChars "Promise<Task>".toList = ["task"] ∧
      returnsChars "Task".toList = [] := by
  decide +kernel

end Concord.Spelling
