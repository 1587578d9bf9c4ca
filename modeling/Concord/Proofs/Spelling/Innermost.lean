import Concord.Proofs.Spelling.Reading

/-!
# Concord.Proofs.Spelling.Innermost

Spellings that no layer surrounds although they hold marks.  All of their shape is a base, and the
base is the last segment of the head (`baseName_of_segments`).
-/

namespace Concord.Spelling

open Text

/-- A spelling with a marked head on which every test for a layer fails. -/
structure IsLayerless (s : List Char) : Prop where
  unqualified : stripQualifiers s = s
  unknown : Vocabulary.canonical? s = none
  headMarked : IsMarked (generic s).head
  marked : IsMarked s
  first : ∀ c ∈ ['*', '&'], s.head? ≠ some c
  function : isFunction s = false
  tuple : tupleElements? s = none
  element : element? s = none
  map : begins "map[" s = false
  optional : before? "?" s = none
  union : splitBy "|" s = [s]

namespace IsLayerless

variable {s : List Char}

theorem isMapping_eq_false (h : IsLayerless s) : isMapping s = false := by
  have apart : ∀ w ∈ Vocabulary.maps, w.toList.all Char.isAlphanum = true := by decide
  simp [isMapping, h.map, h.headMarked.isOneOf apart, h.marked.isOneOf apart]

theorem head_ne_union (h : IsLayerless s) : (generic s).head ≠ "Union".toList :=
  h.headMarked.ne (by decide)

/-- A text without layers is no optional. -/
theorem optional?_eq_none (h : IsLayerless s) : optional? s = none := by
  have optional : isOneOf Vocabulary.optionals (generic s).head = false :=
    h.headMarked.isOneOf (by decide)
  rw [optional?, h.optional, unionMembers, if_neg h.head_ne_union, h.union]
  simp [optional]

/-- A text without layers is no union. -/
theorem isUnion_eq_false (h : IsLayerless s) : isUnion s = false := by
  rw [isUnion, h.union, decide_eq_false h.head_ne_union]
  rfl

/-- **All of the shape is a base.** -/
theorem shapeChars_eq (h : IsLayerless s) : shapeChars s = { base := baseName s } := by
  have plain : peelBare.peelPlain false s = .whole { base := baseName s } := by
    rw [peelBare.peelPlain, h.function, h.tuple, h.element, h.marked.isOneOf (by decide),
      h.isMapping_eq_false, h.optional?_eq_none, h.isUnion_eq_false]
    rfl
  rw [Spelling.shapeChars_eq, peel_eq_peelBare h.unqualified h.marked.ne_nil
    (h.first _ (by decide)) (h.first _ (by decide)), peelBare_of_isMarked h.unknown h.headMarked,
    plain, Layer.shape]

end IsLayerless

/-- A spelling without layers that does not begin with a bracket either. -/
structure IsInnermost (s : List Char) : Prop where
  unqualified : stripQualifiers s = s
  unknown : Vocabulary.canonical? s = none
  headMarked : IsMarked (generic s).head
  marked : IsMarked s
  first : ∀ c ∈ ['*', '&', '['], s.head? ≠ some c
  function : isFunction s = false
  tuple : tupleElements? s = none
  array : before? "[]" s = none
  map : begins "map[" s = false
  optional : before? "?" s = none
  union : splitBy "|" s = [s]

namespace IsInnermost

variable {s : List Char}

/-- An innermost text is no array. -/
theorem element?_eq_none (h : IsInnermost s) : element? s = none := by
  have square := h.first '[' (by decide)
  have sequence : isOneOf Vocabulary.sequences (generic s).head = false :=
    h.headMarked.isOneOf (by decide)
  rw [element?, afterLength?_eq_none square, h.array, begins_bracket_eq_false square]
  simp [sequence, h.headMarked.isTupleHead_eq_false]

theorem isLayerless (h : IsInnermost s) : IsLayerless s :=
  ⟨h.unqualified, h.unknown, h.headMarked, h.marked,
    fun c hc => h.first c (List.mem_append_left ['['] hc), h.function, h.tuple, h.element?_eq_none,
    h.map, h.optional, h.union⟩

/-- The shape of an innermost text is that of its name. -/
theorem shapeChars_eq (h : IsInnermost s) : shapeChars s = { base := baseName s } :=
  h.isLayerless.shapeChars_eq

end IsInnermost

/-- The base is the last segment of a head that is not in the vocabulary. -/
theorem baseName_of_segments {s last : List Char} {front : List (List Char)}
    (trimmed : trim (generic s).head = (generic s).head) (nonempty : (generic s).head ≠ [])
    (unknown : Vocabulary.canonical? (generic s).head = none)
    (split : segments (generic s).head = front ++ [last]) (filled : last ≠ []) :
    baseName s = wordBase last := by
  have whole : (generic s).head.isEmpty = false := by simpa using nonempty
  have read : ((segments (generic s).head).filter (· ≠ [])).getLastD (generic s).head = last := by
    simp [split, List.filter_append, filled]
  rw [baseName]
  simp only [trimmed, whole, Bool.false_eq_true, if_false, unknown, read]
  rfl

end Concord.Spelling
