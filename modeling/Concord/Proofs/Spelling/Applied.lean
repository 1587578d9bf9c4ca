import Concord.Proofs.Spelling.Pieces
import Concord.Proofs.Spelling.Reading
import Concord.Proofs.Spelling.Tuple
import Concord.Spelling.Returned

/-!
# Concord.Proofs.Spelling.Applied

Identifiers applied to arguments, with whatever white space around the arguments and in either kind
of brackets: `Map<string,int>`, `Map< string, int >` and `Map[string, int]`.  Such a spelling is
read by its head and its arguments alone:

* `tupleElements?_text` — whether it is a tuple;
* `shapeChars_base_congr` — its base, unless the whole spelling is a word of the vocabulary.
-/

namespace Concord.Spelling

open Text

theorem marks_notIdentifier : marks.all (fun c => !isIdentifierChar c) = true := by
  decide +kernel

/-- Marks stand in no identifier. -/
theorem notIdentifier_of_mark {c : Char} (hc : c ∈ marks) : isIdentifierChar c = false := by
  simpa using List.all_eq_true.1 marks_notIdentifier c hc

/-- An identifier in front of a text in brackets. -/
structure Application where
  head : List Char
  gap : List Char := []
  opener : Char
  closer : Char
  content : List Char
deriving DecidableEq, Repr

namespace Application

/-- What stands in front of the brackets. -/
def front (a : Application) : List Char := a.head ++ a.gap

/-- How the application is written. -/
def text (a : Application) : List Char := a.front ++ a.opener :: (a.content ++ [a.closer])

/-- The head and the arguments. -/
def parts (a : Application) : Generic := ⟨a.head, splitCommas a.content⟩

theorem getLast?_text (a : Application) : a.text.getLast? = some a.closer :=
  getLast?_group a.front a.content a.opener a.closer

theorem opener_mem_text (a : Application) : a.opener ∈ a.text :=
  List.mem_append_right _ List.mem_cons_self

theorem lead_text (a : Application) : a.front ++ [a.opener] <+: a.text :=
  ⟨a.content ++ [a.closer], by simp [text]⟩

/-- The brackets match and hold an argument; white space alone stands in front of them, and the
identifier is no qualifier. -/
structure IsProper (a : Application) : Prop where
  head : isIdentifier a.head = true
  gap : ∀ c ∈ a.gap, isBlank c = true
  pair : isPair a.opener a.closer
  nested : IsNested a.content
  arrow : hasArrow a.content = false
  args : splitCommas a.content ≠ []
  unqualified : stripQualifiers a.text = a.text

namespace IsProper

variable {a : Application}

/-! ## What stands in front -/

theorem isHead (h : a.IsProper) : IsHead a.head := .of_isIdentifier h.head

/-- What a proper application is applied to is not empty. -/
theorem content_ne_nil (h : a.IsProper) : a.content ≠ [] := by
  intro empty
  refine h.args ?_
  rw [empty, splitCommas, splitBy, pieces]
  rfl

theorem trim_front (h : a.IsProper) : trim a.front = a.head :=
  trim_append_blanks h.isHead.trimmed h.isHead.nonempty h.gap

theorem flat_front (h : a.IsProper) : ∀ c ∈ a.front, isOpener c = false ∧ isCloser c = false :=
  List.forall_mem_append.2 ⟨h.isHead.flat, fun c hc => flat_of_isBlank (h.gap c hc)⟩

/-- The front holds no characters but those of the head and blanks. -/
theorem notMem_front (h : a.IsProper) {c : Char} (blank : isBlank c = false)
    (other : isIdentifierChar c = false) : c ∉ a.front := by
  intro hc
  rcases List.mem_append.1 hc with hc | hc
  · exact notMem_of_isIdentifier h.head other hc
  · rw [h.gap c hc] at blank
    cases blank

/-- An application begins with an identifier. -/
theorem head?_text_ne (h : a.IsProper) {c : Char} (other : isIdentifierChar c = false) :
    a.text.head? ≠ some c := by
  rw [text, front, List.append_assoc, List.head?_append_of_ne_nil _ h.isHead.nonempty]
  exact fun first => notMem_of_isIdentifier h.head other (List.mem_of_head? first)

/-! ## Head and arguments -/

/-- The text of a proper application has nothing to trim. -/
theorem trim_text (h : a.IsProper) : trim a.text = a.text := by
  refine trim_eq_self (fun c hc => ?_) (fun c hc => ?_)
  · rw [text, front, List.append_assoc, List.head?_append_of_ne_nil _ h.isHead.nonempty] at hc
    exact (notBlank_of_trim_eq_self h.isHead.trimmed).1 c hc
  · rw [getLast?_text, Option.some.injEq] at hc
    exact hc ▸ notBlank_of_isCloser h.pair.isCloser

/-- A proper application is read as its head and its arguments. -/
theorem generic_text (h : a.IsProper) : generic a.text = a.parts := by
  have group := openGroup_of_isNested h.pair.isOpener h.nested
    ((arrows_eq_zero_iff a.content).2 h.arrow) a.front
  rw [text, generic_of_openGroup h.pair group h.trim_text,
    if_pos ⟨List.append_ne_nil_of_left_ne_nil h.isHead.nonempty _, h.content_ne_nil⟩, h.trim_front]
  rfl

theorem isEmpty_args (h : a.IsProper) : (splitCommas a.content).isEmpty = false := by
  simpa using h.args

theorem isArgument_of_mem_args (h : a.IsProper) {b : List Char} (hb : b ∈ a.parts.args) :
    IsArgument b ∧ hasArrow b = false := isArgument_of_mem_splitCommas h.nested h.arrow hb

/-- Bars stand inside the brackets only. -/
theorem splitBy_bar_text (h : a.IsProper) : splitBy "|" a.text = [a.text] :=
  splitBy_of_pieces h.trim_text (List.ne_nil_of_mem a.opener_mem_text)
    (pieces_group (h.notMem_front (by decide) (notIdentifier_of_mark (by decide))) rfl rfl
      h.flat_front h.pair.isOpener h.pair.isCloser h.nested h.arrow)

/-! ## Layers -/

/-- No word without brackets is an application. -/
theorem isOneOf_text {words : List String}
    (words' : ∀ w ∈ words, '<' ∉ w.toList ∧ '[' ∉ w.toList) (h : a.IsProper) :
    isOneOf words a.text = false := by
  refine isOneOf_eq_false_of_mem a.opener_mem_text fun w hw here => ?_
  obtain ⟨angle, square⟩ := words' w hw
  exact h.pair.ne_opener (fun same => angle (same ▸ here)) (fun same => square (same ▸ here)) rfl

/-- A proper application is a function by its head only. -/
theorem isFunction_text (h : a.IsProper) :
    isFunction a.text = isOneOf Vocabulary.functions a.head := by
  have words : ∀ w ∈ functionLeads, '(' ∈ w.toList ∧ '<' ∉ w.toList ∧ '[' ∉ w.toList := by decide
  have paren : '(' ∉ a.front ++ [a.opener] := by
    simpa [h.notMem_front (c := '(') (by decide) (notIdentifier_of_mark (by decide))] using
      h.pair.ne_opener (c := '(') (by decide) (by decide)
  rw [isFunction_of_begins, h.generic_text]
  · rfl
  · intro w hw
    obtain ⟨here, angle, square⟩ := words w hw
    refine begins_eq_false_of_lead a.lead_text (fun beyond => ?_) here paren
    exact h.pair.ne_opener (fun same => angle (same ▸ beyond)) (fun same => square (same ▸ beyond)) rfl

/-- Whether an application is a tuple is told by its head and its arguments. -/
theorem tupleElements?_text (h : a.IsProper) : tupleElements? a.text =
    if isTupleHead a.head && (1 < a.parts.args.length && !isHomogeneous a.parts.args) then
      some (a.parts.args.map member)
    else none := by
  rw [tupleElements?, h.unqualified, tupleMembers?, h.generic_text,
    isEnclosed_eq_false (h.head?_text_ne (notIdentifier_of_mark (by decide))),
    isEnclosed_eq_false (h.head?_text_ne (notIdentifier_of_mark (by decide)))]
  cases tuple : isTupleHead a.head <;> simp [parts, h.isEmpty_args, tuple]

/-- The brackets of an application are not empty. -/
theorem before?_brackets_text (h : a.IsProper) : before? "[]" a.text = none :=
  before?_brackets_of_isNested h.content_ne_nil h.nested

/-- A proper application is an array by its head, or as a homogeneous tuple. -/
theorem element?_text (h : a.IsProper) : element? a.text =
    if isOneOf Vocabulary.sequences a.head || isTupleHead a.head && isHomogeneous a.parts.args then
      a.parts.args.head?
    else none := by
  have first := h.head?_text_ne (c := '[') (notIdentifier_of_mark (by decide))
  rw [element?, afterLength?_eq_none first, h.before?_brackets_text, begins_bracket_eq_false first,
    h.generic_text]
  rfl

/-- A proper application is optional by its head, or as a union with an absent member. -/
theorem optional?_text (h : a.IsProper) : optional? a.text =
    if isOneOf Vocabulary.optionals a.head then a.parts.args.head?
    else if a.head = "Union".toList ∧ 1 < a.parts.args.length ∧ a.parts.args.any isNullish then
      some (presentUnion a.parts.args)
    else none := by
  have question : before? "?" a.text = none := by
    exact before?_eq_none_of_last a.getLast?_text (d := '?') rfl
      (h.pair.ne_closer (by decide) (by decide)).symm
  rw [optional?, question, unionMembers, h.generic_text, h.splitBy_bar_text]
  simp only [parts, h.isEmpty_args, Bool.not_false, Bool.and_true]
  by_cases union : a.head = "Union".toList
  · simp only [union, if_true, true_and, Bool.and_eq_true, decide_eq_true_eq]
  · simp only [union, if_false, false_and, List.length_singleton]
    rfl

/-- A proper application is a union exactly if its head is that of unions. -/
theorem isUnion_text (h : a.IsProper) : isUnion a.text = decide (a.head = "Union".toList) := by
  rw [isUnion, h.generic_text, h.splitBy_bar_text]
  simp only [parts, h.isEmpty_args, Bool.not_false, Bool.and_true, List.length_singleton]
  exact Bool.or_false _

/-- Applications of one head have one name for their base. -/
theorem baseName_congr {b : Application} (ha : a.IsProper) (hb : b.IsProper)
    (same : a.head = b.head) : baseName a.text = baseName b.text := by
  have head : (trim b.head).isEmpty = false := by simpa [hb.isHead.trimmed] using hb.isHead.nonempty
  rw [baseName, baseName, ha.generic_text, hb.generic_text]
  simp only [parts, same, head]
  rfl

/-! ## Bases -/

/-- Only the head of Go's mappings begins with theirs. -/
theorem head_of_begins_map (h : a.IsProper) (starts : begins "map[" a.text = true) :
    a.head = "map".toList := by
  have word : "map[".toList = "map".toList ++ ['['] := rfl
  have apart : '[' ∉ a.front := h.notMem_front (by decide) (notIdentifier_of_mark (by decide))
  rw [begins, List.isPrefixOf_iff_prefix] at starts
  suffices same : "map".toList ++ ['['] = a.front ++ [a.opener] by
    rw [← h.trim_front, ← List.append_inj_left' same rfl]
    rfl
  rcases List.prefix_or_prefix_of_prefix starts a.lead_text with short | long
  · rw [word] at short
    refine (List.prefix_concat_iff.1 short).resolve_right fun inside => apart (inside.subset ?_)
    exact List.mem_append_right _ List.mem_cons_self
  · rw [word] at long
    refine ((List.prefix_concat_iff.1 long).resolve_right fun inside => ?_).symm
    have here := inside.subset (List.mem_append_right _ List.mem_cons_self)
    refine h.pair.ne_opener (fun same => ?_) (fun same => ?_) rfl
    · exact absurd (same ▸ here) (by decide)
    · exact absurd (same ▸ here) (by decide)

theorem isMapping_text (h : a.IsProper) :
    isMapping a.text = (begins "map[" a.text || isOneOf Vocabulary.maps a.head) := by
  rw [isMapping, h.generic_text, h.isOneOf_text (by decide), Bool.or_false]
  rfl

/-- An application of a head that is neither a function nor a tuple is read by its element, as a
map, or by what is left if it is absent. -/
theorem peelPlain_text (h : a.IsProper) (function : isOneOf Vocabulary.functions a.head = false)
    (tuple : isTupleHead a.head = false) (p : Bool) :
    peelBare.peelPlain p a.text =
      match (if isOneOf Vocabulary.sequences a.head then a.parts.args.head? else none) with
      | some element => .around p true element
      | none =>
        if isMapping a.text then .whole { base := "map", isPointer := p, isMap := true }
        else match optional? a.text with
          | some type => .around true false type
          | none =>
            if isUnion a.text then .whole { base := "any", isPointer := p }
            else .whole { base := baseName a.text, isPointer := p } := by
  rw [peelBare.peelPlain, h.isFunction_text, function, h.tupleElements?_text, tuple, h.element?_text,
    tuple, h.isOneOf_text (by decide), Bool.false_and, Bool.false_and, Bool.or_false]
  rfl

/-- A map in either kind of brackets has the base of maps. -/
theorem peelPlain_map (h : a.IsProper) (head : a.head = "map".toList) (p : Bool) :
    (peelBare.peelPlain p a.text).shape.base = "map" := by
  have kind : isOneOf Vocabulary.functions a.head = false ∧ isTupleHead a.head = false ∧
      isOneOf Vocabulary.sequences a.head = false := by
    rw [head]
    decide
  have noOptional : optional? a.text = none := by
    rw [h.optional?_text, head]
    rfl
  have noUnion : isUnion a.text = false := by
    rw [h.isUnion_text, head]
    rfl
  have base : baseName a.text = "map" := by
    rw [baseName, h.generic_text]
    simp only [parts, head]
    rfl
  rw [h.peelPlain_text kind.1 kind.2.1, kind.2.2, noOptional, noUnion, base]
  cases isMapping a.text <;> rfl

/-- What is left once wrappers are off depends on the head and the arguments only. -/
theorem peelPlain_congr {b : Application} (ha : a.IsProper) (hb : b.IsProper)
    (same : a.parts = b.parts) (p : Bool) :
    (peelBare.peelPlain p a.text).shape.base = (peelBare.peelPlain p b.text).shape.base := by
  have head : a.head = b.head := congrArg Generic.head same
  by_cases map : b.head = "map".toList
  · rw [ha.peelPlain_map (head.trans map), hb.peelPlain_map map]
  · have mapping {c : Application} (hc : c.IsProper) (other : c.head = b.head) :
        isMapping c.text = isOneOf Vocabulary.maps b.head := by
      have apart : begins "map[" c.text = false := by
        rw [Bool.eq_false_iff]
        intro starts
        exact map (other ▸ hc.head_of_begins_map starts)
      rw [hc.isMapping_text, apart, Bool.false_or, other]
    rw [peelBare.peelPlain, peelBare.peelPlain, ha.isFunction_text, hb.isFunction_text,
      ha.tupleElements?_text, hb.tupleElements?_text, ha.element?_text, hb.element?_text,
      ha.isOneOf_text (by decide), hb.isOneOf_text (by decide), mapping ha head, mapping hb rfl,
      ha.optional?_text, hb.optional?_text, ha.isUnion_text, hb.isUnion_text,
      ha.baseName_congr hb head, same, head]

/-- An application has no mark of a pointer in front. -/
theorem peel_text (h : a.IsProper) : peel a.text = peelBare false a.text :=
  peel_eq_peelBare h.unqualified (List.ne_nil_of_mem a.opener_mem_text)
    (h.head?_text_ne (notIdentifier_of_mark (by decide)))
    (h.head?_text_ne (notIdentifier_of_mark (by decide)))

/-- **The base of an application is told by its head and its arguments**, unless the whole spelling
is a word of the vocabulary. -/
theorem shapeChars_base_congr {b : Application} (ha : a.IsProper) (hb : b.IsProper)
    (same : a.parts = b.parts)
    (words : Vocabulary.canonical? a.text = Vocabulary.canonical? b.text) :
    (shapeChars a.text).base = (shapeChars b.text).base := by
  have plain := ha.peelPlain_congr hb same false
  rw [shapeChars_eq, shapeChars_eq, ha.peel_text, hb.peel_text, peelBare, peelBare, words,
    ha.generic_text, hb.generic_text, same]
  cases Vocabulary.canonical? b.text with
  | some base => rfl
  | none =>
    dsimp only
    cases b.parts.args with
    | nil => exact plain
    | cons first rest =>
      dsimp only
      split_ifs
      · rfl
      · rfl
      · rfl
      · exact plain

end IsProper
end Application

/-! ## Writing -/

/-- A head in front of a row of arguments. -/
def Generic.applied (opener closer : Char) (g : Generic) : Application where
  head := g.head
  opener := opener
  closer := closer
  content := listed g.args

namespace Generic

variable {g : Generic} {opener closer : Char}

theorem text_applied : (g.applied opener closer).text = g.written opener closer := by
  rw [Application.text, Application.front, applied, List.append_nil]
  rfl

theorem parts_applied (arguments : ∀ b ∈ g.args, IsArgument b ∧ hasArrow b = false) :
    (g.applied opener closer).parts = g := by
  rw [Application.parts, applied, splitCommas_listed (fun b hb => (arguments b hb).1)
    (any_hasArrow_eq_false fun b hb => (arguments b hb).2)]

/-- A head is properly applied to arguments that are nested and have no arrows. -/
theorem isProper_applied (head : isIdentifier g.head = true) (nonempty : g.args ≠ [])
    (arguments : ∀ b ∈ g.args, IsArgument b ∧ hasArrow b = false) (pair : isPair opener closer) :
    (g.applied opener closer).IsProper where
  head := head
  gap := nofun
  pair := pair
  nested := isNested_listed fun b hb => (arguments b hb).1.nested
  arrow := by
    rw [← arrows_eq_zero_iff, applied, arrows_listed_eq_zero_iff]
    exact any_hasArrow_eq_false fun b hb => (arguments b hb).2
  args := (congrArg Generic.args (parts_applied arguments)).trans_ne nonempty
  unqualified := by
    rw [text_applied]
    refine stripQualifiers_written pair.isOpener pair.isCloser
      (IsHead.of_isIdentifier head).trimmed ?_ ?_
    · intro blank
      exact absurd (isIdentifierChar_isFlat (isIdentifierChar_of_mem head blank)).1 (by decide)
    · exact fun quote => notMem_of_isIdentifier head (notIdentifier_of_mark (by decide))
        (List.mem_of_head? quote)

end Generic

/-! ## Writing again -/

namespace Application.IsProper

variable {a : Application}

theorem rewritten (h : a.IsProper) : (a.parts.applied '<' '>').IsProper :=
  Generic.isProper_applied h.head h.args (fun _ hb => h.isArgument_of_mem_args hb) (.inl ⟨rfl, rfl⟩)

theorem parts_rewritten (h : a.IsProper) : (a.parts.applied '<' '>').parts = a.parts :=
  Generic.parts_applied fun _ hb => h.isArgument_of_mem_args hb

/-- The head and the arguments are rendered in angle brackets. -/
theorem render_parts (h : a.IsProper) : a.parts.render = (a.parts.applied '<' '>').text := by
  rw [Generic.text_applied, Generic.render, Generic.written, parts, h.isEmpty_args,
    if_neg Bool.false_ne_true, List.append_assoc, List.cons_append]
  rfl

end Application.IsProper

end Concord.Spelling
