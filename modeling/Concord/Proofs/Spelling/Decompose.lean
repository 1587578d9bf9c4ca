import Concord.Proofs.Spelling.Union

/-!
# Concord.Proofs.Spelling.Decompose

The shape of a layered spelling.  A reader takes one layer after the other off the row of a spelling
(`Row.shapeChars_text`), in an order of its own, and each time what is left is the text of a row that
weighs less and has all other layers.  So every layer is found, and nothing else is, which is
`shape_spelled`.
-/

namespace Concord.Spelling

open Text

/-- The base of an atom: the vocabulary's, for the atom or for its compared form, or else that form
itself. -/
def atomBase (name : List Char) : String :=
  (Vocabulary.lookup? name).getD
    ((Vocabulary.lookup? (Name.normalizeChars name)).getD (String.ofList (Name.normalizeChars name)))

/-- The shape that a row should have. -/
def Row.shape (r : Row) : TypeShape where
  base := atomBase r.core.spelled.name
  isPointer := r.has .pointer || r.has .optional
  isArray := r.has .array

namespace Row

variable {r : Row}

/-! ## Layers in front -/

/-- The length of a fixed array is taken off in front of its element. -/
theorem afterLength?_indexed {digits : List Char} (h : digits.all Char.isDigit = true)
    (s : List Char) : afterLength? ((Front.indexed digits).text ++ s) = some s := by
  have decimal : ∀ c ∈ digits, isDecimal c = true := fun c hc => by
    have digit := List.all_eq_true.1 h c hc
    have alphanumeric := List.all_eq_true.1 (all_isAlphanum_of_isDigit h) c hc
    exact of_isSpellingChar (P := fun c => c.isDigit = true → isDecimal c = true)
      (by decide +kernel) (isSpellingChar_of_isAlphanum alphanumeric) digit
  have drop : (digits ++ ([']'] ++ s)).dropWhile isDecimal = ']' :: s := by
    rw [List.dropWhile_append_of_pos decimal]
    rfl
  rw [Front.text, List.cons_append, List.append_assoc, afterLength?, drop]
  rfl

/-- A row with a mark in front has a layer. -/
theorem isLayered_pushFront {f : Front} (proper : (r.pushFront f).IsProper) :
    IsLayered (r.pushFront f).text := by
  refine isLayered proper ?_
  unfold pushFront
  split <;> simp

/-- A row with a mark behind has a layer. -/
theorem isLayered_pushBack {b : Back} (proper : (r.pushBack b).IsProper) :
    IsLayered (r.pushBack b).text := by
  refine isLayered proper ?_
  unfold pushBack
  split <;> simp

/-- An array with its length in front. -/
theorem peel_indexed {digits : List Char} (proper : (r.pushFront (.indexed digits)).IsProper) :
    peel (r.pushFront (.indexed digits)).text = Kind.array.around r.text := by
  have layered := isLayered_pushFront proper
  have fits := (isProper_pushFront.1 proper).1
  rw [text_pushFront] at layered ⊢
  refine layered.peel_of_element? rfl ?_
  rw [element?, afterLength?_indexed fits]

/-- A pointer mark. -/
theorem shapeChars_pointer {f : Front} (proper : (r.pushFront f).IsProper)
    (pointer : f.kind = .pointer) :
    shapeChars (r.pushFront f).text = Kind.pointer.mark (shapeChars r.text) := by
  have whole := isSpelling proper
  obtain ⟨fits, inside⟩ := isProper_pushFront.1 proper
  rw [text_pushFront] at whole ⊢
  cases f with
  | indexed digits => cases pointer
  | star => exact shapeChars_of_mark (.inl rfl) whole (isSpelling inside) (by simpa [Front.fits] using fits)
  | ampersand =>
    exact shapeChars_of_mark (.inr rfl) whole (isSpelling inside) (by simpa [Front.fits] using fits)

/-! ## Layers behind -/

/-- A layer behind, where none is in front. -/
theorem peel_pushBack {b : Back} (proper : (r.pushBack b).IsProper) (clear : r.firstFronts = []) :
    peel (r.pushBack b).text = b.kind.around r.text := by
  have layered := isLayered_pushBack proper
  have front : (r.pushBack b).firstFronts = [] := by rw [firstFronts_pushBack, clear]
  have mark := beginsWithMark_text proper front
  have length := afterLength?_text proper front
  rw [text_pushBack] at layered mark length ⊢
  cases b with
  | brackets =>
    have inside : before? "[]" (r.text ++ Back.brackets.text) = some r.text :=
      before?_append r.text "[]"
    refine layered.peel_of_element? mark ?_
    rw [element?, length, inside]
  | question =>
    have inside : before? "?" (r.text ++ Back.question.text) = some r.text :=
      before?_append r.text "?"
    have last : (r.text ++ Back.question.text).getLast? = some '?' := List.getLast?_concat
    refine layered.peel_of_optional? mark (layered.element?_eq_none length ?_ ?_) ?_
    · exact before?_eq_none_of_last last (d := ']') rfl (by decide)
    · rw [ends_eq_false_of_last last (d := ']') rfl (by decide), Bool.and_false]
    · rw [optional?, inside]

end Row

/-! ## Cores -/

theorem IsAtom.isPlainWord {name : List Char} (h : IsAtom name) : IsPlainWord name where
  nonempty := (IsSpelling.of_isAtom h).nonempty
  plain c hc := (alphanumeric_isLawful (List.all_eq_true.1 h.alphanumeric c hc)).1

/-- An atom is no word with a meaning of its own. -/
theorem shapeChars_atom {name : List Char} (h : IsAtom name) :
    shapeChars name = { base := atomBase name } := by
  have word : name.filter isWordChar = name := List.filter_eq_self.2 fun c hc =>
    (alphanumeric_isLawful (List.all_eq_true.1 h.alphanumeric c hc)).2.1
  have filled : name.isEmpty = false := by simpa using (IsSpelling.of_isAtom h).nonempty
  have free {words : List String} (reserved : ∀ w ∈ words, w ∈ reservedWords) :
      isOneOf words name = false := by
    rw [isOneOf_eq_false]
    exact fun hw => h.free (reserved _ hw)
  rw [shapeChars_plain h.isPlainWord, plainShape, atomBase]
  cases Vocabulary.lookup? name with
  | some base => rfl
  | none =>
    rw [free (by decide +kernel), free (by decide +kernel), free (by decide +kernel), wordBase, word,
      filled]
    rfl

/-! ## Rows -/

namespace Row

theorem shape_pushFront (r : Row) (f : Front) : (r.pushFront f).shape = f.kind.mark r.shape := by
  simp only [shape, Kind.mark, has_pushFront, core_pushFront]
  cases f <;> simp [Front.kind, Bool.or_assoc, Bool.or_left_comm]

theorem shape_pushBack (r : Row) (b : Back) : (r.pushBack b).shape = b.kind.mark r.shape := by
  simp only [shape, Kind.mark, has_pushBack, core_pushBack]
  cases b <;> simp [Back.kind, Bool.or_assoc, Bool.or_left_comm]

/-- Alternatives in front without marks of their own hold no array. -/
theorem leadHas_filter (before : List (List Front)) :
    leadHas .array (before.filter (· ≠ [])) = leadHas .array before := by
  induction before with
  | nil => rfl
  | cons fs rest ih =>
    by_cases h : fs = []
    · rw [List.filter_cons_of_neg (by simpa using h), leadHas, ih, h]
      rfl
    · rw [List.filter_cons_of_pos (by simpa using h), leadHas, leadHas, ih]

/-- Alternatives behind without marks of their own hold no array. -/
theorem trailHas_filter (behind : List (List Back)) :
    trailHas .array (behind.filter (· ≠ [])) = trailHas .array behind := by
  induction behind with
  | nil => rfl
  | cons bs rest ih =>
    by_cases h : bs = []
    · rw [List.filter_cons_of_neg (by simpa using h), trailHas, ih, h]
      rfl
    · rw [List.filter_cons_of_pos (by simpa using h), trailHas, trailHas, ih]

/-- The members that are dropped say no more than that the value may be absent. -/
theorem shape_present {r : Row} (clearFront : r.firstFronts = []) (clearBack : r.lastBacks = [])
    (h : r.before ≠ [] ∨ r.behind ≠ []) : r.shape = Kind.optional.mark r.present.shape := by
  have optional : r.has .optional = true := by
    obtain ⟨r', rfl⟩ | ⟨r', rfl⟩ := exists_none clearFront clearBack h
    · rw [has_noneOr]
      rfl
    · rw [has_orNone]
      rfl
  have array : r.present.has .array = r.has .array := by
    rw [has, has, present, leadHas_filter, trailHas_filter]
  rw [shape, shape, optional, array, Bool.or_true]
  rfl

theorem has_core (c : Core) (kind : Kind) :
    ({ core := c } : Row).has kind = c.spelled.has kind := by
  simp [has, leadHas, trailHas]

/-- A core that is a layer has the shape of what is inside, marked. -/
theorem shape_layer {c : Core} {shell : Shell} {t : Spelled}
    (h : c.spelled = .layer shell t) : ({ core := c } : Row).shape = shell.kind.mark t.row.shape := by
  rw [shape, shape, has_core, has_core, has_core, h, t.has_row, t.has_row, t.has_row, t.name_row]
  simp only [Kind.mark, Spelled.has, Spelled.name]
  cases shell.kind <;> simp [Bool.or_assoc, Bool.or_left_comm]

/-- A mark in front makes a row heavier. -/
theorem weight_lt_pushFront (r : Row) (f : Front) : weight r.text < weight (r.pushFront f).text := by
  have filled : 0 < weight f.text := by
    cases f with
    | indexed digits => exact List.countP_pos_iff.2 ⟨'[', List.mem_cons_self, by decide⟩
    | star | ampersand => decide
  rw [text_pushFront, weight_append]
  omega

/-- **A row has the shape that its layers and its atom say.** -/
theorem shapeChars_text (r : Row) (proper : r.IsProper) : shapeChars r.text = r.shape := by
  induction hn : weight r.text using Nat.strong_induction_on generalizing r with
  | _ n ih =>
    subst hn
    -- What is left behind a layer is a row again, and weighs less.
    have smaller {r' : Row} {kind : Kind} (proper' : r'.IsProper)
        (h : peel r.text = kind.around r'.text) : shapeChars r.text = kind.mark r'.shape := by
      have less := weight_lt_of_peel h
      rw [(isSpelling proper).stripQualifiers_eq] at less
      rw [shapeChars_of_peel h, ih _ less r' proper' rfl]
    have inside {t : Spelled} {kind : Kind} (proper' : t.IsProper)
        (h : peel r.text = kind.around t.text) : shapeChars r.text = kind.mark t.row.shape := by
      refine smaller (Spelled.isProper_row proper') ?_
      rwa [t.text_row]
    cases r.view with
    | front r' f =>
      have proper' := (isProper_pushFront.1 proper).2
      rw [shape_pushFront]
      cases f with
      | indexed digits => exact smaller proper' (peel_indexed proper)
      | star =>
        rw [shapeChars_pointer proper rfl, ih _ (weight_lt_pushFront r' _) r' proper' rfl]
        rfl
      | ampersand =>
        rw [shapeChars_pointer proper rfl, ih _ (weight_lt_pushFront r' _) r' proper' rfl]
        rfl
    | back r' b clear =>
      rw [shape_pushBack]
      exact smaller (isProper_pushBack.1 proper) (peel_pushBack proper clear)
    | union _ clearFront clearBack members =>
      rw [shape_present clearFront clearBack members]
      refine smaller ⟨fun fs hfs => proper.before fs (List.mem_filter.1 hfs).1, proper.front,
        proper.core⟩ (peel_union proper clearFront clearBack members)
    | core c =>
      have text : ({ core := c } : Row).text = c.spelled.text := by
        simp [Row.text, center, leading, trailing, fronts, backs]
      cases c with
      | atom name =>
        rw [text]
        exact shapeChars_atom proper.core
      | bracketed t =>
        rw [shape_layer rfl]
        refine inside proper.core.2 ?_
        rw [text]
        exact peel_bracketed (Spelled.isSpelling proper.core.2)
      | wrapped w t =>
        rw [shape_layer rfl]
        refine inside proper.core.2 ?_
        rw [text]
        exact w.peel_apply (Spelled.isSpelling proper.core.2)

end Row

/-- **Every layer of a spelling is found, and nothing else is.**  The base is that of the atom; the
type is an array if one of the layers says so, and a pointer if one says that it is or that it may be
absent. -/
theorem shape_spelled (t : Spelled) (proper : t.IsProper) :
    shape (String.ofList t.text) =
      { base := atomBase t.name
        isPointer := t.has .pointer || t.has .optional
        isArray := t.has .array
        isMap := false } := by
  rw [shape, String.toList_ofList, ← t.text_row, t.row.shapeChars_text (Spelled.isProper_row proper),
    Row.shape, t.has_row, t.has_row, t.has_row, t.name_row]

/-- The layers of a text need not come off in the order in which they were put on. -/
theorem shape_spelled_arrayOrNone :
    let t : Spelled :=
      .layer .orNone (.layer (.front (.indexed ['3'])) (.layer (.wrapped .promise)
        (.layer .noneOr (.layer (.back .brackets) (.layer (.front .star) (.atom "HTTPServer".toList))))))
    t.IsProper ∧ String.ofList t.text = "[3]Promise<None | *HTTPServer[]> | None" ∧
      shape (String.ofList t.text) =
        { base := "http_server", isPointer := true, isArray := true, isMap := false } := by
  intro t
  have proper : t.IsProper := by decide +kernel
  refine ⟨proper, by decide, ?_⟩
  rw [shape_spelled t proper]
  decide +kernel

end Concord.Spelling