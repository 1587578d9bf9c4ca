import Concord.Proofs.Spelling.Ends

/-!
# Concord.Proofs.Spelling.Union

Rows as unions.  The text of a row is the union of its members (`Row.text_eq_intercalate`), which a
reader gets back by splitting it at bars outside brackets.  A member is absent exactly if it is `None`
without layers, and the absent members are dropped all at once, wherever they stand
(`Row.peel_union`).
-/

namespace Concord.Spelling

open Text

namespace Row

variable {r : Row}

/-! ## Members -/

/-- The members of a row, from the left. -/
def members (r : Row) : List (List Char) :=
  r.before.map (fun fs => fronts fs ++ "None".toList) ++
    r.center :: r.behind.reverse.map (fun bs => "None".toList ++ backs bs)

/-- The row without the members that are nothing but absent. -/
def present (r : Row) : Row :=
  { r with before := r.before.filter (· ≠ []), behind := r.behind.filter (· ≠ []) }

/-- One more member is joined behind the separator. -/
theorem intercalate_append_singleton (separator : List Char) {ms : List (List Char)} (h : ms ≠ [])
    (m : List Char) :
    separator.intercalate (ms ++ [m]) = separator.intercalate ms ++ (separator ++ m) := by
  induction ms with
  | nil => exact absurd rfl h
  | cons p ms ih =>
    cases ms with
    | nil =>
      rw [List.singleton_append, List.intercalate_cons_cons, List.intercalate_singleton,
        List.intercalate_singleton, List.append_assoc]
    | cons q ms =>
      rw [List.cons_append, List.intercalate_cons_of_ne_nil (by simp), ih (List.cons_ne_nil _ _),
        List.intercalate_cons_cons]
      simp only [List.append_assoc]

/-- Absent alternatives in front are joined as the leading text. -/
theorem intercalate_before (before : List (List Front)) {ms : List (List Char)} (h : ms ≠ []) :
    " | ".toList.intercalate (before.map (fun fs => fronts fs ++ "None".toList) ++ ms) =
      leading before ++ " | ".toList.intercalate ms := by
  have bar : "None | ".toList = "None".toList ++ " | ".toList := rfl
  induction before with
  | nil => rfl
  | cons fs rest ih =>
    rw [List.map_cons, List.cons_append, List.intercalate_cons_of_ne_nil (by simp [h]), ih, leading,
      bar]
    simp only [List.append_assoc]

/-- Absent alternatives behind are joined as the trailing text. -/
theorem intercalate_behind (m : List Char) (behind : List (List Back)) :
    " | ".toList.intercalate (m :: behind.reverse.map (fun bs => "None".toList ++ backs bs)) =
      m ++ trailing behind := by
  have bar : " | None".toList = " | ".toList ++ "None".toList := rfl
  induction behind with
  | nil => simp [trailing]
  | cons bs rest ih =>
    rw [List.reverse_cons, List.map_append, ← List.cons_append, List.map_singleton,
      intercalate_append_singleton _ (List.cons_ne_nil _ _), ih, trailing, bar]
    simp only [List.append_assoc]

/-- A row is the union of its members. -/
theorem text_eq_intercalate (r : Row) : r.text = " | ".toList.intercalate r.members := by
  rw [members, intercalate_before _ (List.cons_ne_nil _ _), intercalate_behind, text,
    List.append_assoc]

/-- The word for an absent value is a spelling. -/
theorem isSpelling_none : IsSpelling "None".toList where
  chars := rfl
  head := ⟨'N', rfl, rfl⟩
  last := ⟨'e', rfl, rfl⟩
  balanced := .of_all rfl
  words := by decide
  bar := by decide

/-- The middle of a proper row is a spelling. -/
theorem isSpelling_center (proper : r.IsProper) : IsSpelling r.center := by
  have core := (Spelled.isSpelling proper.core).backs r.back
  rw [center, List.append_assoc]
  exact core.fronts (Core.beginsWithMark proper.core _) proper.front

/-- The marks in front are balanced, and hold no bar. -/
theorem balanced_fronts {fs : List Front} (fit : frontsFit fs = true) :
    Balanced false (fronts fs) := by
  induction fs with
  | nil => exact .nil _
  | cons f fs ih =>
    rw [frontsFit, Bool.and_eq_true] at fit
    exact .append (Front.balanced fit.1) (ih fit.2)

/-- The marks behind are balanced, and hold no bar. -/
theorem balanced_backs (bs : List Back) : Balanced false (backs bs) := by
  induction bs with
  | nil => exact .nil _
  | cons b bs ih => exact .append ih b.balanced

/-- A proper core is balanced, and holds no bar. -/
theorem balanced_core {c : Core} (h : c.spelled.IsProper) : Balanced false c.spelled.text := by
  cases c with
  | atom name => exact balanced_of_alphanumeric (IsAtom.alphanumeric h)
  | bracketed t => exact .group rfl rfl (Spelled.isSpelling h.2).balanced
  | wrapped w t =>
    have word : w.word.toList.all Char.isAlphanum = true := by cases w <;> rfl
    have brackets : isOpener w.brackets.1 = true ∧ isCloser w.brackets.2 = true := by
      cases w <;> decide
    exact .append (balanced_of_alphanumeric word)
      (.group brackets.1 brackets.2 (Spelled.isSpelling h.2).balanced)

/-- A balanced spelling may be a member. -/
theorem isMember_of_isSpelling {m : List Char} (h : IsSpelling m) (balanced : Balanced false m) :
    IsMember m where
  balanced := balanced
  nonempty := h.nonempty
  head _ hc := h.head_notBlank hc
  last _ hc := h.last_notBlank hc

/-- The members of a proper row are members of its alternatives. -/
theorem isMember_of_mem (proper : r.IsProper) : ∀ m ∈ r.members, IsMember m := by
  have none : Balanced false "None".toList := .of_all rfl
  intro m hm
  rw [members, List.mem_append, List.mem_cons, List.mem_map, List.mem_map] at hm
  obtain ⟨fs, hfs, rfl⟩ | rfl | ⟨bs, hbs, rfl⟩ := hm
  · have fit := proper.before fs hfs
    exact isMember_of_isSpelling (isSpelling_none.fronts rfl fit) (.append (balanced_fronts fit) none)
  · exact isMember_of_isSpelling (isSpelling_center proper)
      (.append (.append (balanced_fronts proper.front) (balanced_core proper.core)) (balanced_backs _))
  · exact isMember_of_isSpelling (isSpelling_none.backs bs) (.append none (balanced_backs bs))

/-- An absent alternative is a word for nothing only without marks in front. -/
theorem isNullish_front (fs : List Front) :
    isNullish (fronts fs ++ "None".toList) = decide (fs = []) := by
  by_cases h : fs = []
  · rw [h]
    rfl
  · rw [decide_eq_false h]
    exact ((isMarked_fronts h).append_left _).isNullish_eq_false

/-- And only without marks behind. -/
theorem isNullish_back (bs : List Back) :
    isNullish ("None".toList ++ backs bs) = decide (bs = []) := by
  by_cases h : bs = []
  · rw [h]
    rfl
  · rw [decide_eq_false h]
    exact ((isMarked_backs h).append_right _).isNullish_eq_false

/-- A proper core is no word for nothing. -/
theorem isNullish_core {c : Core} (h : c.spelled.IsProper) : isNullish c.spelled.text = false := by
  cases c with
  | atom name =>
    have nullish : ∀ w ∈ Vocabulary.nullish, w ∈ reservedWords := by decide +kernel
    rw [isNullish, (Spelled.isSpelling h).trim_eq, isOneOf_eq_false]
    exact fun hw => IsAtom.free h (nullish _ hw)
  | bracketed t => exact IsMarked.isNullish_eq_false ⟨'[', List.mem_cons_self, by decide⟩
  | wrapped w t => exact (w.isMarked_apply t.text).isNullish_eq_false

/-- The middle of a proper row is no word for nothing. -/
theorem isNullish_center (proper : r.IsProper) : isNullish r.center = false := by
  by_cases front : r.front = []
  · by_cases back : r.back = []
    · rw [center, front, back, fronts, List.flatMap_nil, List.nil_append, backs, List.append_nil]
      exact isNullish_core proper.core
    · exact ((isMarked_backs back).append_right _).isNullish_eq_false
  · exact (((isMarked_fronts front).append_left _).append_left _).isNullish_eq_false

/-- The members that are present are those of the row of present members. -/
theorem filter_members (proper : r.IsProper) :
    r.members.filter (fun m => !isNullish m) = r.present.members := by
  have before : r.before.filter ((fun m => !isNullish m) ∘ fun fs => fronts fs ++ "None".toList) =
      r.before.filter (· ≠ []) :=
    List.filter_congr fun fs _ => by
      rw [Function.comp_apply, isNullish_front, decide_not]
  have behind : r.behind.filter ((fun m => !isNullish m) ∘ fun bs => "None".toList ++ backs bs) =
      r.behind.filter (· ≠ []) :=
    List.filter_congr fun bs _ => by rw [Function.comp_apply, isNullish_back, decide_not]
  rw [members, List.filter_append, List.filter_cons_of_pos (by simp [isNullish_center proper]),
    List.filter_map, List.filter_map, before, List.filter_reverse, behind]
  rfl

/-- A union without layers at its two ends begins or ends with an absent member. -/
theorem exists_none (clearFront : r.firstFronts = []) (clearBack : r.lastBacks = [])
    (h : r.before ≠ [] ∨ r.behind ≠ []) : (∃ r', r = noneOr r') ∨ ∃ r', r = orNone r' := by
  match r with
  | ⟨[] :: rest, front, core, back, behind⟩ => exact .inl ⟨⟨rest, front, core, back, behind⟩, rfl⟩
  | ⟨[], front, core, back, [] :: rest⟩ => exact .inr ⟨⟨[], front, core, back, rest⟩, rfl⟩
  | ⟨(f :: fs) :: rest, front, core, back, behind⟩ => cases clearFront
  | ⟨[], front, core, back, (b :: bs) :: rest⟩ => cases clearBack
  | ⟨[], front, core, back, []⟩ => simp at h

/-- A union does not stand in brackets. -/
theorem not_bracketed (clearFront : r.firstFronts = []) (clearBack : r.lastBacks = [])
    (h : r.before ≠ [] ∨ r.behind ≠ []) : (Text.begins "[" r.text && ends "]" r.text) = false := by
  obtain ⟨r', rfl⟩ | ⟨r', rfl⟩ := exists_none clearFront clearBack h
  · have first : ("None | ".toList ++ r'.text).head? ≠ some '[' :=
      show some 'N' ≠ some '[' by decide
    rw [text_noneOr, begins_bracket_eq_false first, Bool.false_and]
  · have last : (r'.text ++ " | None".toList).getLast? = some 'e' := by
      rw [List.getLast?_append]
      rfl
    rw [text_orNone, ends_eq_false_of_last last (d := ']') rfl (by decide), Bool.and_false]

/-- A row with clear ends and an absent alternative has a word for nothing among its members. -/
theorem any_members_isNullish (clearFront : r.firstFronts = []) (clearBack : r.lastBacks = [])
    (h : r.before ≠ [] ∨ r.behind ≠ []) : r.members.any isNullish = true := by
  refine List.any_eq_true.2 ⟨"None".toList, ?_, by decide⟩
  obtain ⟨r', rfl⟩ | ⟨r', rfl⟩ := exists_none clearFront clearBack h
  · simp [members, noneOr, fronts]
  · simp [members, orNone, backs]

theorem one_lt_length_members (h : r.before ≠ [] ∨ r.behind ≠ []) : 1 < r.members.length := by
  have length : r.members.length = r.before.length + (r.behind.length + 1) := by simp [members]
  rcases h with h | h <;> have := List.length_pos_iff.2 h <;> omega

/-- The absent members of a union are dropped all at once. -/
theorem peel_union (proper : r.IsProper) (clearFront : r.firstFronts = [])
    (clearBack : r.lastBacks = []) (h : r.before ≠ [] ∨ r.behind ≠ []) :
    peel r.text = Kind.optional.around r.present.text := by
  have layered := isLayered proper (h.imp_right fun h => .inr (.inr h))
  obtain ⟨brackets, question⟩ := before?_text proper clearBack
  have union : unionMembers r.text = r.members := by
    rw [unionMembers, if_neg (layered.headMarked.ne (by decide)), text_eq_intercalate,
      splitBy_bar_intercalate (isMember_of_mem proper)]
  have element : element? r.text = none :=
    layered.element?_eq_none (afterLength?_text proper clearFront) brackets
      (not_bracketed clearFront clearBack h)
  refine layered.peel_of_optional? (beginsWithMark_text proper clearFront) element ?_
  have head : isOneOf Vocabulary.optionals (generic r.text).head = false :=
    layered.not_head (by decide)
  rw [optional?, question]
  simp only [head, union, any_members_isNullish clearFront clearBack h,
    decide_eq_true (one_lt_length_members h), presentUnion, filter_members proper,
    ← text_eq_intercalate]
  simp [members]

end Row

end Concord.Spelling
