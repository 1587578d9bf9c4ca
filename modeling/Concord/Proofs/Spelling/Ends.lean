import Concord.Proofs.Spelling.Reading
import Concord.Proofs.Spelling.Row

/-!
# Concord.Proofs.Spelling.Ends

What stands at the two ends of a row, as far as a reader looks.  A row that is more than its core has
a mark in its head (`Row.isLayered`), so that no word of the vocabulary is taken for its head.  A row
without layers in front begins with no pointer mark and no array length (`Row.beginsWithMark_text`,
`Row.afterLength?_text`), and one without layers behind does not end with one (`Row.before?_text`).
-/

namespace Concord.Spelling

open Text

/-! ## Marks of rows -/

/-- The mark of an outer layer is a mark. -/
theorem Front.isMarked (f : Front) : IsMarked f.text := by
  cases f with
  | indexed digits => exact ⟨'[', List.mem_cons_self, by decide⟩
  | star => exact ⟨'*', List.mem_cons_self, by decide⟩
  | ampersand => exact ⟨'&', List.mem_cons_self, by decide⟩

/-- The mark of an inner layer is a mark. -/
theorem Back.isMarked (b : Back) : IsMarked b.text := by
  cases b with
  | brackets => exact ⟨'[', List.mem_cons_self, by decide⟩
  | question => exact ⟨'?', List.mem_cons_self, by decide⟩

/-- A run of marks in front is marked. -/
theorem isMarked_fronts {fs : List Front} (h : fs ≠ []) : IsMarked (fronts fs) := by
  cases fs with
  | nil => exact absurd rfl h
  | cons f fs => exact f.isMarked.append_left _

/-- A run of marks behind is marked. -/
theorem isMarked_backs {bs : List Back} (h : bs ≠ []) : IsMarked (backs bs) := by
  cases bs with
  | nil => exact absurd rfl h
  | cons b bs => exact b.isMarked.append_right _

/-- Absent alternatives in front are marked. -/
theorem isMarked_leading {before : List (List Front)} (h : before ≠ []) :
    IsMarked (leading before) := by
  cases before with
  | nil => exact absurd rfl h
  | cons fs rest =>
    refine IsMarked.append_right (IsMarked.append_left ?_ _) _
    exact ⟨'|', by decide, by decide⟩

/-- An atom ends in a letter or a digit. -/
theorem IsAtom.last {name : List Char} (h : IsAtom name) :
    ∃ c, name.getLast? = some c ∧ c.isAlphanum = true := by
  cases hlast : name.getLast? with
  | none =>
    have := h.letter
    rw [List.getLast?_eq_none_iff.1 hlast] at this
    cases this
  | some c => exact ⟨c, rfl, List.all_eq_true.1 h.alphanumeric c (List.mem_of_getLast? hlast)⟩

/-- A core ends with a letter or a digit, or with a group that holds a spelling. -/
theorem Core.ends {c : Core} (h : c.spelled.IsProper) :
    (∃ d, c.spelled.text.getLast? = some d ∧ d.isAlphanum = true) ∨
      ∃ word t opener closer, c.spelled.text = word ++ opener :: (t ++ [closer]) ∧
        isPair opener closer ∧ IsSpelling t := by
  cases c with
  | atom name => exact .inl (IsAtom.last h)
  | bracketed inside =>
    exact .inr ⟨[], inside.text, '[', ']', rfl, .inr ⟨rfl, rfl⟩, Spelled.isSpelling h.2⟩
  | wrapped w inside =>
    exact .inr ⟨w.word.toList, inside.text, _, _, rfl, w.isPair_brackets, Spelled.isSpelling h.2⟩

/-- A letter or digit is no other character. -/
theorem ne_of_isAlphanum {c d : Char} (hc : c.isAlphanum = true) (hd : d.isAlphanum = false) :
    c ≠ d := by
  rintro rfl
  rw [hc] at hd
  cases hd

namespace Row

variable {r : Row}

/-- What stands in front of the core. -/
def pre (r : Row) : List Char := leading r.before ++ fronts r.front

/-- What stands behind the core. -/
def post (r : Row) : List Char := backs r.back ++ trailing r.behind

theorem text_eq (r : Row) : r.text = r.pre ++ (r.core.spelled.text ++ r.post) := by
  simp [text, center, pre, post]

/-- What is more than the core stands in front of it, if nothing stands behind. -/
theorem isMarked_pre (h : r.before ≠ [] ∨ r.front ≠ [] ∨ r.back ≠ [] ∨ r.behind ≠ [])
    (back : r.back = []) (behind : r.behind = []) : IsMarked r.pre := by
  have filled : r.before ≠ [] ∨ r.front ≠ [] := by simpa [back, behind] using h
  rcases filled with h | h
  · exact (isMarked_leading h).append_left _
  · exact (isMarked_fronts h).append_right _

theorem text_eq_pre_append (back : r.back = []) (behind : r.behind = []) :
    r.text = r.pre ++ r.core.spelled.text := by
  simp [text_eq, post, back, behind, backs, trailing]

theorem pre_eq_nil (hbefore : r.before = []) (hfront : r.front = []) : r.pre = [] := by
  rw [pre, hbefore, hfront]
  rfl

/-- What stands at the right end of a row: a layer, a member, or the core. -/
theorem right (r : Row) :
    (∃ r' b, r = pushBack r' b) ∨ (∃ r', r = orNone r') ∨ r.back = [] ∧ r.behind = [] := by
  match r with
  | ⟨before, front, core, b :: back, []⟩ => exact .inl ⟨⟨before, front, core, back, []⟩, b, rfl⟩
  | ⟨before, front, core, back, (b :: bs) :: rest⟩ =>
    exact .inl ⟨⟨before, front, core, back, bs :: rest⟩, b, rfl⟩
  | ⟨before, front, core, back, [] :: rest⟩ =>
    exact .inr (.inl ⟨⟨before, front, core, back, rest⟩, rfl⟩)
  | ⟨before, front, core, [], []⟩ => exact .inr (.inr ⟨rfl, rfl⟩)

/-- A row that is more than its core holds a mark. -/
theorem isMarked_text (h : r.before ≠ [] ∨ r.front ≠ [] ∨ r.back ≠ [] ∨ r.behind ≠ []) :
    IsMarked r.text := by
  obtain ⟨r', b, rfl⟩ | ⟨r', rfl⟩ | ⟨hback, hbehind⟩ := r.right
  · rw [text_pushBack]
    exact b.isMarked.append_right _
  · rw [text_orNone]
    exact IsMarked.append_right ⟨'|', by decide, by decide⟩ _
  · rw [text_eq]
    exact (isMarked_pre h hback hbehind).append_left _

/-- The head of a row that is more than its core is no single word. -/
theorem isLayered (proper : r.IsProper)
    (h : r.before ≠ [] ∨ r.front ≠ [] ∨ r.back ≠ [] ∨ r.behind ≠ []) : IsLayered r.text := by
  have spelling := isSpelling proper
  have marked := isMarked_text h
  refine ⟨spelling, marked, ?_⟩
  obtain ⟨r', b, rfl⟩ | ⟨r', rfl⟩ | ⟨hback, hbehind⟩ := r.right
  · cases b with
    | brackets =>
      have text : (r'.pushBack .brackets).text = r'.text ++ '[' :: ([] ++ [']']) := text_pushBack _ _
      rw [text] at spelling marked ⊢
      rw [generic_of_group (.inr ⟨rfl, rfl⟩) (.nil _) spelling.trim_eq, if_neg (by simp)]
      exact marked
    | question =>
      refine spelling.isMarked_head marked (c := '?') ?_ (by decide) (by decide)
      rw [text_pushBack]
      exact List.getLast?_concat
  · refine spelling.isMarked_head marked (c := 'e') ?_ (by decide) (by decide)
    rw [text_orNone, List.getLast?_append]
    rfl
  · have pre := isMarked_pre h hback hbehind
    have text := text_eq_pre_append hback hbehind
    obtain ⟨d, hd, alphanumeric⟩ | ⟨word, t, opener, closer, group, pair, inside⟩ :=
      Core.ends proper.core
    · refine spelling.isMarked_head marked (c := d) ?_ (ne_of_isAlphanum alphanumeric rfl)
        (ne_of_isAlphanum alphanumeric rfl)
      rw [text, List.getLast?_append, hd, Option.some_or]
    · rw [group, ← List.append_assoc] at text
      have trimmed := spelling.trim_eq
      rw [text] at trimmed ⊢
      rw [generic_of_group pair inside.balanced trimmed,
        if_pos ⟨List.append_ne_nil_of_left_ne_nil pre.ne_nil _, inside.nonempty⟩]
      exact (pre.append_left _).trim

/-! ## The ends of rows -/

/-- How a row begins that has no layer in front. -/
theorem begins (proper : r.IsProper) (clear : r.firstFronts = []) :
    ∃ d rest, r.text = d :: rest ∧
      (d.isAlpha = true ∨
        d = '[' ∧ ∃ e rest', rest = e :: rest' ∧ isSpellingChar e = true ∧ startsSpelling e = true) := by
  unfold firstFronts at clear
  split at clear
  · rename_i before
    obtain ⟨d, rest, text, start⟩ := Core.begins proper.core
    rw [text_eq, pre_eq_nil before clear, text]
    refine ⟨d, rest ++ r.post, rfl, start.imp_right ?_⟩
    rintro ⟨rfl, e, rest', rfl, he⟩
    exact ⟨rfl, e, rest' ++ r.post, rfl, he⟩
  · rename_i fs rest before
    subst clear
    rw [text, before, leading, List.append_assoc, List.append_assoc]
    exact ⟨'N', _, rfl, .inl rfl⟩

theorem beginsWithMark_text (proper : r.IsProper) (clear : r.firstFronts = []) :
    Spelling.beginsWithMark r.text = false := by
  obtain ⟨d, rest, text, letter | ⟨rfl, -⟩⟩ := begins proper clear
  · rw [text]
    exact beginsWithMark_of_isAlpha letter
  · rw [text]
    rfl

theorem afterLength?_text (proper : r.IsProper) (clear : r.firstFronts = []) :
    afterLength? r.text = none := by
  obtain ⟨d, rest, text, letter | ⟨rfl, e, rest', rfl, char, starts⟩⟩ := begins proper clear
  · refine afterLength?_eq_none ?_
    rw [text, List.head?_cons, ne_eq, Option.some.injEq]
    rintro rfl
    cases letter
  · rw [text]
    exact afterLength?_of_starts char starts rest'

/-- A row without layers behind does not end with one. -/
theorem before?_text (proper : r.IsProper) (clear : r.lastBacks = []) :
    before? "[]" r.text = none ∧ before? "?" r.text = none := by
  have of_last {c : Char} (hc : r.text.getLast? = some c) (alphanumeric : c.isAlphanum = true) :
      before? "[]" r.text = none ∧ before? "?" r.text = none :=
    ⟨before?_eq_none_of_last hc (d := ']') rfl (ne_of_isAlphanum alphanumeric rfl),
      before?_eq_none_of_last hc (d := '?') rfl (ne_of_isAlphanum alphanumeric rfl)⟩
  unfold lastBacks at clear
  split at clear
  · rename_i behind
    have text := text_eq_pre_append clear behind
    obtain ⟨d, hd, alphanumeric⟩ | ⟨word, t, opener, closer, group, pair, inside⟩ :=
      Core.ends proper.core
    · refine of_last (c := d) ?_ alphanumeric
      rw [text, List.getLast?_append, hd, Option.some_or]
    · rw [text, group, ← List.append_assoc]
      refine ⟨before?_brackets_of_group inside,
        before?_eq_none_of_last (c := closer) (d := '?') ?_ rfl ?_⟩
      · exact getLast?_group _ _ _ _
      · rcases pair with ⟨-, rfl⟩ | ⟨-, rfl⟩ <;> decide
  · rename_i bs rest behind
    subst clear
    refine of_last (c := 'e') ?_ rfl
    rw [text, behind, trailing, backs, List.append_nil, ← List.append_assoc, List.getLast?_append]
    rfl

end Row

end Concord.Spelling
