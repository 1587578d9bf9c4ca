import Concord.Proofs.Spelling.Generic

/-!
# Concord.Proofs.Spelling.Tuple

Tuple types taken apart: `(A, B)`, `[A, B]` and `tuple[A, B]`.

* `isArgument_written` — arguments in brackets, behind a head or none, are an argument again;
* `stripQualifiers_written` — brackets behind the first word leave no qualifier to strip;
* `isEnclosed_of_isNested` — a nested text in brackets is enclosed as a whole;
* `member_eq_self` — members that carry neither a label nor a name;
* `tupleMembers?_of_generic`, `tupleMembers?_of_isEnclosed` — the members of a tuple.
-/

namespace Concord.Spelling

open Text

/-! ## Arguments in brackets -/

/-- A head applied to arguments is nested. -/
theorem isNested_written {g : Generic} {opener closer : Char} (opens : isOpener opener = true)
    (closes : isCloser closer = true) (flat : ∀ c ∈ g.head, isOpener c = false ∧ isCloser c = false)
    (arguments : ∀ a ∈ g.args, IsArgument a)
    (arrow : isArrowhead (lastOf (some opener) (listed g.args)) closer = false) :
    IsNested (g.written opener closer) :=
  isNested_group flat opens closes (isNested_listed fun a ha => (arguments a ha).nested) arrow

/-- Arguments in brackets, behind a head or none, are an argument again. -/
theorem isArgument_written {g : Generic} {opener closer : Char} (opens : isOpener opener = true)
    (closes : isCloser closer = true) (flat : ∀ c ∈ g.head, isOpener c = false ∧ isCloser c = false)
    (trimmed : trim g.head = g.head) (comma : ',' ∉ g.head)
    (arguments : ∀ a ∈ g.args, IsArgument a)
    (arrow : isArrowhead (lastOf (some opener) (listed g.args)) closer = false) :
    IsArgument (g.written opener closer) where
  nonempty := by
    rw [Generic.written]
    exact List.append_ne_nil_of_right_ne_nil _ (List.cons_ne_nil _ _)
  trimmed := trim_group opens closes trimmed _
  nested := isNested_written opens closes flat arguments arrow
  closed := by
    have notOpener : ',' ≠ opener := by
      rintro rfl
      exact absurd opens (by decide)
    have notCloser : ',' ≠ closer := by
      rintro rfl
      exact absurd closes (by decide)
    exact not_standsOutside_group comma opens flat
      (isNested_listed fun a ha => (arguments a ha).nested) notOpener notCloser

/-- No qualifier stands in front of a bracket that follows the first word. -/
theorem begins_qualifier_eq_false {front rest : List Char} {opener : Char} (blank : ' ' ∉ front)
    (opens : isOpener opener = true) {q : String} (hq : q ∈ Vocabulary.qualifiers) :
    begins q (front ++ opener :: rest) = false := by
  have words : ∀ q ∈ Vocabulary.qualifiers,
      ' ' ∈ q.toList ∧ q.toList.all (fun c => !isOpener c) = true := by
    decide +kernel
  obtain ⟨space, flat⟩ := words q hq
  have notSpace : opener ≠ ' ' := fun same => absurd (same ▸ opens) (by decide)
  have lead : front ++ [opener] <+: front ++ opener :: rest := ⟨rest, by simp⟩
  refine begins_eq_false_of_lead lead (fun beyond => ?_) space (by simp [blank, notSpace.symm])
  simpa [opens] using List.all_eq_true.1 flat opener beyond

/-- Brackets behind the first word leave no qualifier to strip. -/
theorem stripQualifiers_written {g : Generic} {opener closer : Char}
    (opens : isOpener opener = true) (closes : isCloser closer = true)
    (trimmed : trim g.head = g.head) (blank : ' ' ∉ g.head) (quote : g.head.head? ≠ some '\'') :
    stripQualifiers (g.written opener closer) = g.written opener closer := by
  refine stripQualifiers_eq_self (trim_group opens closes trimmed _) ?_
    fun q hq => begins_qualifier_eq_false blank opens hq
  rw [Generic.written]
  cases head : g.head with
  | nil =>
    rw [List.nil_append, List.head?_cons, ne_eq, Option.some.injEq]
    rintro rfl
    exact absurd opens (by decide)
  | cons c r =>
    rw [head] at quote
    simpa using quote

/-! ## Enclosed texts -/

/-- A bracket stays open up to its own closing one. -/
theorem staysOpen_of_openBehind {prev closer : Char} {depth : Nat} {t : List Char}
    (h : openBehind (some prev) depth t = some 0) :
    staysOpen prev (depth + 1) (t ++ [closer]) = true := by
  induction t generalizing prev depth with
  | nil =>
    cases h
    simp [staysOpen]
  | cons c r ih =>
    have arrow : isArrowhead (some prev) c = (c = '>' && (prev = '=' || prev = '-')) := by
      simp [isArrowhead]
    rw [openBehind] at h
    rw [List.cons_append, staysOpen, ← arrow]
    split at h
    · rename_i opener
      rw [if_pos opener]
      exact ih h
    · rename_i opener
      rw [if_neg opener]
      split at h
      · rename_i closer'
        rw [if_pos closer']
        split at h
        · cases h
        · rename_i open'
          rw [if_neg (by simp [open']), Nat.add_sub_cancel]
          have := ih h
          rwa [Nat.sub_add_cancel (Nat.pos_of_ne_zero open')] at this
      · rename_i closer'
        rw [if_neg closer']
        exact ih h

/-- A nested text in brackets is enclosed as a whole. -/
theorem isEnclosed_of_isNested {opener closer : Char} (opens : isOpener opener = true)
    {content : List Char} (nested : IsNested content) :
    isEnclosed opener closer (opener :: (content ++ [closer])) = true := by
  have inside : staysOpen opener 1 (content ++ [closer]) = true :=
    staysOpen_of_openBehind (by rw [openBehind_opener opens]; exact nested)
  simp [isEnclosed, inside]

/-! ## Members -/

/-- A member without a colon carries no label. -/
theorem dropLabel_eq_self {s : List Char} (colon : ':' ∉ s) : dropLabel s = s := by
  unfold dropLabel
  split
  · rfl
  · rename_i c r h
    split
    · dsimp only
      split
      · rename_i type hd
        have behind := (((List.dropWhile_sublist isBlank).trans (getD_after?_sublist "?" _)).trans
          (List.dropWhile_sublist _)).subset (hd ▸ List.mem_cons_self)
        exact absurd ((getD_after?_sublist "..." s).subset (h ▸ List.mem_cons_of_mem _ behind)) colon
      · rfl
    · rfl

/-- No name stands at the end of a text that ends in no word. -/
theorem beforeName?_eq_none_of_last {s : List Char} {c : Char} (last : s.getLast? = some c)
    (notWord : isWordChar c = false) : beforeName? s = none := by
  rw [← List.head?_reverse] at last
  obtain ⟨r, back⟩ := List.head?_eq_some_iff.1 last
  rw [beforeName?, back, List.takeWhile_cons_of_neg (by rw [notWord]; exact Bool.false_ne_true)]
  rfl

/-- No name stands at the end of a single word. -/
theorem beforeName?_eq_none_of_word {s : List Char} (word : ∀ c ∈ s, isWordChar c = true) :
    beforeName? s = none := by
  have gap : s.reverse.dropWhile isWordChar = [] :=
    List.dropWhile_eq_nil_iff.2 fun c hc => word c (List.mem_reverse.1 hc)
  rw [beforeName?, gap]
  simp

theorem member_eq_self {s : List Char} (trimmed : trim s = s) (colon : ':' ∉ s)
    (unnamed : beforeName? s = none) : member s = s := by
  rw [member, trimmed, dropLabel_eq_self colon, unnamed]

/-! ## Tuples -/

theorem isHomogeneous_eq_false {args : List (List Char)} (dot : ∀ a ∈ args, '.' ∉ a) :
    isHomogeneous args = false := by
  unfold isHomogeneous
  split
  · rename_i first dots
    rw [decide_eq_false_iff_not]
    intro ellipsis
    refine dot dots (by simp) ((trim_sublist dots).subset ?_)
    rw [ellipsis]
    exact List.mem_cons_self
  · rfl

/-- The arguments of a tuple head are the members of the tuple. -/
theorem tupleMembers?_of_generic {s : List Char} {g : Generic} (read : generic s = g)
    (head : isTupleHead g.head = true) (two : 1 < g.args.length)
    (mixed : isHomogeneous g.args = false) : tupleMembers? s = some (g.args.map member) := by
  have some' : g.args.isEmpty = false := by
    cases h : g.args with
    | nil =>
      rw [h] at two
      cases two
    | cons a args => rfl
  rw [tupleMembers?, read]
  simp only [head, some', two, mixed]
  rfl

/-- The parts of an enclosed row are the members of the tuple. -/
theorem tupleMembers?_of_isEnclosed {s inner : List Char} {opener closer : Char}
    (shape : s = opener :: (inner ++ [closer])) (read : (generic s).args = [])
    (enclosed : isEnclosed '(' ')' s = true ∨ isEnclosed '[' ']' s = true)
    (semicolon : splitBy ";" inner = [trim inner]) (two : 1 < (splitCommas inner).length) :
    tupleMembers? s = some ((splitCommas inner).map member) := by
  have tail : s.tail.dropLast = inner := by rw [shape, List.tail_cons, List.dropLast_concat]
  have none' : (isTupleHead (generic s).head && !(generic s).args.isEmpty) = false := by
    rw [read, List.isEmpty_nil, Bool.not_true, Bool.and_false]
  have either : (isEnclosed '(' ')' s || isEnclosed '[' ']' s) = true := by
    rwa [Bool.or_eq_true]
  rw [tupleMembers?]
  simp only [none', either, tail, semicolon, two]
  simp

end Concord.Spelling
