import Concord.Proofs.Spelling.Generic
import Concord.Proofs.Spelling.Members
import Concord.Proofs.Spelling.Reading
import Concord.Proofs.Spelling.Rendered

/-!
# Concord.Proofs.Spelling.Absent

Absent values inside brackets, in plain words.  A union is cut at every bar, so that an absent member
between two bars counts as one of the outermost union; next to a bracket it keeps the bracket and is
none:

```
Array<A | null>          Array<A      null>         List of Optional A
Array<A | null | B>      Array<A     null     B>    Optional List of A | B
```

* `withoutAbsentMember?_array` — what an array loses: the absent members between the bars of its
  content;
* `isContent_withoutAbsentBetween` — what is left of the content is as nested as it was;
* `render_absent` — how unions and arrays are rendered, and when that is the rendering of their parts.
-/

namespace Concord.Spelling.Display

open Text

/-- An array, as it is written. -/
def array (content : List Char) : List Char := "Array".toList ++ '<' :: (content ++ ['>'])

/-- What may stand inside the brackets of an array: a nested text that is not blank, with no comma
outside its brackets. -/
structure IsContent (s : List Char) : Prop where
  nested : IsNested s
  closed : ¬ StandsOutside ',' s
  filled : trim s ≠ []

/-- An argument may be the content of an array. -/
theorem IsContent.of_isArgument {s : List Char} (h : IsArgument s) : IsContent s where
  nested := h.nested
  closed := h.closed
  filled := by
    rw [h.trimmed]
    exact h.nonempty

/-! ## Absent members between bars -/

/-- Whether one of the members between the first and the last bar of a text is absent. -/
def hasAbsentBetween (s : List Char) : Bool := (splitAtWord ['|'] s).tail.dropLast.any isAbsent

/-- The members that are not absent. -/
def present (members : List (List Char)) : List (List Char) := members.filter fun m => !isAbsent m

/-- The members without those between the first and the last one that are absent. -/
def kept : List (List Char) → List (List Char)
  | [] => []
  | first :: others => first :: (present others.dropLast ++ others.getLast?.toList)

/-- A union of the members that are kept. -/
def rejoined (members : List (List Char)) : List Char :=
  " | ".toList.intercalate ((kept members).map trim)

/-- A text without the absent members between its bars. -/
def withoutAbsentBetween (s : List Char) : List Char :=
  if hasAbsentBetween s then rejoined (splitAtWord ['|'] s) else s

variable {content first last : List Char} {inner : List (List Char)}

theorem kept_ends (first last : List Char) (inner : List (List Char)) :
    kept (first :: (inner ++ [last])) = first :: (present inner ++ [last]) := by
  simp [kept]

/-- A text is its only member, or has a first one and a last one. -/
theorem splitAtWord_cases (s : List Char) :
    splitAtWord ['|'] s = [s] ∨
      ∃ first inner last, splitAtWord ['|'] s = first :: (inner ++ [last]) := by
  refine (splitAtWord_eq_or_lt ['|'] s).imp_right fun more => ?_
  obtain ⟨first, others, members⟩ := List.exists_cons_of_ne_nil (splitAtWord_ne_nil ['|'] s)
  rcases List.eq_nil_or_concat' others with rfl | ⟨inner, last, rfl⟩
  · rw [members] at more
    exact absurd more (Nat.lt_irrefl 1)
  · exact ⟨first, inner, last, members⟩

theorem intercalate_of_members (members : splitAtWord ['|'] content = first :: (inner ++ [last])) :
    ['|'].intercalate (first :: (inner ++ [last])) = content := by
  rw [← members, splitAtWord_singleton, List.intercalate_splitOn]

theorem hasAbsentBetween_of_whole (whole : splitAtWord ['|'] content = [content]) :
    hasAbsentBetween content = false := by
  rw [hasAbsentBetween, whole]
  rfl

theorem hasAbsentBetween_of_members
    (members : splitAtWord ['|'] content = first :: (inner ++ [last])) :
    hasAbsentBetween content = inner.any isAbsent := by
  rw [hasAbsentBetween, members, List.tail_cons, List.dropLast_concat]

/-! ## What is left of a text -/

/-- An absent member opens and closes nothing, and holds no comma. -/
theorem flat_of_isAbsent {m : List Char} (h : isAbsent m = true) :
    ∀ c ∈ trim m, isOpener c = false ∧ isCloser c = false ∧ c ≠ ',' := by
  have words : ∀ w ∈ ["null", "undefined"], ∀ c ∈ w.toList,
      isOpener c = false ∧ isCloser c = false ∧ c ≠ ',' := by simp [isOpener, isCloser]
  simpa using words _ (isOneOf_eq_true.1 h)

theorem openInside_of_isAbsent {m : List Char} (h : isAbsent m = true) (depth : Nat) :
    openInside ',' none depth m = some depth := by
  rw [← openInside_trim (by decide), openInside_of_flat (flat_of_isAbsent h)]

theorem arrows_of_isAbsent {m : List Char} (h : isAbsent m = true) : arrows none m = 0 := by
  rw [← arrows_trim]
  exact arrows_of_flat (fun c hc => ⟨(flat_of_isAbsent h c hc).1, (flat_of_isAbsent h c hc).2.1⟩) none

theorem isGap_bar : IsGap ['|'] where
  flat := by simp [isOpener, isCloser]
  behind _ := ⟨nofun, nofun⟩

theorem isGap_spacedBar : IsGap " | ".toList where
  flat := by simp [isOpener, isCloser]
  behind _ := ⟨nofun, nofun⟩

/-- Absent members may be left out of the count of the depth. -/
theorem foldlM_present (members : List (List Char)) (depth : Nat) :
    (present members).foldlM (openInside ',' none) depth =
      members.foldlM (openInside ',' none) depth := by
  have passed : (fun d m => if (!isAbsent m) = true then openInside ',' none d m else pure d) =
      openInside ',' none := by
    funext d m
    cases absent : isAbsent m with
    | false => rfl
    | true => exact (openInside_of_isAbsent absent d).symm
  rw [present, List.foldlM_filter, passed]

/-- Absent members open and close nothing. -/
theorem openInside_rejoined (first last : List Char) (inner : List (List Char)) :
    openInside ',' none 0 (rejoined (first :: (inner ++ [last]))) =
      openInside ',' none 0 (['|'].intercalate (first :: (inner ++ [last]))) := by
  rw [rejoined, kept_ends, openInside_intercalate isGap_spacedBar (by decide),
    openInside_intercalate isGap_bar (by decide), List.foldlM_map]
  have same (d : Nat) (m : List Char) : openInside ',' none d (trim m) = openInside ',' none d m :=
    openInside_trim (by decide) d m
  simp only [same]
  rw [List.foldlM_cons, List.foldlM_cons]
  refine congrArg _ (funext fun d => ?_)
  rw [List.foldlM_append, List.foldlM_append, foldlM_present]

/-- Leaving out absent members neither adds nor removes arrows. -/
theorem arrows_rejoined_eq_zero_iff (first last : List Char) (inner : List (List Char)) :
    arrows none (rejoined (first :: (inner ++ [last]))) = 0 ↔
      arrows none (['|'].intercalate (first :: (inner ++ [last]))) = 0 := by
  have others : (∀ m ∈ present inner, arrows none m = 0) ↔ ∀ m ∈ inner, arrows none m = 0 := by
    refine forall_congr' fun m => ?_
    cases absent : isAbsent m with
    | false => simp [present, absent]
    | true => simp [arrows_of_isAbsent absent]
  rw [rejoined, kept_ends, isGap_spacedBar.arrows_intercalate_eq_zero_iff,
    isGap_bar.arrows_intercalate_eq_zero_iff, List.forall_mem_map]
  simp only [arrows_trim, List.forall_mem_cons, List.forall_mem_append, others]

/-- A bar is left of a text with a first and a last member. -/
theorem trim_rejoined_ne_nil (first last : List Char) (inner : List (List Char)) :
    trim (rejoined (first :: (inner ++ [last]))) ≠ [] := by
  obtain ⟨m, ms, others⟩ := List.exists_cons_of_ne_nil (List.concat_ne_nil last (present inner))
  have bar : '|' ∈ rejoined (first :: (inner ++ [last])) := by
    rw [rejoined, kept_ends, others, List.map_cons, List.map_cons, List.intercalate_cons_cons]
    simp
  exact List.ne_nil_of_mem (mem_trim bar (by decide))

/-- A text is kept, or put together again from members of which some are left out. -/
theorem withoutAbsentBetween_cases (s : List Char) :
    withoutAbsentBetween s = s ∨ ∃ first inner last,
      ['|'].intercalate (first :: (inner ++ [last])) = s ∧
        withoutAbsentBetween s = rejoined (first :: (inner ++ [last])) := by
  rcases splitAtWord_cases s with whole | ⟨first, inner, last, members⟩
  · left
    rw [withoutAbsentBetween, hasAbsentBetween_of_whole whole, if_neg Bool.false_ne_true]
  · rw [withoutAbsentBetween]
    split
    · exact .inr ⟨first, inner, last, intercalate_of_members members, by rw [members]⟩
    · exact .inl rfl

/-- **What is left without the absent members between the bars is as nested as it was**: no comma
comes to stand outside brackets. -/
theorem isContent_withoutAbsentBetween (h : IsContent content) :
    IsContent (withoutAbsentBetween content) := by
  rcases withoutAbsentBetween_cases content with same | ⟨first, inner, last, text, left⟩
  · rwa [same]
  · have inside : openInside ',' none 0 (rejoined (first :: (inner ++ [last]))) = some 0 := by
      rw [openInside_rejoined, text]
      exact openInside_eq_zero_iff.2 ⟨h.nested, h.closed⟩
    obtain ⟨nested, closed⟩ := openInside_eq_zero_iff.1 inside
    rw [left]
    exact ⟨nested, closed, trim_rejoined_ne_nil first last inner⟩

/-- Every arrow is left. -/
theorem hasArrow_withoutAbsentBetween (content : List Char) :
    hasArrow (withoutAbsentBetween content) = hasArrow content := by
  rcases withoutAbsentBetween_cases content with same | ⟨first, inner, last, text, left⟩
  · rw [same]
  · rw [left, Bool.eq_iff_iff, ← Bool.not_eq_false, ← Bool.not_eq_false, ← arrows_eq_zero_iff,
      ← arrows_eq_zero_iff, arrows_rejoined_eq_zero_iff, text]

/-! ## Members of an array -/

theorem array_eq_append (content : List Char) :
    array content = "Array<".toList ++ content ++ ['>'] := rfl

/-- The head of an array belongs to the first member of its content, and its end to the last. -/
theorem splitAtWord_array (members : splitAtWord ['|'] content = first :: (inner ++ [last])) :
    splitAtWord ['|'] (array content) =
      ("Array<".toList ++ first) :: (inner ++ [last ++ ['>']]) := by
  have free : ∀ m ∈ first :: (inner ++ [last]), '|' ∉ m := fun m hm =>
    notMem_of_mem_splitOn (splitAtWord_singleton '|' content ▸ members ▸ hm)
  have text : array content =
      ['|'].intercalate (("Array<".toList ++ first) :: (inner ++ [last ++ ['>']])) := by
    rw [intercalate_ends, intercalate_of_members members, array_eq_append]
  rw [splitAtWord_singleton, text, List.splitOn_intercalate]
  · simpa [or_imp, forall_and] using free
  · exact List.cons_ne_nil _ _

theorem isAbsent_eq_false {c : Char} {m : List Char} (hc : c ∈ m) (solid : isBlank c = false)
    (strange : ∀ w ∈ ["null", "undefined"], c ∉ w.toList) : isAbsent m = false :=
  isOneOf_eq_false_of_mem (mem_trim hc solid) strange

/-- What stands at the two ends of a trimmed text is trimmed there. -/
theorem trim_ends (trimmed : trim content = content)
    (members : splitAtWord ['|'] content = first :: (inner ++ [last])) :
    trim ("Array<".toList ++ first) = "Array<".toList ++ trim first ∧
      trim (last ++ ['>']) = trim last ++ ['>'] := by
  obtain ⟨head, end'⟩ := notBlank_of_trim_eq_self trimmed
  refine ⟨trim_front_append (by decide) (by decide) fun c hc => head c ?_,
    trim_append_back (by decide) (by decide) fun c hc => end' c ?_⟩
  · have lead := intercalate_ends ['|'] first [] [] last inner
    rw [List.append_nil, List.append_nil, List.append_nil, intercalate_of_members members] at lead
    rw [lead, List.head?_append, hc, Option.some_or]
  · have behind := intercalate_ends ['|'] [] last first [] inner
    rw [List.nil_append, List.nil_append, List.nil_append, intercalate_of_members members] at behind
    rw [behind, List.getLast?_append, hc, Option.some_or]

/-- **An array loses the absent members between the bars of its content**, as if they were members of
a union around it. -/
theorem withoutAbsentMember?_array (trimmed : trim content = content) :
    withoutAbsentMember? (array content) =
      if hasAbsentBetween content then some (array (withoutAbsentBetween content)) else none := by
  rcases splitAtWord_cases content with whole | ⟨first, inner, last, members⟩
  · have free : '|' ∉ content := by
      rw [splitAtWord_singleton] at whole
      exact notMem_of_mem_splitOn (whole ▸ List.mem_singleton_self content)
    have one : splitAtWord ['|'] (array content) = [array content] :=
      splitAtWord_of_notMem (by simp [array, free])
    rw [withoutAbsentMember?, one, hasAbsentBetween_of_whole whole]
    rfl
  · have front : isAbsent ("Array<".toList ++ first) = false :=
      isAbsent_eq_false (c := '<') (by simp) (by decide) (by decide)
    have back : isAbsent (last ++ ['>']) = false :=
      isAbsent_eq_false (c := '>') (by simp) (by decide) (by decide)
    have any : (splitAtWord ['|'] (array content)).any isAbsent = hasAbsentBetween content := by
      rw [splitAtWord_array members, hasAbsentBetween_of_members members, List.any_cons,
        List.any_append, List.any_cons, front, back]
      simp
    obtain ⟨trimFront, trimBack⟩ := trim_ends trimmed members
    have text : " | ".toList.intercalate
        (((splitAtWord ['|'] (array content)).filter fun m => !isAbsent m).map trim) =
          array (rejoined (splitAtWord ['|'] content)) := by
      rw [splitAtWord_array members, List.filter_cons_of_pos (by rw [front]; rfl),
        List.filter_append, List.filter_cons_of_pos (by rw [back]; rfl), List.filter_nil, ← present,
        List.map_cons, List.map_append, List.map_singleton, trimFront, trimBack, intercalate_ends,
        ← array_eq_append, members, rejoined, kept_ends, List.map_cons, List.map_append,
        List.map_singleton]
    have more : 1 < (splitAtWord ['|'] (array content)).length := by
      rw [splitAtWord_array members]
      simp
    rw [withoutAbsentMember?, any, text, withoutAbsentBetween]
    cases hasAbsentBetween content <;> simp [more]

/-! ## Arrays -/

theorem absence_typescript : (vocabulary .typescript).absence = .anyMember := rfl

theorem trim_array (content : List Char) : trim (array content) = array content :=
  trim_group rfl rfl rfl content

/-- A content without arrows is one argument. -/
theorem IsContent.splitCommas_eq (h : IsContent content) (arrow : hasArrow content = false) :
    splitCommas content = [trim content] := by
  have comma : ",".toList = [','] := rfl
  have one : pieces [','] none 0 content = [content] :=
    pieces_whole (depthBehind_of_openBehind rfl rfl h.nested ((arrows_eq_zero_iff content).2 arrow)
      fun u v text nested => h.closed ⟨u, v, text, nested⟩)
  rw [splitCommas, splitBy, comma, one]
  simp [h.filled]

/-- The head of an array is found unless an arrow hides it. -/
theorem generic_array (h : IsContent content) :
    generic (array content) =
      if hasArrow content then ⟨array content, []⟩ else ⟨"Array".toList, [trim content]⟩ := by
  have head : ∀ c ∈ "Array".toList, isOpener c = false ∧ isCloser c = false := by
    simp [isOpener, isCloser]
  cases arrow : hasArrow content with
  | true =>
    have counted : arrows none content ≠ 0 := by
      rw [ne_eq, arrows_eq_zero_iff, arrow]
      exact Bool.noConfusion
    exact generic_of_openGroup_eq_none (openGroup_of_arrow rfl h.nested counted head)
      (trim_array content)
  | false =>
    have straight : arrows none content = 0 := (arrows_eq_zero_iff content).2 arrow
    have nonempty : content ≠ [] := by
      rintro rfl
      exact h.filled rfl
    have group := openGroup_of_isNested (rfl : isOpener '<' = true) h.nested straight "Array".toList
    have read := generic_of_openGroup (.inl ⟨rfl, rfl⟩) group (trim_array content)
    rw [array, read, if_pos ⟨by decide, nonempty⟩, h.splitCommas_eq arrow]
    rfl

/-- An array is rendered by its content, unless an arrow in it hides the head. -/
theorem peelPresent_array (h : IsContent content) :
    peelPresent (vocabulary .typescript) (array content) =
      if hasArrow content then (String.ofList (array content), none)
      else ("List of ", some (trim content)) := by
  have angle : '<' ∈ array content := by simp [array]
  have last : (array content).getLast? = some '>' := getLast?_group _ _ _ _
  have words : ∀ word ∈ (vocabulary .typescript).words, ∀ w ∈ word.2, '<' ∉ w.toList := by decide
  have unknown : (vocabulary .typescript).words.find?
      (·.2.contains (String.ofList (array content))) = none := by
    refine List.find?_eq_none.2 fun word hword => Bool.eq_false_iff.1 ?_
    exact isOneOf_eq_false_of_mem angle (words word hword)
  have noMark : behindMark? "" (array content) = none := rfl
  have question : beforeMark? (vocabulary .typescript).optionalEnd (array content) = none :=
    before?_eq_none_of_last last (d := '?') rfl (by decide)
  have brackets : beforeMark? (vocabulary .typescript).sequenceEnd (array content) = none :=
    before?_eq_none_of_last last (d := ']') rfl (by decide)
  have layer : peelGeneric (vocabulary .typescript) (array content) =
      if hasArrow content then (String.ofList (array content), none)
      else ("List of ", some (trim content)) := by
    rw [peelGeneric, generic_array h]
    cases hasArrow content <;> rfl
  have nonempty : (array content).isEmpty = false := rfl
  have marks : (vocabulary .typescript).sequenceMark = "" ∧
      (vocabulary .typescript).optionalMark = "" ∧ (vocabulary .typescript).mapMark = "" :=
    ⟨rfl, rfl, rfl⟩
  rw [peelPresent, trim_array, nonempty, unknown, marks.1, marks.2.1, marks.2.2, noMark, question,
    brackets]
  exact layer

/-- **An array is rendered by what is left of its content** without the absent members between bars,
and is optional if there are any.  An arrow hides the head. -/
theorem renderChars_array (h : IsArgument content) :
    renderChars (vocabulary .typescript) (array content) =
      (if hasAbsentBetween content then "Optional " else "") ++
        if hasArrow content then String.ofList (array (withoutAbsentBetween content))
        else "List of " ++
          renderChars (vocabulary .typescript) (trim (withoutAbsentBetween content)) := by
  have inner := peelPresent_array (isContent_withoutAbsentBetween (.of_isArgument h))
  rw [hasArrow_withoutAbsentBetween] at inner
  have layer : peel (vocabulary .typescript) (array content) =
      ((if hasAbsentBetween content then "Optional " else "") ++
          (peelPresent (vocabulary .typescript) (array (withoutAbsentBetween content))).1,
        (peelPresent (vocabulary .typescript) (array (withoutAbsentBetween content))).2) := by
    rw [peel, absence_typescript, withoutAbsentMember?_array h.trimmed]
    cases between : hasAbsentBetween content with
    | false => simp [withoutAbsentBetween, between]
    | true => rfl
  cases hidden : hasArrow content with
  | true =>
    rw [inner, hidden] at layer
    exact renderChars_of_whole layer
  | false =>
    rw [inner, hidden] at layer
    rw [renderChars_of_around layer, String.append_assoc]
    rfl

/-- An array is a list of what its content is, exactly if no absent member stands between two bars
and no arrow hides the head. -/
theorem renderChars_array_iff (h : IsArgument content) :
    renderChars (vocabulary .typescript) (array content) =
        "List of " ++ renderChars (vocabulary .typescript) content ↔
      hasAbsentBetween content = false ∧ hasArrow content = false := by
  have value := renderChars_array h
  constructor
  · intro same
    rw [same] at value
    have first := congrArg (·.toList.head?) value
    cases between : hasAbsentBetween content with
    | true => simp [between] at first
    | false =>
      cases arrow : hasArrow content with
      | true => simp [between, arrow, array] at first
      | false => exact ⟨rfl, rfl⟩
  · rintro ⟨between, arrow⟩
    rw [value, withoutAbsentBetween, between, arrow, if_neg Bool.false_ne_true,
      if_neg Bool.false_ne_true, if_neg Bool.false_ne_true, h.trimmed]
    exact String.empty_append

/-! ## Unions and arrays -/

/-- **How unions with the absent value and arrays are rendered.**  A union with `None` at one end is
optional, and behind that stands the rendering of the other type without any other `None` in it.  An
array is a list of what its content is, exactly if no absent member stands between two bars of the
content and no arrow hides the head; absent members between bars are lost and make the array itself
optional. -/
theorem render_absent {t : String} (nonempty : t ≠ "") (trimmed : trim t.toList = t.toList)
    (nested : IsNested t.toList) :
    (¬ StandsOutside '|' t.toList →
      render .python (t ++ " | None") =
          "Optional " ++ render .python (String.ofList (withoutNone t.toList)) ∧
        render .python ("None | " ++ t) =
          "Optional " ++ render .python (String.ofList (behindNone t.toList)) ∧
        (holds "| None" t.toList = false → holds "None |" t.toList = false →
          render .python (t ++ " | None") = "Optional " ++ render .python t ∧
            ((begins "None" t.toList = true → t = "None") →
              render .python ("None | " ++ t) = "Optional " ++ render .python t))) ∧
      (¬ StandsOutside ',' t.toList →
        render .typescript ("Array<" ++ t ++ ">") =
            (if hasAbsentBetween t.toList then "Optional " else "") ++
              (if hasArrow t.toList then "Array<" ++ String.ofList (withoutAbsentBetween t.toList) ++ ">"
              else "List of " ++
                render .typescript (String.ofList (trim (withoutAbsentBetween t.toList)))) ∧
          (render .typescript ("Array<" ++ t ++ ">") = "List of " ++ render .typescript t ↔
            hasAbsentBetween t.toList = false ∧ hasArrow t.toList = false)) := by
  have filled : t.toList ≠ [] := by simpa using nonempty
  simp only [render, String.toList_append, String.toList_ofList]
  constructor
  · intro outside
    have bar : begins "None|" t.toList = false := by
      rw [Bool.eq_false_iff]
      intro starts
      obtain ⟨rest, text⟩ := List.isPrefixOf_iff_prefix.1 starts
      exact outside ⟨"None".toList, rest, text.symm, by decide⟩
    have orNone := renderChars_orNone trimmed filled
    have noneOr := renderChars_noneOr trimmed filled bar
    refine ⟨orNone, noneOr, fun behind front => ⟨?_, fun alone => ?_⟩⟩
    · rw [orNone, withoutNone_eq_self behind front]
    · rw [noneOr, ← renderChars_trim, trim_behindNone trimmed behind front fun starts => ?_]
      rw [alone starts]
  · intro closed
    have argument : IsArgument t.toList := ⟨filled, trimmed, nested, closed⟩
    have text : "Array<".toList ++ t.toList ++ ">".toList = array t.toList := rfl
    have text' : String.ofList (array (withoutAbsentBetween t.toList)) =
        "Array<" ++ String.ofList (withoutAbsentBetween t.toList) ++ ">" := by
      rw [← String.toList_inj]
      simp [array]
    rw [text, ← text']
    exact ⟨renderChars_array argument, renderChars_array_iff argument⟩

/-- A union inside a map is kept in an optional map, and its absent member is lost in an array of
maps. -/
theorem render_absent_map :
    (trim "Map<K, A | null | B>".toList = "Map<K, A | null | B>".toList ∧
      IsNested "Map<K, A | null | B>".toList ∧ ¬ StandsOutside '|' "Map<K, A | null | B>".toList ∧
      ¬ StandsOutside ',' "Map<K, A | null | B>".toList) ∧
      render .python "Map<K, A | null | B> | None" =
        "Optional " ++ render .python "Map<K, A | null | B>" ∧
      render .python "None | Map<K, A | null | B>" =
        "Optional " ++ render .python "Map<K, A | null | B>" ∧
      render .typescript "Array<Map<K, A | null | B>>" =
        "Optional List of " ++ render .typescript "Map<K, A | B>" := by
  have trimmed : trim "Map<K, A | null | B>".toList = "Map<K, A | null | B>".toList := by
    decide +kernel
  have nested : IsNested "Map<K, A | null | B>".toList := by decide +kernel
  have bar : ¬ StandsOutside '|' "Map<K, A | null | B>".toList := by decide +kernel
  have comma : ¬ StandsOutside ',' "Map<K, A | null | B>".toList := by decide +kernel
  obtain ⟨python, typescript⟩ := render_absent (by decide) trimmed nested
  obtain ⟨orNone, noneOr⟩ := (python bar).2.2 (by decide +kernel) (by decide +kernel)
  refine ⟨⟨trimmed, nested, bar, comma⟩, orNone, noneOr (by decide +kernel), ?_⟩
  have between : hasAbsentBetween "Map<K, A | null | B>".toList = true := by decide +kernel
  have arrow : hasArrow "Map<K, A | null | B>".toList = false := by decide +kernel
  have left : String.ofList (trim (withoutAbsentBetween "Map<K, A | null | B>".toList)) =
      "Map<K, A | B>" := by decide +kernel
  refine (typescript comma).1.trans ?_
  rw [between, arrow, left, if_pos rfl, if_neg Bool.false_ne_true, ← String.append_assoc]
  rfl

/-- An absent member inside brackets vanishes, or makes the type around it optional. -/
theorem nested_absent_vanishes :
    (IsArgument "list[int | None]".toList ∧ ¬ StandsOutside '|' "list[int | None]".toList ∧
      render .python ("list[int | None]" ++ " | None") = "Optional List of Integer" ∧
      "Optional " ++ render .python "list[int | None]" = "Optional List of Optional Integer") ∧
      IsArgument "A | null | B".toList ∧
      render .typescript ("Array<" ++ "A | null | B" ++ ">") = "Optional List of A | B" ∧
      "List of " ++ render .typescript "A | null | B" = "List of Optional A | B" := by
  have int : peel (vocabulary .python) "int".toList = ("Integer", none) := by decide +kernel
  have union : peel (vocabulary .python) "int | None".toList = ("Optional ", some "int".toList) := by
    decide +kernel
  have list : peel (vocabulary .python) "list[int | None]".toList =
      ("List of ", some "int | None".toList) := by decide +kernel
  have left : peel (vocabulary .python) "list[int ]".toList = ("List of ", some "int".toList) := by
    decide +kernel
  have orNone : peel (vocabulary .python) "list[int | None] | None".toList =
      ("Optional ", some "list[int ]".toList) := by decide +kernel
  have others : peel (vocabulary .typescript) "A | B".toList = ("A | B", none) := by decide +kernel
  have absent : peel (vocabulary .typescript) "A | null | B".toList = ("Optional A | B", none) := by
    decide +kernel
  have array : peel (vocabulary .typescript) "Array<A | null | B>".toList =
      ("Optional List of ", some "A | B".toList) := by decide +kernel
  refine ⟨⟨by decide +kernel, by decide +kernel, ?_, ?_⟩, by decide +kernel, ?_, ?_⟩
  · refine (renderChars_of_around orNone).trans ?_
    rw [renderChars_of_around left, renderChars_of_whole int]
    rfl
  · rw [render, renderChars_of_around list, renderChars_of_around union, renderChars_of_whole int]
    rfl
  · refine (renderChars_of_around array).trans ?_
    rw [renderChars_of_whole others]
    rfl
  · rw [render, renderChars_of_whole absent]
    rfl

end Concord.Spelling.Display
