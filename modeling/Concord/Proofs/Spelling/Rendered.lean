import Concord.Proofs.Spelling.Bracket
import Concord.Proofs.Spelling.Pieces
import Concord.Proofs.Text.Words
import Concord.Spelling.Display

/-!
# Concord.Proofs.Spelling.Rendered

Types in plain words, one layer at a time, and unions with `None` at one end.  Such a union is
noticed at its end, but the absent value and its bar are removed wherever they stand:

```
list[int] | None            Optional List of Integer
None | list[int]            Optional List of Integer
list[int | None] | None     Optional List of Integer
```

* `renderChars_of_around` — a layer is rendered as its words with the spelling inside behind them;
* `renderChars_orNone`, `renderChars_noneOr` — which text is rendered behind `Optional`.
-/

namespace Concord.Spelling.Display

open Text

/-! ## Layers -/

section Layers

variable {v : Vocabulary} {s t : List Char} {words : String}

theorem renderChars_of_whole (h : peel v s = (words, none)) : renderChars v s = words := by
  rw [renderChars]
  split
  · rw [h]
  · next inner =>
    rw [h] at inner
    cases inner

/-- Behind the words of a layer what is inside is rendered. -/
theorem renderChars_of_around (h : peel v s = (words, some t)) :
    renderChars v s = words ++ renderChars v t := by
  rw [renderChars]
  split
  · next whole =>
    rw [h] at whole
    cases whole
  · next inner =>
    rw [h] at inner ⊢
    rw [Option.some.inj inner]

/-- Spellings with the same outermost layer are rendered alike. -/
theorem renderChars_congr (h : peel v s = peel v t) : renderChars v s = renderChars v t := by
  cases layer : peel v t with
  | mk words inner =>
    cases inner with
    | none => rw [renderChars_of_whole layer, renderChars_of_whole (h.trans layer)]
    | some inner => rw [renderChars_of_around layer, renderChars_of_around (h.trans layer)]

theorem peelPresent_trim (v : Vocabulary) (s : List Char) :
    peelPresent v (trim s) = peelPresent v s := by
  rw [peelPresent, peelPresent, trim_trim]

end Layers

/-! ## Without the absent value -/

/-- A text without the absent value and its bar, wherever they stand. -/
def withoutNone (s : List Char) : List Char :=
  replaceWord "None |" "" (replaceWord "| None" "" s)

/-- What is rendered of a text behind `None |`.  Where the text begins with the same word, the bar is
removed together with that, and the word in front of the bar stays. -/
def behindNone (s : List Char) : List Char :=
  match after? "None" s with
  | some rest => "None ".toList ++ withoutNone rest
  | none => withoutNone s

/-- A text without either spelling of an absent member is left as it is. -/
theorem withoutNone_eq_self {s : List Char} (behind : holds "| None" s = false)
    (front : holds "None |" s = false) : withoutNone s = s := by
  rw [withoutNone, removed_eq_self behind, removed_eq_self front]

theorem withoutNone_orNone (t : List Char) :
    withoutNone (t ++ " | None".toList) = withoutNone t ++ [' '] := by
  have end' : replaceWord "| None" "" " | None".toList = [' '] := by
    have spelled : " | None".toList = [' '] ++ ("| None".toList ++ []) := rfl
    rw [spelled, removed_append_of_notMem rfl (by decide), removed_word_append (by decide),
      removed_nil, List.append_nil]
  have blank : replaceWord "None |" "" [' '] = [' '] := removed_eq_self (by decide)
  rw [withoutNone, removed_append (by decide) (by decide), end',
    removed_append (by decide) (by decide), blank, withoutNone]

/-- The bar behind `None` belongs to that, unless it can belong to what follows. -/
theorem trim_withoutNone_noneOr {t : List Char} (bar : begins "None|" t = false) :
    trim (withoutNone ("None | ".toList ++ t)) = trim (behindNone t) := by
  by_cases same : begins "None" t = true
  · obtain ⟨rest, rfl⟩ := List.isPrefixOf_iff_prefix.1 same
    -- The word in front of the removed bar finds no bar of its own: none stands behind it.
    have apart : begins "None |" ('N' :: ("one ".toList ++ replaceWord "| None" "" rest)) = false := by
      cases rest with
      | nil =>
        rw [removed_nil]
        rfl
      | cons c r =>
        have other : '|' ≠ c := by simpa [begins, List.isPrefixOf] using bar
        rw [removed_cons (begins_cons_eq_false (by simpa using other) r)]
        simp [begins, List.isPrefixOf, other]
    have spelled : "None | ".toList ++ ("None".toList ++ rest) =
        "None ".toList ++ ("| None".toList ++ rest) := rfl
    have lead (s : List Char) : "None ".toList ++ s = 'N' :: ("one ".toList ++ s) := rfl
    have text : behindNone ("None".toList ++ rest) = "None ".toList ++ withoutNone rest := by
      rw [behindNone, after?, if_pos same]
      rfl
    rw [withoutNone, spelled, removed_append_of_notMem rfl (by decide),
      removed_word_append (by decide), lead, removed_cons apart,
      removed_append_of_notMem rfl (by decide), text, withoutNone, lead]
  · have spelled : "None | ".toList ++ t = "None ".toList ++ ('|' :: ' ' :: t) := rfl
    have lead (s : List Char) : "None ".toList ++ ('|' :: ' ' :: s) = "None |".toList ++ ([' '] ++ s) :=
      rfl
    have apart : begins "| None" ('|' :: ' ' :: t) = false := Bool.eq_false_iff.2 same
    have apart' : begins "| None" (' ' :: t) = false := begins_cons_eq_false (by decide) t
    have text : behindNone t = withoutNone t := by
      rw [behindNone, after?, if_neg same]
    rw [withoutNone, spelled, removed_append_of_notMem rfl (by decide), removed_cons apart,
      removed_cons apart', lead, removed_word_append (by decide),
      removed_append_of_notMem rfl (by decide), text, ← withoutNone]
    exact trim_cons_blank rfl _

/-- A text that does not begin with `None`, or is nothing else, is rendered as it stands. -/
theorem trim_behindNone {t : List Char} (trimmed : trim t = t) (behind : holds "| None" t = false)
    (front : holds "None |" t = false) (alone : begins "None" t = true → t = "None".toList) :
    trim (behindNone t) = t := by
  by_cases same : begins "None" t = true
  · rw [alone same]
    have text : behindNone "None".toList = "None ".toList ++ withoutNone [] := rfl
    rw [text, withoutNone_eq_self rfl rfl]
    decide
  · rw [behindNone, after?, if_neg same, withoutNone_eq_self behind front, trimmed]

/-! ## Unions with the absent value at one end -/

theorem absence_python : (vocabulary .python).absence = .endMember := rfl

/-- White space around a spelling is not rendered. -/
theorem renderChars_trim (s : List Char) :
    renderChars (vocabulary .python) (trim s) = renderChars (vocabulary .python) s := by
  have same : withoutAbsentEnd? (trim s) = withoutAbsentEnd? s := by
    rw [withoutAbsentEnd?, withoutAbsentEnd?, trim_trim]
  refine renderChars_congr ?_
  rw [peel, peel, absence_python, same, peelPresent_trim]

/-- A trimmed union with the absent value at one end is optional. -/
theorem renderChars_of_absentEnd {s : List Char} (trimmed : trim s = s)
    (marked : (ends "| None" s || begins "None |" s) = true) :
    renderChars (vocabulary .python) s =
      "Optional " ++ renderChars (vocabulary .python) (withoutNone s) := by
  have layer : peel (vocabulary .python) s = ("Optional ", some (trim (withoutNone s))) := by
    rw [peel, absence_python, withoutAbsentEnd?, trimmed, if_pos marked, withoutNone]
  rw [renderChars_of_around layer, renderChars_trim]

section Ends

variable {t : List Char} (trimmed : trim t = t) (nonempty : t ≠ [])

include trimmed nonempty

/-- **A type or nothing is optional**, and no absent value is rendered of the type. -/
theorem renderChars_orNone : renderChars (vocabulary .python) (t ++ " | None".toList) =
    "Optional " ++ renderChars (vocabulary .python) (withoutNone t) := by
  have whole : trim (t ++ " | None".toList) = t ++ " | None".toList := by
    refine trim_eq_self (fun c hc => ?_) (fun c hc => ?_)
    · rw [List.head?_append_of_ne_nil _ nonempty] at hc
      exact (notBlank_of_trim_eq_self trimmed).1 c hc
    · rw [List.getLast?_append] at hc
      cases hc
      decide
  have marked : ends "| None" (t ++ " | None".toList) = true :=
    List.isSuffixOf_iff_suffix.2 ⟨t ++ [' '], by simp⟩
  rw [renderChars_of_absentEnd whole (by rw [marked, Bool.true_or]), withoutNone_orNone,
    ← renderChars_trim, trim_append_blank rfl, renderChars_trim]

/-- **Nothing or a type is optional**, and no absent value is rendered of the type. -/
theorem renderChars_noneOr (bar : begins "None|" t = false) :
    renderChars (vocabulary .python) ("None | ".toList ++ t) =
      "Optional " ++ renderChars (vocabulary .python) (behindNone t) := by
  have whole : trim ("None | ".toList ++ t) = "None | ".toList ++ t := by
    refine trim_eq_self (fun c hc => ?_) (fun c hc => ?_)
    · cases hc
      decide
    · rw [List.getLast?_append_of_ne_nil _ nonempty] at hc
      exact (notBlank_of_trim_eq_self trimmed).2 c hc
  have marked : begins "None |" ("None | ".toList ++ t) = true := rfl
  rw [renderChars_of_absentEnd whole (by rw [marked, Bool.or_true]), ← renderChars_trim,
    trim_withoutNone_noneOr bar, renderChars_trim]

end Ends

end Concord.Spelling.Display
