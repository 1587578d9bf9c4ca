import Concord.Proofs.Spelling.Generic
import Concord.Proofs.Text.Words
import Concord.Reader.Rust.Use

/-!
# Concord.Proofs.Reader.UseTree

Use trees expanded.  `UseTree.text` is what is written and `UseTree.leaves` what is brought in, each
leaf with its full path and its other name:

```
leaf     a::b   a::b::*   a::b as c
group    a::b::{T, U}   {T, U}   a::{}
```

* `useLeaf_text` — a leaf is read with its path and its other name;
* `UseTree.IsProper.isArgument` — a use tree in a group is split off as a whole;
* `expandUse_text` — so every use tree is expanded to its leaves, from left to right.
-/

namespace Concord.Reader.Rust

open Text Spelling

/-! ## Use trees -/

/-- Whether `c` has a meaning of its own between the names of a use tree. -/
def isMark (c : Char) : Bool := isBlank c || isOpener c || isCloser c || c = ':' || c = ','

/-- A name in a use tree: an identifier, a raw one included, or `*`. -/
structure IsName (s : List Char) : Prop where
  nonempty : s ≠ []
  plain : ∀ c ∈ s, isMark c = false

/-- Names with `::` between them. -/
def joined (path : List (List Char)) : List Char := [':', ':'].intercalate path

/-- What stands behind the path of a leaf. -/
inductive Ending where
  | plain
  | all
  | renamed (name : List Char)
deriving DecidableEq, Repr

namespace Ending

/-- The path of a leaf; `*` is its last name where everything is brought in. -/
def full (path : List (List Char)) : Ending → List (List Char)
  | plain | renamed _ => path
  | all => path ++ [['*']]

/-- The other name that a leaf gets. -/
def alias? : Ending → Option (List Char)
  | plain | all => none
  | renamed name => some name

/-- How it is written that a leaf gets another name. -/
def behind : Ending → List Char
  | plain | all => []
  | renamed name => " as ".toList ++ name

end Ending

/-- A use tree: a leaf, or a group of use trees below a path, which may be empty. -/
inductive UseTree where
  | leaf (path : List (List Char)) (ending : Ending)
  | group (own : List (List Char)) (members : List UseTree)
deriving Repr

/-- What stands in front of the braces of a group. -/
def groupFront (own : List (List Char)) : List Char :=
  if own = [] then [] else joined own ++ [':', ':']

/-- The path that a leaf leads to below the path `stem`: `self` stands for that path. -/
def pathBelow (stem path : List (List Char)) : List (List Char) :=
  if path = ["self".toList] ∧ stem ≠ [] then stem else stem ++ path

namespace UseTree

mutual

/-- How a use tree is written. -/
def text : UseTree → List Char
  | leaf path ending => joined (ending.full path) ++ ending.behind
  | group own members => groupFront own ++ '\x7b' :: (listed (texts members) ++ ['\x7d'])

/-- How use trees are written. -/
def texts : List UseTree → List (List Char)
  | [] => []
  | u :: us => u.text :: texts us

end

mutual

/-- What a use tree below the path `stem` brings in. -/
def leaves (stem : List (List Char)) : UseTree → List Used
  | leaf path ending => [⟨joined (pathBelow stem (ending.full path)), ending.alias?⟩]
  | group own members => allLeaves (stem ++ own) members

/-- What use trees below the path `stem` bring in one after the other. -/
def allLeaves (stem : List (List Char)) : List UseTree → List Used
  | [] => []
  | u :: us => u.leaves stem ++ allLeaves stem us

end

/-- Use trees that may stand below the path `stem`: their paths are made of names, and a leaf that is
`self` alone stands below a path that it can stand for. -/
inductive IsProper : List (List Char) → UseTree → Prop
  | leaf {stem path : List (List Char)} {ending : Ending} (nonempty : path ≠ [])
      (names : ∀ s ∈ path, IsName s) (renamed : ∀ name ∈ ending.alias?, IsName name)
      (below : ending.full path = ["self".toList] → stem ≠ []) : IsProper stem (leaf path ending)
  | group {stem own : List (List Char)} {members : List UseTree} (names : ∀ s ∈ own, IsName s)
      (each : ∀ m ∈ members, IsProper (stem ++ own) m) : IsProper stem (group own members)

/-- The texts of a group are those of its members. -/
theorem texts_eq_map (us : List UseTree) : texts us = us.map text := by
  induction us with
  | nil => rfl
  | cons u us ih => rw [texts, ih, List.map_cons]

/-- The leaves of a group are those of its members, in order. -/
theorem allLeaves_eq_flatMap (stem : List (List Char)) (us : List UseTree) :
    allLeaves stem us = us.flatMap (leaves stem) := by
  induction us with
  | nil => rfl
  | cons u us ih => rw [allLeaves, ih, List.flatMap_cons]

end UseTree

/-! ## Names -/

/-- The characters of identifiers are no marks. -/
theorem isMark_of_isIdentifierChar {c : Char} (h : isIdentifierChar c = true) : isMark c = false := by
  obtain ⟨blank, opener, closer⟩ := isIdentifierChar_isFlat h
  have colon : c ≠ ':' := by
    rintro rfl
    exact absurd h (by decide +kernel)
  have comma : c ≠ ',' := by
    rintro rfl
    exact absurd h (by decide +kernel)
  simp [isMark, blank, opener, closer, colon, comma]

/-- Identifiers are names. -/
theorem IsName.of_isIdentifier {s : List Char} (h : isIdentifier s = true) : IsName s where
  nonempty := (IsHead.of_isIdentifier h).nonempty
  plain _ hc := isMark_of_isIdentifierChar (isIdentifierChar_of_mem h hc)

theorem isName_of_all {path : List (List Char)} (h : path.all isIdentifier = true) :
    ∀ s ∈ path, IsName s :=
  fun s hs => .of_isIdentifier (List.all_eq_true.1 h s hs)

theorem IsName.notMem {s : List Char} (h : IsName s) {c : Char} (mark : isMark c = true) : c ∉ s :=
  fun hc => by simp [h.plain c hc] at mark

theorem flat_of_not_isMark {c : Char} (h : isMark c = false) :
    isBlank c = false ∧ isOpener c = false ∧ isCloser c = false := by
  simp only [isMark, Bool.or_eq_false_iff] at h
  exact ⟨h.1.1.1.1, h.1.1.1.2, h.1.1.2⟩

/-! ## Paths -/

section

variable {path stem : List (List Char)}

theorem joined_singleton (s : List Char) : joined [s] = s := by simp [joined]

theorem joined_cons_cons (s t : List Char) (path : List (List Char)) :
    joined (s :: t :: path) = s ++ ':' :: ':' :: joined (t :: path) := by
  rw [joined, List.intercalate_cons_cons, List.append_assoc]
  rfl

/-- The characters of a path are those of its segments, and colons. -/
theorem mem_joined {c : Char} (h : c ∈ joined path) : c = ':' ∨ ∃ s ∈ path, c ∈ s := by
  induction path with
  | nil => cases h
  | cons s path ih =>
    cases path with
    | nil => exact .inr ⟨s, List.mem_cons_self, joined_singleton s ▸ h⟩
    | cons t path =>
      rw [joined_cons_cons, List.mem_append, List.mem_cons, List.mem_cons] at h
      rcases h with h | h | h | h
      · exact .inr ⟨s, List.mem_cons_self, h⟩
      · exact .inl h
      · exact .inl h
      · exact (ih h).imp_right fun ⟨d, hd, mem⟩ => ⟨d, List.mem_cons_of_mem _ hd, mem⟩

/-- Paths joined one behind the other are their texts with a joint between. -/
theorem joined_append (nonempty : stem ≠ []) (nonempty' : path ≠ []) :
    joined (stem ++ path) = joined stem ++ ':' :: ':' :: joined path := by
  induction stem with
  | nil => exact absurd rfl nonempty
  | cons s stem ih =>
    cases stem with
    | nil =>
      obtain ⟨t, path, rfl⟩ := List.exists_cons_of_ne_nil nonempty'
      rw [List.singleton_append, joined_cons_cons, joined_singleton]
    | cons t stem =>
      rw [List.cons_append, List.cons_append, joined_cons_cons, ← List.cons_append,
        ih (List.cons_ne_nil _ _), joined_cons_cons, List.append_assoc]
      rfl

/-- A path begins and ends with characters of names. -/
theorem joined_ends (nonempty : path ≠ []) (names : ∀ s ∈ path, IsName s) :
    (∃ c, (joined path).head? = some c ∧ isMark c = false) ∧
      ∃ c, (joined path).getLast? = some c ∧ isMark c = false := by
  induction path with
  | nil => exact absurd rfl nonempty
  | cons s path ih =>
    have own := names s List.mem_cons_self
    obtain ⟨c, r, rfl⟩ := List.exists_cons_of_ne_nil own.nonempty
    have first : isMark c = false := own.plain c List.mem_cons_self
    cases path with
    | nil =>
      rw [joined_singleton]
      exact ⟨⟨c, rfl, first⟩, _, List.getLast?_eq_some_getLast (List.cons_ne_nil _ _),
        own.plain _ (List.getLast_mem _)⟩
    | cons t path =>
      obtain ⟨-, d, last, unmarked⟩ :=
        ih (List.cons_ne_nil _ _) fun u hu => names u (List.mem_cons_of_mem _ hu)
      rw [joined_cons_cons]
      refine ⟨⟨c, rfl, first⟩, d, ?_, unmarked⟩
      rw [List.getLast?_append, List.getLast?_cons_cons, List.getLast?_cons, last]
      rfl

/-- A path of names is not an empty text. -/
theorem joined_ne_nil (nonempty : path ≠ []) (names : ∀ s ∈ path, IsName s) : joined path ≠ [] := by
  obtain ⟨⟨c, first, -⟩, -⟩ := joined_ends nonempty names
  intro empty
  rw [empty] at first
  cases first

/-- A path without colons is a single name. -/
theorem eq_singleton_of_joined {word : List Char} (h : joined path = word) (nonempty : path ≠ [])
    (free : ':' ∉ word) : path = [word] := by
  obtain ⟨s, path, rfl⟩ := List.exists_cons_of_ne_nil nonempty
  cases path with
  | nil => rw [← h, joined_singleton]
  | cons t path =>
    rw [joined_cons_cons] at h
    exact absurd (h ▸ by simp) free

/-- Paths are put below each other as their texts are. -/
theorem below_joined (stemNames : ∀ s ∈ stem, IsName s) (names : ∀ s ∈ path, IsName s) :
    below (joined stem) (joined path) = joined (stem ++ path) := by
  have none : joined [] = [] := rfl
  rw [below]
  by_cases noStem : stem = []
  · subst noStem
    rfl
  · have someStem := joined_ne_nil noStem stemNames
    by_cases noPath : path = []
    · subst noPath
      simp [none, someStem]
    · rw [joined_append noStem noPath]
      simp [someStem, joined_ne_nil noPath names]

end

/-! ## Texts -/

/-- The segments of a leaf's full path are names. -/
theorem isName_full {path : List (List Char)} (names : ∀ s ∈ path, IsName s) (ending : Ending) :
    ∀ s ∈ ending.full path, IsName s := by
  cases ending with
  | plain | renamed => exact names
  | all =>
    intro s hs
    rcases List.mem_append.1 hs with hs | hs
    · exact names s hs
    · rw [List.mem_singleton.1 hs]
      refine ⟨List.cons_ne_nil _ _, fun c hc => ?_⟩
      rw [List.mem_singleton.1 hc]
      rfl

theorem full_ne_nil {path : List (List Char)} (nonempty : path ≠ []) (ending : Ending) :
    ending.full path ≠ [] := by
  cases ending <;> simp [Ending.full, nonempty]

/-- The characters of a leaf are those of names, colons and spaces. -/
theorem mem_leaf {path : List (List Char)} {ending : Ending} (names : ∀ s ∈ path, IsName s)
    (renamed : ∀ name ∈ ending.alias?, IsName name) {c : Char}
    (hc : c ∈ (UseTree.leaf path ending).text) : isMark c = false ∨ c = ':' ∨ c = ' ' := by
  rw [UseTree.text, List.mem_append] at hc
  rcases hc with hc | hc
  · rcases mem_joined hc with colon | ⟨s, hs, mem⟩
    · exact .inr (.inl colon)
    · exact .inl ((isName_full names ending s hs).plain c mem)
  · cases ending with
    | plain | all => cases hc
    | renamed name =>
      rcases List.mem_append.1 hc with hc | hc
      · have word : c = ' ' ∨ c = 'a' ∨ c = 's' := by
          simp at hc
          tauto
        rcases word with rfl | rfl | rfl
        · exact .inr (.inr rfl)
        · exact .inl (by decide)
        · exact .inl (by decide)
      · exact .inl ((renamed name rfl).plain c hc)

/-- Of the characters with a meaning of their own, a leaf holds colons and blanks only. -/
theorem notMem_leaf {path : List (List Char)} {ending : Ending} (names : ∀ s ∈ path, IsName s)
    (renamed : ∀ name ∈ ending.alias?, IsName name) {c : Char} (mark : isMark c = true)
    (other : c ≠ ':' ∧ c ≠ ' ') : c ∉ (UseTree.leaf path ending).text := by
  intro hc
  rcases mem_leaf names renamed hc with plain | colon | blank
  · rw [plain] at mark
    cases mark
  · exact other.1 colon
  · exact other.2 blank

/-- The characters in front of a group are those of names, and colons. -/
theorem mem_groupFront {own : List (List Char)} (names : ∀ s ∈ own, IsName s) {c : Char}
    (hc : c ∈ groupFront own) : isMark c = false ∨ c = ':' := by
  rw [groupFront] at hc
  split at hc
  · cases hc
  · rcases List.mem_append.1 hc with hc | hc
    · rcases mem_joined hc with colon | ⟨s, hs, mem⟩
      · exact .inr colon
      · exact .inl ((names s hs).plain c mem)
    · exact .inr (by simpa using hc)

/-- No other mark stands in front of a group. -/
theorem notMem_groupFront {own : List (List Char)} (names : ∀ s ∈ own, IsName s) {c : Char}
    (mark : isMark c = true) (other : c ≠ ':') : c ∉ groupFront own := by
  intro hc
  rcases mem_groupFront names hc with plain | colon
  · rw [plain] at mark
    cases mark
  · exact other colon

/-- What stands in front of a group opens and closes nothing. -/
theorem flat_groupFront {own : List (List Char)} (names : ∀ s ∈ own, IsName s) :
    ∀ c ∈ groupFront own, isOpener c = false ∧ isCloser c = false := by
  intro c hc
  rcases mem_groupFront names hc with plain | rfl
  · exact (flat_of_not_isMark plain).2
  · exact ⟨rfl, rfl⟩

/-- What stands in front of a group has nothing to trim. -/
theorem trim_groupFront {own : List (List Char)} (names : ∀ s ∈ own, IsName s) :
    trim (groupFront own) = groupFront own := by
  have notBlank : ∀ c ∈ groupFront own, isBlank c = false := by
    intro c hc
    rcases mem_groupFront names hc with plain | rfl
    · exact (flat_of_not_isMark plain).1
    · decide
  exact trim_eq_self (fun c hc => notBlank c (List.mem_of_head? hc))
    fun c hc => notBlank c (List.mem_of_getLast? hc)

/-- A leaf has nothing to trim. -/
theorem trim_leaf {path : List (List Char)} {ending : Ending} (nonempty : path ≠ [])
    (names : ∀ s ∈ path, IsName s) (renamed : ∀ name ∈ ending.alias?, IsName name) :
    trim (UseTree.leaf path ending).text = (UseTree.leaf path ending).text := by
  obtain ⟨⟨c, first, unmarked⟩, d, last, unmarked'⟩ :=
    joined_ends (full_ne_nil nonempty ending) (isName_full names ending)
  refine trim_eq_self (fun e he => ?_) (fun e he => ?_)
  · rw [UseTree.text, List.head?_append, first, Option.some_or, Option.some.injEq] at he
    exact he ▸ (flat_of_not_isMark unmarked).1
  · cases ending with
    | plain | all =>
      rw [UseTree.text, Ending.behind, List.append_nil, last, Option.some.injEq] at he
      exact he ▸ (flat_of_not_isMark unmarked').1
    | renamed name =>
      have own := renamed name rfl
      rw [UseTree.text, Ending.behind, ← List.append_assoc, List.getLast?_append,
        List.getLast?_eq_some_getLast own.nonempty, Option.some_or, Option.some.injEq] at he
      exact he ▸ (flat_of_not_isMark (own.plain _ (List.getLast_mem own.nonempty))).1

namespace UseTree.IsProper

variable {stem : List (List Char)} {u : UseTree}

/-- **A use tree in a group is split off as a whole.** -/
theorem isArgument (h : u.IsProper stem) : IsArgument u.text := by
  induction h with
  | @leaf stem path ending nonempty names renamed below =>
    have flat : ∀ c ∈ (UseTree.leaf path ending).text, isOpener c = false ∧ isCloser c = false := by
      intro c hc
      rcases mem_leaf names renamed hc with plain | rfl | rfl
      · exact (flat_of_not_isMark plain).2
      · exact ⟨rfl, rfl⟩
      · exact ⟨rfl, rfl⟩
    exact ⟨List.append_ne_nil_of_left_ne_nil
        (joined_ne_nil (full_ne_nil nonempty ending) (isName_full names ending)) _,
      trim_leaf nonempty names renamed, openBehind_of_flat flat none 0,
      not_standsOutside_of_notMem (notMem_leaf names renamed (by decide) (by decide))⟩
  | @group stem own members names each ih =>
    have nested : IsNested (listed (texts members)) :=
      isNested_listed (by simpa [texts_eq_map] using fun m hm => (ih m hm).nested)
    have noComma : ',' ∉ groupFront own := notMem_groupFront names (by decide) (by decide)
    rw [text]
    exact ⟨by simp, trim_group rfl rfl (trim_groupFront names) _,
      isNested_group (flat_groupFront names) rfl rfl nested (by simp [isArrowhead]),
      not_standsOutside_group noComma rfl (flat_groupFront names) nested (by decide) (by decide)⟩

/-- No use tree holds an angle bracket. -/
theorem angle_notMem (h : u.IsProper stem) : '>' ∉ u.text := by
  induction h with
  | leaf nonempty names renamed below => exact notMem_leaf names renamed (by decide) (by decide)
  | group names each ih =>
    rw [text, List.mem_append, List.mem_cons, List.mem_append, List.mem_singleton]
    rintro (front | other | inside | other)
    · exact notMem_groupFront names (by decide) (by decide) front
    · exact absurd other (by decide)
    · rcases mem_listed inside with other | other | ⟨t, ht, mem⟩
      · cases other
      · cases other
      · rw [texts_eq_map] at ht
        obtain ⟨m, hm, rfl⟩ := List.mem_map.1 ht
        exact ih m hm mem
    · exact absurd other (by decide)

end UseTree.IsProper

/-! ## Renamed paths -/

/-- A path of names holds no space. -/
theorem blank_notMem_joined {path : List (List Char)} (names : ∀ s ∈ path, IsName s) :
    ' ' ∉ joined path := fun blank => by
  rcases mem_joined blank with other | ⟨s, hs, mem⟩
  · cases other
  · exact (names s hs).notMem (by decide) mem

theorem trim_joined {path : List (List Char)} (nonempty : path ≠ []) (names : ∀ s ∈ path, IsName s) :
    trim (joined path) = joined path := by
  have whole := @trim_leaf path .plain nonempty names nofun
  rwa [UseTree.text, Ending.full, Ending.behind, List.append_nil] at whole

/-- The path of a leaf, put together from its text. -/
theorem joined_pathBelow {stem path : List (List Char)} (stemNames : ∀ s ∈ stem, IsName s)
    (nonempty : path ≠ []) (names : ∀ s ∈ path, IsName s)
    (below' : path = ["self".toList] → stem ≠ []) :
    (if joined path = "self".toList then joined stem else below (joined stem) (joined path)) =
      joined (pathBelow stem path) := by
  by_cases own : joined path = "self".toList
  · have alone : path = ["self".toList] := eq_singleton_of_joined own nonempty (by decide)
    rw [if_pos own, pathBelow, if_pos ⟨alone, below' alone⟩]
  · have other : path ≠ ["self".toList] := fun alone => own (by rw [alone, joined_singleton])
    rw [if_neg own, below_joined stemNames names, pathBelow, if_neg fun both => other both.1]

/-- **A leaf is read with its path and its other name.** -/
theorem useLeaf_text {stem path : List (List Char)} {ending : Ending}
    (stemNames : ∀ s ∈ stem, IsName s) (nonempty : path ≠ []) (names : ∀ s ∈ path, IsName s)
    (renamed : ∀ name ∈ ending.alias?, IsName name)
    (below : ending.full path = ["self".toList] → stem ≠ []) :
    useLeaf (joined stem) (UseTree.leaf path ending).text =
      ⟨joined (pathBelow stem (ending.full path)), ending.alias?⟩ := by
  have word : " as ".toList = ' ' :: "as ".toList := rfl
  have full := full_ne_nil nonempty ending
  have fullNames := isName_full names ending
  rw [← joined_pathBelow stemNames full fullNames below, UseTree.text]
  cases ending with
  | plain | all =>
    rw [Ending.behind, List.append_nil, useLeaf, word,
      splitAtWord_of_notMem (blank_notMem_joined fullNames)]
    rfl
  | renamed name =>
    have own := renamed name rfl
    have trimmed : trim name = name :=
      trim_eq_self (fun c hc => (flat_of_not_isMark (own.plain c (List.mem_of_head? hc))).1)
        fun c hc => (flat_of_not_isMark (own.plain c (List.mem_of_getLast? hc))).1
    rw [Ending.behind, useLeaf, word, ← List.append_assoc,
      splitAtWord_append (blank_notMem_joined fullNames),
      splitAtWord_of_notMem (own.notMem (by decide))]
    simp only [List.intercalate_singleton, trim_joined full fullNames, trimmed]
    rfl

/-! ## Groups -/

/-- In front of the braces stands the path of the group. -/
theorem trimEndBy_groupFront {own : List (List Char)} (names : ∀ s ∈ own, IsName s) :
    trimEndBy (· = ':') (groupFront own) = joined own := by
  rw [groupFront]
  split
  · rename_i empty
    rw [empty]
    rfl
  · rename_i nonempty
    obtain ⟨-, c, last, unmarked⟩ := joined_ends nonempty names
    have notColon : c ≠ ':' := by
      rintro rfl
      exact absurd unmarked (by decide)
    obtain ⟨r, text⟩ := List.getLast?_eq_some_iff.1 last
    simp [trimEndBy, text, notColon]

/-- **A group is taken apart into its path and its content.** -/
theorem useGroup?_text {own : List (List Char)} (names : ∀ s ∈ own, IsName s)
    (content : List Char) :
    useGroup? (groupFront own ++ '\x7b' :: (content ++ ['\x7d'])) = some (joined own, content) := by
  have outside : ∀ c ∈ groupFront own, c ≠ '\x7b' := by
    rintro c hc rfl
    exact notMem_groupFront names (by decide) (by decide) hc
  have trimmed : trim (joined own) = joined own := by
    by_cases empty : own = []
    · rw [empty]
      rfl
    · exact trim_joined empty names
  have isGroup : ((groupFront own ++ '\x7b' :: (content ++ ['\x7d'])).contains '\x7b' &&
      ends "\x7d" (groupFront own ++ '\x7b' :: (content ++ ['\x7d']))) = true := by
    have last : ['\x7d'] <:+ groupFront own ++ '\x7b' :: (content ++ ['\x7d']) :=
      ⟨groupFront own ++ '\x7b' :: content, by simp⟩
    simpa [ends] using last
  have head : upTo '\x7b' (groupFront own ++ '\x7b' :: (content ++ ['\x7d'])) = groupFront own := by
    rw [upTo, List.takeWhile_append_of_pos fun c hc => decide_eq_true (outside c hc)]
    simp
  have rest : (groupFront own ++ '\x7b' :: (content ++ ['\x7d'])).dropWhile (· ≠ '\x7b') =
      '\x7b' :: (content ++ ['\x7d']) := by
    rw [List.dropWhile_append_of_pos fun c hc => decide_eq_true (outside c hc)]
    simp
  rw [useGroup?, if_pos isGroup, head, rest, trimEndBy_groupFront names, trimmed, List.drop_one,
    List.tail_cons, List.dropLast_concat]

/-- Without a brace a use tree is a leaf. -/
theorem useGroup?_leaf {path : List (List Char)} {ending : Ending} (names : ∀ s ∈ path, IsName s)
    (renamed : ∀ name ∈ ending.alias?, IsName name) :
    useGroup? (UseTree.leaf path ending).text = none := by
  have free : '\x7b' ∉ (UseTree.leaf path ending).text :=
    notMem_leaf names renamed (by decide) (by decide)
  rw [useGroup?, if_neg]
  simp [free]

/-- A group is expanded member by member, below what stands in front of it. -/
theorem expandUse_of_group {stem s head inner : List Char}
    (h : useGroup? (trim s) = some (head, inner)) :
    expandUse stem s = (splitCommas inner).flatMap (expandUse (below stem head)) := by
  rw [expandUse]
  split
  · rename_i same
    rw [h, Option.some.injEq, Prod.mk.injEq] at same
    rw [same.1, same.2]
    simp
  · rename_i none
    rw [h] at none
    cases none

/-- What is no group is a leaf. -/
theorem expandUse_of_leaf {stem s : List Char} (h : useGroup? (trim s) = none) :
    expandUse stem s = [useLeaf stem (trim s)] := by
  rw [expandUse]
  split
  · rename_i some
    rw [h] at some
    cases some
  · rfl

/-! ## Expansion -/

/-- A use tree below a path is expanded to its leaves below this path. -/
theorem UseTree.IsProper.expandUse_eq {stem : List (List Char)} {u : UseTree} (h : u.IsProper stem)
    (stemNames : ∀ s ∈ stem, IsName s) : expandUse (joined stem) u.text = u.leaves stem := by
  induction h with
  | leaf nonempty names renamed below =>
    have trimmed := trim_leaf nonempty names renamed
    rw [expandUse_of_leaf (by rw [trimmed]; exact useGroup?_leaf names renamed), trimmed,
      useLeaf_text stemNames nonempty names renamed below, leaves]
  | @group stem own members names each ih =>
    have parts : splitCommas (listed (texts members)) = texts members := by
      refine splitCommas_listed (fun t ht => ?_) (any_hasArrow_eq_false fun t ht => ?_) <;>
        rw [texts_eq_map] at ht <;> obtain ⟨m, hm, rfl⟩ := List.mem_map.1 ht
      · exact (each m hm).isArgument
      · have angle := (each m hm).angle_notMem
        rw [hasArrow, holds_eq_false (by decide) angle, holds_eq_false (by decide) angle]
        rfl
    have trimmed : trim (UseTree.group own members).text = (UseTree.group own members).text :=
      (IsProper.group names each).isArgument.trimmed
    have taken : useGroup? (trim (UseTree.group own members).text) =
        some (joined own, listed (texts members)) := by
      rw [trimmed, text]
      exact useGroup?_text names _
    have innerNames : ∀ s ∈ stem ++ own, IsName s := fun s hs =>
      (List.mem_append.1 hs).elim (stemNames s) (names s)
    rw [expandUse_of_group taken, below_joined stemNames names, parts, texts_eq_map, leaves,
      allLeaves_eq_flatMap, List.flatMap_map]
    exact List.flatMap_congr fun m hm => ih m hm innerNames

/-- **Every use tree is expanded to its leaves, from left to right.** -/
theorem expandUse_text {u : UseTree} (h : u.IsProper []) : expandUse [] u.text = u.leaves [] :=
  h.expandUse_eq nofun

/-- Two groups, one in the other. -/
def nestedGroups : UseTree :=
  .group ["std".toList] [
    .leaf ["io".toList] .plain,
    .group ["fmt".toList] [
      .leaf ["self".toList] (.renamed "f".toList),
      .leaf ["Display".toList] .plain],
    .leaf ["prelude".toList] .all]

/-- A group within a group, with a name of its own, a renamed module and all that a module holds.
-/
theorem expandUse_text_nestedGroups :
    nestedGroups.IsProper [] ∧
      nestedGroups.text = "std::\x7bio, fmt::\x7bself as f, Display\x7d, prelude::*\x7d".toList ∧
      expandUse [] "std::\x7bio, fmt::\x7bself as f, Display\x7d, prelude::*\x7d".toList = [
        ⟨"std::io".toList, none⟩,
        ⟨"std::fmt".toList, some "f".toList⟩,
        ⟨"std::fmt::Display".toList, none⟩,
        ⟨"std::prelude::*".toList, none⟩] := by
  have isProper : nestedGroups.IsProper [] := by
    refine .group (isName_of_all (by decide +kernel)) ?_
    simp only [List.forall_mem_cons, List.not_mem_nil, false_imp_iff, implies_true, and_true]
    refine ⟨.leaf (by decide) (isName_of_all (by decide +kernel)) nofun nofun,
      .group (isName_of_all (by decide +kernel)) ?_,
      .leaf (by decide) (isName_of_all (by decide +kernel)) nofun nofun⟩
    simp only [List.forall_mem_cons, List.not_mem_nil, false_imp_iff, implies_true, and_true]
    refine ⟨.leaf (by decide) (isName_of_all (by decide +kernel)) ?_ (by decide),
      .leaf (by decide) (isName_of_all (by decide +kernel)) nofun nofun⟩
    rintro name ⟨⟩
    exact .of_isIdentifier (by decide +kernel)
  have written : nestedGroups.text =
      "std::\x7bio, fmt::\x7bself as f, Display\x7d, prelude::*\x7d".toList := by decide +kernel
  have expanded := expandUse_text isProper
  rw [written] at expanded
  exact ⟨isProper, written, expanded.trans (by decide +kernel)⟩

end Concord.Reader.Rust
