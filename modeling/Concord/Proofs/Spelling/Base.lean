import Mathlib.Tactic.SplitIfs
import Concord.Proofs.Name.Letters
import Concord.Proofs.Spelling.Plain

/-!
# Concord.Proofs.Spelling.Base

Bases read back as spellings.  A base is a canonical one or a name (`IsBase`), and either is a plain
word, so that reading it back is a matter of the vocabulary.

* `isBase_base` — every spelling has a base of one of the two kinds;
* `base_of_isBase` — what a base is read back as;
* `base_base_iff` — so a base is read back as itself unless it is a bare head of a container, such as
  the `list` of `pkg.List`, or a name that is not its own compared form.
-/

namespace Concord.Spelling

open Text

/-! ## Canonical bases -/

/-- The value of the vocabulary at a spelling is the name of a family. -/
theorem mem_of_lookup? {s : List Char} {b : String} (h : Vocabulary.lookup? s = some b) :
    b ∈ Vocabulary.families.map (·.1) := by
  rw [Vocabulary.lookup?, Option.map_eq_some_iff] at h
  obtain ⟨family, found, rfl⟩ := h
  exact List.mem_map_of_mem (List.mem_of_find?_eq_some found)

/-- Every canonical base spells itself, is made of name characters, and heads no container. -/
theorem canonical_isLawful : ∀ b ∈ Vocabulary.families.map (·.1),
    Vocabulary.lookup? b.toList = some b ∧ b ≠ "" ∧
      b.toList.all (fun c => Name.isNameChar c && c.toNat < 128) = true ∧
      b ∉ Vocabulary.sequences ∧ b ∉ Vocabulary.maps := by
  decide +kernel

/-- The canonical bases are ASCII names. -/
theorem canonical_isAscii {b : String} (known : b ∈ Vocabulary.families.map (·.1)) :
    ∀ c ∈ b.toList, Name.isNameChar c = true ∧ c.toNat < 128 := by
  intro c hc
  have := List.all_eq_true.1 (canonical_isLawful b known).2.2.1 c hc
  rwa [Bool.and_eq_true, decide_eq_true_eq] at this

/-! ## Bases -/

/-- What a base can be: canonical, or the compared form of a word. -/
inductive IsBase : String → Prop
  | canonical {b : String} (known : b ∈ Vocabulary.families.map (·.1)) : IsBase b
  | name {word : List Char} (nonempty : word ≠ []) (isWord : ∀ c ∈ word, isWordChar c = true)
      (unknown : Vocabulary.lookup? (Name.normalizeChars word) = none) :
      IsBase (String.ofList (Name.normalizeChars word))

theorem isBase_any : IsBase "any" := .canonical (by decide)

theorem isBase_map : IsBase "map" := .canonical (by decide)

theorem isBase_function : IsBase "function" := .canonical (by decide)

theorem isBase_void : IsBase "void" := .canonical (by decide)

/-- What the vocabulary gives is a base. -/
theorem isBase_of_canonical? {s : List Char} {b : String} (h : Vocabulary.canonical? s = some b) :
    IsBase b := by
  rw [Vocabulary.canonical?] at h
  cases known : Vocabulary.lookup? s with
  | some b' =>
    rw [known] at h
    cases h
    exact .canonical (mem_of_lookup? known)
  | none =>
    rw [known] at h
    exact .canonical (mem_of_lookup? h)

/-- The base of a word is a base. -/
theorem isBase_wordBase (word : List Char) : IsBase (wordBase word) := by
  rw [wordBase]
  split
  · exact isBase_any
  · rename_i nonempty
    dsimp only
    cases known : Vocabulary.lookup? (Name.normalizeChars (word.filter isWordChar)) with
    | some b => exact .canonical (mem_of_lookup? known)
    | none =>
      refine .name (fun h => nonempty ?_) (fun c hc => (List.mem_filter.1 hc).2) known
      rw [h, List.isEmpty_nil]

/-- The name of any text's base is a base. -/
theorem isBase_baseName (s : List Char) : IsBase (baseName s) := by
  unfold baseName
  dsimp only
  generalize (if (trim (generic s).head).isEmpty then s else trim (generic s).head) = head
  cases known : Vocabulary.canonical? head with
  | some b => exact isBase_of_canonical? known
  | none => exact isBase_wordBase _

/-- A whole shape at the end of the plain form has a base. -/
theorem isBase_of_peelPlain {p : Bool} {s : List Char} {shape : TypeShape}
    (h : peelBare.peelPlain p s = .whole shape) : IsBase shape.base := by
  revert h
  fun_cases peelBare.peelPlain p s with
  | case1 isFunction =>
    rintro ⟨⟩
    exact isBase_function
  | case2 _ isTuple =>
    rintro ⟨⟩
    exact isBase_any
  | case3 => nofun
  | case4 _ _ _ isSequence =>
    rintro ⟨⟩
    exact isBase_any
  | case5 _ _ _ _ isMapping =>
    rintro ⟨⟩
    exact isBase_map
  | case6 => nofun
  | case7 _ _ _ _ _ _ isUnion =>
    rintro ⟨⟩
    exact isBase_any
  | case8 =>
    rintro ⟨⟩
    exact isBase_baseName s

/-- A whole shape at the end of the bare form has a base. -/
theorem isBase_of_peelBare {p : Bool} {s : List Char} {shape : TypeShape}
    (h : peelBare p s = .whole shape) : IsBase shape.base := by
  revert h
  fun_cases peelBare p s with
  | case1 b known =>
    rintro ⟨⟩
    exact isBase_of_canonical? known
  | case2 | case3 | case4 => nofun
  | case5 | case6 => exact isBase_of_peelPlain

/-- A whole shape at the outermost layer has a base. -/
theorem isBase_of_peel {s : List Char} {shape : TypeShape} (h : peel s = .whole shape) :
    IsBase shape.base := by
  revert h
  fun_cases peel s with
  | case1 =>
    rintro ⟨⟩
    exact isBase_void
  | case2 =>
    rintro ⟨⟩
    exact isBase_any
  | case3 | case4 => exact isBase_of_peelBare

/-- Every spelling has a base that is canonical or a name. -/
theorem isBase_shapeChars (s : List Char) : IsBase (shapeChars s).base := by
  fun_induction shapeChars s with
  | case1 s shape h => exact isBase_of_peel h
  | case2 s p a inner h shape ih => exact ih

/-- **The base of any type is a base.** -/
theorem isBase_base (t : String) : IsBase (base t) := isBase_shapeChars t.toList

/-! ## Reading a base back -/

/-- The characters of names are plain. -/
theorem isPlain_of_isNameChar {c : Char} (h : Name.isNameChar c = true) : isPlain c = true := by
  have marked : marks.all (!Name.isNameChar ·) = true := by decide
  rw [isPlain, Name.not_isBlank_of_isNameChar h, Bool.not_false, Bool.true_and, Bool.not_eq_true',
    ← Bool.not_eq_true, List.contains_iff_mem]
  intro hc
  have := List.all_eq_true.1 marked c hc
  rw [h] at this
  cases this

/-- A base is made of characters of names. -/
theorem IsBase.isNameChar {b : String} (h : IsBase b) : ∀ c ∈ b.toList, Name.isNameChar c = true := by
  cases h with
  | canonical known => exact fun c hc => (canonical_isAscii known c hc).1
  | name nonempty isWord unknown =>
    rw [String.toList_ofList]
    exact Name.isNameChar_of_mem_normalizeChars isWord

/-- A base is a plain word. -/
theorem IsBase.isPlainWord {b : String} (h : IsBase b) : IsPlainWord b.toList where
  nonempty := by
    cases h with
    | canonical known =>
      rw [ne_eq, String.toList_eq_nil_iff]
      exact (canonical_isLawful b known).2.1
    | name nonempty isWord unknown =>
      rw [String.toList_ofList]
      exact Name.normalizeChars_ne_nil nonempty
  plain c hc := isPlain_of_isNameChar (h.isNameChar c hc)

/-- The vocabulary knows of the bases exactly the canonical ones, as themselves. -/
theorem IsBase.lookup? {b : String} (h : IsBase b) :
    Vocabulary.lookup? b.toList =
      if b ∈ Vocabulary.families.map (·.1) then some b else none := by
  split
  · rename_i known
    exact (canonical_isLawful b known).1
  · cases h with
    | canonical known => contradiction
    | name nonempty isWord unknown => rw [String.toList_ofList, unknown]

/-- Words for functions are written with capitals. -/
theorem IsBase.not_mem_functions {b : String} (h : IsBase b) : b ∉ Vocabulary.functions := by
  have capital : Vocabulary.functions.all (fun w => !w.toList.all Name.isNameChar) = true := by
    decide +kernel
  intro hb
  have other := List.all_eq_true.1 capital b hb
  rw [List.all_eq_true.2 h.isNameChar] at other
  cases other

/-- What a base is read back as. -/
theorem base_of_isBase {b : String} (h : IsBase b) :
    base b =
      if b ∈ Vocabulary.families.map (·.1) then b
      else if b ∈ Vocabulary.sequences then "any"
      else if b ∈ Vocabulary.maps then "map"
      else wordBase b.toList := by
  rw [base, shape, shapeChars_plain h.isPlainWord, plainShape, h.lookup?]
  simp only [isOneOf_eq_true, String.ofList_toList, h.not_mem_functions, if_false]
  split_ifs <;> rfl

/-- A base that is not canonical is read back as itself if it is its own compared form. -/
theorem IsBase.wordBase_eq_iff {b : String} (h : IsBase b)
    (other : b ∉ Vocabulary.families.map (·.1)) :
    wordBase b.toList = b ↔ Name.normalizeChars (b.toList.filter isWordChar) = b.toList := by
  have unknown := h.lookup?
  rw [if_neg other] at unknown
  rw [wordBase]
  split
  · rename_i empty
    rw [List.isEmpty_iff] at empty
    rw [empty]
    refine ⟨fun any => absurd (any ▸ by decide) other, fun nil => ?_⟩
    exact absurd nil.symm h.isPlainWord.nonempty
  · dsimp only
    constructor
    · intro same
      cases known : Vocabulary.lookup? (Name.normalizeChars (b.toList.filter isWordChar)) with
      | some b' =>
        rw [known, Option.getD_some] at same
        exact absurd (same ▸ mem_of_lookup? known) other
      | none =>
        rw [known, Option.getD_none] at same
        rw [← String.toList_ofList (l := Name.normalizeChars _), same]
    · intro same
      rw [same, unknown, Option.getD_none, String.ofList_toList]

/-- A base of ASCII is its own compared form. -/
theorem IsBase.normalizeChars_eq {b : String} (h : IsBase b) (ascii : ∀ c ∈ b.toList, c.toNat < 128) :
    Name.normalizeChars (b.toList.filter isWordChar) = b.toList := by
  rw [List.filter_eq_self.2 fun c hc => (Name.ascii_nameChar (ascii c hc) (h.isNameChar c hc)).1]
  exact Name.normalizeChars_eq_self h.isNameChar ascii

/-- **A base is read back as itself unless it is the head of a container or a name that is not its
own compared form.  A name of ASCII is always its own compared form.** -/
theorem base_base_iff (t : String) :
    (base (base t) = base t ↔
      base t ∉ Vocabulary.sequences ∧ base t ∉ Vocabulary.maps ∧
        Name.normalizeChars ((base t).toList.filter isWordChar) = (base t).toList) ∧
    ((∀ c ∈ (base t).toList, c.toNat < 128) →
      Name.normalizeChars ((base t).toList.filter isWordChar) = (base t).toList) := by
  have h := isBase_base t
  refine ⟨?_, h.normalizeChars_eq⟩
  generalize base t = b at h
  rw [base_of_isBase h]
  by_cases known : b ∈ Vocabulary.families.map (·.1)
  · obtain ⟨-, -, -, sequence, map⟩ := canonical_isLawful b known
    have ascii := canonical_isAscii known
    rw [if_pos known]
    exact iff_of_true rfl ⟨sequence, map, h.normalizeChars_eq fun c hc => (ascii c hc).2⟩
  · rw [if_neg known]
    by_cases sequence : b ∈ Vocabulary.sequences
    · rw [if_pos sequence]
      refine iff_of_false (fun any => known (any ▸ by decide)) fun h => h.1 sequence
    · rw [if_neg sequence]
      by_cases map : b ∈ Vocabulary.maps
      · rw [if_pos map]
        refine iff_of_false (fun m => known (m ▸ by decide)) fun h => h.2.1 map
      · rw [if_neg map, h.wordBase_eq_iff known]
        exact ⟨fun same => ⟨sequence, map, same⟩, fun h => h.2.2⟩

/-- A sequence of a package is read as a name that is read back as a sequence. -/
theorem base_base_ne_qualified_sequence : base (base "pkg.List") ≠ base "pkg.List" := by
  decide +kernel

end Concord.Spelling
