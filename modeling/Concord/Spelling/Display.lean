import Concord.Language
import Concord.Spelling.Shape

/-!
# Concord.Spelling.Display

Types in plain words for a reader: `List of Text`, `Optional Integer`, `Map`.  Each language has its
own vocabulary; a type without a word in it keeps its spelling.  As with shapes, one layer is
rendered at a time and the spelling inside is smaller (`Smaller`).
-/

namespace Concord.Spelling.Display

open Text

-- Sums of naturals start from the core library's zero, whatever else is imported.
attribute [local instance (high)] Zero.ofOfNat0

/-- Where a language spells the absent value as the member of a union. -/
inductive Absence where
  /-- It is never a member of a union. -/
  | never
  /-- It may be any member. -/
  | anyMember
  /-- It is noticed as the first or the last member. -/
  | endMember
deriving DecidableEq, Repr

/-- The vocabulary of a language: its words with their spellings, heads of generic layers, and marks
in front of a type or behind it.  An empty mark stands for none. -/
structure Vocabulary where
  words : List (String × List String)
  sequences : List String := []
  optionals : List String := []
  maps : List String := []
  results : List String := []
  sequenceMark : String := ""
  mapMark : String := ""
  optionalMark : String := ""
  optionalEnd : String := ""
  sequenceEnd : String := "[]"
  absence : Absence := .never

/-- The vocabulary of each language. -/
def vocabulary : Language → Vocabulary
  | .go =>
    { words :=
        [("Text", ["string"]),
         ("Integer", ["int", "int8", "int16", "int32", "int64", "uint", "uint8", "uint16", "uint32",
          "uint64"]),
         ("Float", ["float32", "float64"]),
         ("Boolean", ["bool"]),
         ("Timestamp", ["time.Time"]),
         ("Duration", ["time.Duration"]),
         ("Error", ["error"]),
         ("Any", ["interface\x7b\x7d", "any"]),
         ("Bytes", ["[]byte"])]
      sequenceMark := "[]"
      mapMark := "map["
      optionalMark := "*"
      sequenceEnd := "" }
  | .python =>
    { words :=
        [("Text", ["str"]),
         ("Integer", ["int"]),
         ("Float", ["float"]),
         ("Boolean", ["bool"]),
         ("Bytes", ["bytes"]),
         ("Timestamp", ["datetime", "datetime.datetime"]),
         ("Duration", ["timedelta", "datetime.timedelta"]),
         ("UUID", ["UUID", "uuid.UUID"]),
         ("Any", ["Any"]),
         ("Nothing", ["None"]),
         ("Map", ["dict", "Dict"])]
      sequences := ["list", "List", "Sequence", "Iterable", "set", "Set", "tuple", "Tuple"]
      optionals := ["Optional", "Union"]
      maps := ["dict", "Dict", "Mapping"]
      sequenceEnd := ""
      absence := .endMember }
  | .typescript =>
    { words :=
        [("Text", ["string"]),
         ("Float", ["number"]),
         ("Integer", ["bigint"]),
         ("Boolean", ["boolean"]),
         ("Timestamp", ["Date"]),
         ("Any", ["any", "unknown"]),
         ("Nothing", ["void", "undefined", "null"]),
         ("Bytes", ["Uint8Array", "Buffer"])]
      sequences := ["Array", "ReadonlyArray", "Set"]
      maps := ["Map", "Record"]
      results := ["Promise"]
      optionalEnd := "?"
      absence := .anyMember }
  | .rust =>
    { words :=
        [("Text", ["String", "&str", "str"]),
         ("Integer", ["i8", "i16", "i32", "i64", "i128", "isize", "u8", "u16", "u32", "u64",
          "u128", "usize"]),
         ("Float", ["f32", "f64"]),
         ("Boolean", ["bool"]),
         ("Nothing", ["()"]),
         ("Bytes", ["Vec<u8>"]),
         ("Duration", ["Duration"]),
         ("UUID", ["Uuid"]),
         ("Timestamp", ["DateTime<Utc>"])]
      sequences := ["Vec", "VecDeque", "HashSet", "BTreeSet"]
      optionals := ["Option"]
      maps := ["HashMap", "BTreeMap"]
      results := ["Result"]
      sequenceEnd := "" }
  | .java =>
    { words :=
        [("Text", ["String"]),
         ("Integer", ["int", "Integer", "long", "Long", "short", "byte"]),
         ("Float", ["float", "Float", "double", "Double", "BigDecimal"]),
         ("Boolean", ["boolean", "Boolean"]),
         ("Timestamp", ["Instant", "LocalDateTime"]),
         ("Duration", ["Duration"]),
         ("UUID", ["UUID"]),
         ("Any", ["Object"]),
         ("Nothing", ["void"]),
         ("Bytes", ["byte[]"])]
      sequences := ["List", "ArrayList", "Set", "HashSet", "Collection"]
      optionals := ["Optional"]
      maps := ["Map", "HashMap", "TreeMap"]
      results := ["CompletableFuture"] }
  | .csharp =>
    { words :=
        [("Text", ["string", "String"]),
         ("Integer", ["int", "long", "short", "byte", "uint", "ulong"]),
         ("Float", ["float", "double", "decimal"]),
         ("Boolean", ["bool"]),
         ("Timestamp", ["DateTime", "DateTimeOffset"]),
         ("Duration", ["TimeSpan"]),
         ("UUID", ["Guid"]),
         ("Any", ["object", "dynamic"]),
         ("Nothing", ["void"]),
         ("Bytes", ["byte[]"])]
      sequences := ["List", "IList", "IEnumerable", "ICollection", "IReadOnlyList", "HashSet"]
      maps := ["Dictionary", "IDictionary", "IReadOnlyDictionary"]
      results := ["Task", "ValueTask"]
      optionalEnd := "?" }

/-- What a layer is rendered as: some words, and the spelling that is rendered behind them. -/
abbrev Rendered := String × Option (List Char)

/-- The part of `s` behind a mark that is not empty. -/
def behindMark? (mark : String) (s : List Char) : Option (List Char) :=
  if mark.isEmpty then none else after? mark s

/-- The part of `s` before a mark that is not empty. -/
def beforeMark? (mark : String) (s : List Char) : Option (List Char) :=
  if mark.isEmpty then none else before? mark s

/-- Renders the outermost layer of a trimmed generic spelling. -/
def peelGeneric (v : Vocabulary) (s : List Char) : Rendered :=
  let g := generic s
  match g.args with
  | [] => (String.ofList s, none)
  | first :: _ =>
    if isOneOf v.sequences g.head then ("List of ", some first)
    else if isOneOf v.optionals g.head then
      let present := g.args.find? fun a => !isOneOf ["None", "null", "undefined"] (trim a)
      ("Optional ", some (present.getD first))
    else if isOneOf v.maps g.head then ("Map", none)
    else if isOneOf v.results g.head then ("Result of ", some first)
    else (String.ofList s, none)

/-- Renders the outermost layer of a spelling that is no union with the absent value. -/
def peelPresent (v : Vocabulary) (spelling : List Char) : Rendered :=
  let s := trim spelling
  if s.isEmpty then ("Nothing", none)
  else match v.words.find? (·.2.contains (String.ofList s)) with
    | some word => (word.1, none)
    | none =>
      match behindMark? v.sequenceMark s with
      | some inner => ("List of ", some inner)
      | none =>
        match behindMark? v.optionalMark s with
        | some inner => ("Optional ", some inner)
        | none =>
          match beforeMark? v.optionalEnd s with
          | some inner => ("Optional ", some inner)
          | none =>
            match beforeMark? v.sequenceEnd s with
            | some inner => ("List of ", some inner)
            | none =>
              if (behindMark? v.mapMark s).isSome then ("Map", none) else peelGeneric v s

/-- Whether a union member is one of the words for an absent value. -/
def isAbsent (s : List Char) : Bool := isOneOf ["null", "undefined"] (trim s)

/-- The other members of a union that has an absent value among its members. -/
def withoutAbsentMember? (s : List Char) : Option (List Char) :=
  let members := splitAtWord ['|'] s
  if 1 < members.length && members.any isAbsent then
    some (" | ".toList.intercalate ((members.filter fun m => !isAbsent m).map trim))
  else none

/-- The rest of a union that begins or ends with the absent value. -/
def withoutAbsentEnd? (spelling : List Char) : Option (List Char) :=
  let s := trim spelling
  if ends "| None" s || begins "None |" s then
    some (trim (replaceWord "None |" "" (replaceWord "| None" "" s)))
  else none

/-- Renders the outermost layer of a spelling. -/
def peel (v : Vocabulary) (s : List Char) : Rendered :=
  match v.absence with
  | .never => peelPresent v s
  | .anyMember =>
    match withoutAbsentMember? s with
    | some rest => ("Optional " ++ (peelPresent v rest).1, (peelPresent v rest).2)
    | none => peelPresent v s
  | .endMember =>
    match withoutAbsentEnd? s with
    | some rest => ("Optional ", some rest)
    | none => peelPresent v s

/-! ## The spelling inside is smaller -/

/-- A text is smaller than another if it weighs less, or weighs no more and is shorter. -/
def Smaller (s t : List Char) : Prop :=
  weight s < weight t ∨ weight s ≤ weight t ∧ s.length < t.length

theorem Smaller.trans_sublist {s t u : List Char} (h : Smaller s t) (ht : t.Sublist u) :
    Smaller s u := by
  have := weight_le_of_sublist ht
  have := ht.length_le
  rcases h with h | h
  · left
    omega
  · right
    omega

theorem Smaller.of_behindMark? {mark : String} {s r : List Char}
    (h : behindMark? mark s = some r) : Smaller r s := by
  unfold behindMark? at h
  split at h
  · simp at h
  · rename_i hm
    right
    refine ⟨weight_le_of_sublist (after?_sublist h), ?_⟩
    unfold after? at h
    split at h
    · rename_i hb
      simp only [Option.some.injEq] at h
      have := (List.isPrefixOf_iff_prefix.1 hb).length_le
      have : 0 < mark.toList.length := by
        simpa [List.length_pos_iff] using hm
      rw [← h, List.length_drop]
      omega
    · simp at h

theorem Smaller.of_beforeMark? {mark : String} {s r : List Char}
    (h : beforeMark? mark s = some r) : Smaller r s := by
  unfold beforeMark? at h
  split at h
  · simp at h
  · rename_i hm
    right
    refine ⟨weight_le_of_sublist (before?_sublist h), ?_⟩
    unfold before? at h
    split at h
    · rename_i hb
      simp only [Option.some.injEq] at h
      have := (List.isSuffixOf_iff_suffix.1 hb).length_le
      have : 0 < mark.toList.length := by
        simpa [List.length_pos_iff] using hm
      rw [← h, List.length_take]
      omega
    · simp at h

theorem smaller_of_peelGeneric {v : Vocabulary} {s inner : List Char}
    (h : (peelGeneric v s).2 = some inner) : Smaller inner s := by
  unfold peelGeneric at h
  dsimp only at h
  split at h
  · simp at h
  · rename_i first rest hargs
    have hm : ∀ a ∈ first :: rest, Smaller a s := fun a ha =>
      .inl (weight_lt_of_mem_generic_args (hargs ▸ ha))
    split at h
    · simp only [Option.some.injEq] at h
      exact h ▸ hm first (by simp)
    · split at h
      · simp only [Option.some.injEq] at h
        rw [← h, hargs]
        cases hf : (first :: rest).find? _ with
        | none => exact hm first (by simp)
        | some a => exact hm a (List.mem_of_find?_eq_some hf)
      · split at h
        · simp at h
        · split at h
          · simp only [Option.some.injEq] at h
            exact h ▸ hm first (by simp)
          · simp at h

theorem smaller_of_peelPresent {v : Vocabulary} {s inner : List Char}
    (h : (peelPresent v s).2 = some inner) : Smaller inner s := by
  refine Smaller.trans_sublist ?_ (trim_sublist s)
  unfold peelPresent at h
  dsimp only at h
  generalize trim s = t at h ⊢
  split at h
  · simp at h
  · split at h
    · simp at h
    · split at h
      · rename_i r hr
        simp only [Option.some.injEq] at h
        exact h ▸ .of_behindMark? hr
      · split at h
        · rename_i r hr
          simp only [Option.some.injEq] at h
          exact h ▸ .of_behindMark? hr
        · split at h
          · rename_i r hr
            simp only [Option.some.injEq] at h
            exact h ▸ .of_beforeMark? hr
          · split at h
            · rename_i r hr
              simp only [Option.some.injEq] at h
              exact h ▸ .of_beforeMark? hr
            · split at h
              · simp at h
              · exact smaller_of_peelGeneric h

theorem splitAtWord_ne_nil (word s : List Char) : splitAtWord word s ≠ [] := by
  fun_cases splitAtWord word s with
  | case1 => exact List.cons_ne_nil _ _
  | case2 => exact List.cons_ne_nil _ _
  | case3 => exact consFirst_ne_nil _ _

/-- The pieces between the occurrences of a word, and the occurrences, weigh no more than the
text. -/
theorem sum_weight_splitAtWord_le (word s : List Char) :
    ((splitAtWord word s).map weight).sum + (splitAtWord word s).length * weight word ≤
      weight s + weight word := by
  fun_induction splitAtWord word s with
  | case1 => simp [weight]
  | case2 c r h ih =>
    simp only [Bool.and_eq_true] at h
    have drop := weight_drop_separator h.2 (by simpa using h.1)
    have zero : weight [] = 0 := rfl
    simp only [List.map_cons, List.sum_cons, List.length_cons, zero, Nat.add_one_mul]
    omega
  | case3 c r h ih =>
    rw [sum_weight_consFirst, length_consFirst (splitAtWord_ne_nil _ _), weight_cons c r]
    omega

/-- A text without the word is its only piece. -/
theorem splitAtWord_eq_or_lt (word s : List Char) :
    splitAtWord word s = [s] ∨ 1 < (splitAtWord word s).length := by
  fun_induction splitAtWord word s with
  | case1 => exact .inl rfl
  | case2 c r h ih =>
    have := List.length_pos_iff.2 (splitAtWord_ne_nil word (r.drop (word.length - 1)))
    exact .inr (by simpa using this)
  | case3 c r h ih =>
    rcases ih with ih | ih
    · exact .inl (by rw [ih]; rfl)
    · exact .inr (by rwa [length_consFirst (splitAtWord_ne_nil _ _)])

theorem one_lt_length_of_begins {word s : List Char} (h : word.isPrefixOf s) (hne : word ≠ []) :
    1 < (splitAtWord word s).length := by
  cases s with
  | nil => cases word <;> simp_all
  | cons c r =>
    have := List.length_pos_iff.2 (splitAtWord_ne_nil word (r.drop (word.length - 1)))
    rw [splitAtWord]
    simpa [h, hne] using this

theorem one_lt_length_of_ends {word s : List Char} (h : word <:+ s) (hne : word ≠ []) :
    1 < (splitAtWord word s).length := by
  induction s with
  | nil => exact absurd (List.suffix_nil.1 h) hne
  | cons c r ih =>
    by_cases hp : word.isPrefixOf (c :: r)
    · exact one_lt_length_of_begins hp hne
    · rw [splitAtWord]
      simp only [hp, Bool.and_false, Bool.false_eq_true, ↓reduceIte]
      rw [length_consFirst (splitAtWord_ne_nil _ _)]
      refine ih ?_
      rcases List.suffix_cons_iff.1 h with rfl | h
      · simp at hp
      · exact h

theorem weight_replaceWord_le (word : String) (s : List Char) :
    weight (replaceWord word "" s) ≤ weight s := by
  have := sum_weight_splitAtWord_le word.toList s
  have := @weight_intercalate_le "".toList rfl (splitAtWord word.toList s)
  have := Nat.le_mul_of_pos_left (weight word.toList)
    (List.length_pos_iff.2 (splitAtWord_ne_nil word.toList s))
  unfold replaceWord
  omega

theorem weight_replaceWord_lt {word : String} {s : List Char} (hw : 0 < weight word.toList)
    (h : 1 < (splitAtWord word.toList s).length) : weight (replaceWord word "" s) < weight s := by
  have := sum_weight_splitAtWord_le word.toList s
  have := @weight_intercalate_le "".toList rfl (splitAtWord word.toList s)
  have := Nat.mul_le_mul_right (weight word.toList) h
  unfold replaceWord
  omega

theorem replaceWord_eq_or_lt (word : String) (s : List Char) (hw : 0 < weight word.toList) :
    replaceWord word "" s = s ∨ weight (replaceWord word "" s) < weight s := by
  rcases splitAtWord_eq_or_lt word.toList s with h | h
  · left
    unfold replaceWord
    rw [h]
    simp
  · exact .inr (weight_replaceWord_lt hw h)

theorem withoutAbsentEnd?_weight_lt {s rest : List Char} (h : withoutAbsentEnd? s = some rest) :
    weight rest < weight s := by
  refine Nat.lt_of_lt_of_le ?_ (weight_trim_le s)
  unfold withoutAbsentEnd? at h
  dsimp only at h
  generalize trim s = t at h ⊢
  split at h
  · rename_i hc
    simp only [Option.some.injEq] at h
    rw [← h]
    refine Nat.lt_of_le_of_lt (weight_trim_le _) ?_
    have second := weight_replaceWord_le "None |" (replaceWord "| None" "" t)
    rcases replaceWord_eq_or_lt "| None" t (by decide) with heq | hlt
    · rw [heq]
      rcases Bool.or_eq_true _ _ ▸ hc with he | hb
      · have := @weight_replaceWord_lt "| None" t (by decide)
          (one_lt_length_of_ends (List.isSuffixOf_iff_suffix.1 he) (by decide))
        rw [heq] at this
        omega
      · exact weight_replaceWord_lt (by decide) (one_lt_length_of_begins hb (by decide))
    · omega
  · simp at h

theorem four_le_weight_of_isAbsent {m : List Char} (h : isAbsent m) : 4 ≤ weight m := by
  have : 4 ≤ weight (trim m) := by
    simp only [isAbsent, isOneOf, List.contains_iff_mem] at h
    have all : ∀ w ∈ ["null", "undefined"], 4 ≤ weight w.toList := by decide
    simpa using all _ h
  have := weight_trim_le m
  omega

theorem sum_weight_without_absent_lt {members : List (List Char)} (h : members.any isAbsent) :
    ((members.filter fun m => !isAbsent m).map weight).sum < (members.map weight).sum := by
  induction members with
  | nil => simp at h
  | cons m ms ih =>
    simp only [List.map_cons, List.sum_cons]
    by_cases hm : isAbsent m
    · have := four_le_weight_of_isAbsent hm
      have := sum_weight_filter_le (fun m => !isAbsent m) ms
      simp only [List.filter_cons, hm, Bool.not_true, Bool.false_eq_true, ↓reduceIte]
      omega
    · have := ih (by simpa [hm] using h)
      simp only [List.filter_cons, hm, Bool.not_false, ↓reduceIte, List.map_cons, List.sum_cons]
      omega

theorem withoutAbsentMember?_weight_lt {s rest : List Char}
    (h : withoutAbsentMember? s = some rest) : weight rest < weight s := by
  unfold withoutAbsentMember? at h
  dsimp only at h
  split at h
  · rename_i hc
    simp only [Bool.and_eq_true, decide_eq_true_eq] at hc
    simp only [Option.some.injEq] at h
    have sum := sum_weight_splitAtWord_le ['|'] s
    have zero : weight ['|'] = 0 := rfl
    rw [zero, Nat.mul_zero] at sum
    have := sum_weight_without_absent_lt hc.2
    have := sum_weight_trim_le ((splitAtWord ['|'] s).filter fun m => !isAbsent m)
    have := @weight_intercalate_le " | ".toList rfl
      (((splitAtWord ['|'] s).filter fun m => !isAbsent m).map trim)
    rw [← h]
    omega
  · simp at h

/-- The spelling inside a rendered layer is smaller. -/
theorem smaller_of_peel {v : Vocabulary} {s inner : List Char} (h : (peel v s).2 = some inner) :
    Smaller inner s := by
  unfold peel at h
  split at h
  · exact smaller_of_peelPresent h
  · split at h
    · rename_i rest hr
      have := withoutAbsentMember?_weight_lt hr
      left
      rcases smaller_of_peelPresent h with h | h <;> omega
    · exact smaller_of_peelPresent h
  · split at h
    · rename_i rest hr
      simp only [Option.some.injEq] at h
      exact .inl (h ▸ withoutAbsentEnd?_weight_lt hr)
    · exact smaller_of_peelPresent h

/-! ## Rendering -/

/-- A type in the words of a vocabulary. -/
def renderChars (v : Vocabulary) (s : List Char) : String :=
  match _h : (peel v s).2 with
  | none => (peel v s).1
  | some inner => (peel v s).1 ++ renderChars v inner
termination_by (weight s, s.length)
decreasing_by
  rcases smaller_of_peel _h with h | h
  · exact .left _ _ h
  · rcases Nat.lt_or_eq_of_le h.1 with hw | hw
    · exact .left _ _ hw
    · rw [hw]
      exact .right _ h.2

/-- A type of a language in plain words. -/
def render (language : Language) (s : String) : String :=
  renderChars (vocabulary language) s.toList

end Concord.Spelling.Display
