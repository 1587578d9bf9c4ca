import Concord.Name
import Concord.Spelling.Tuple

/-!
# Concord.Spelling.Shape

The shape of a type: a canonical base, and whether the type is a pointer or may be absent, an array,
or a map.  A spelling is read layer by layer: `peel` looks at the outermost layer only, and `shape`
adds what the layer says to the shape of the spelling inside.  `weight_lt_of_peel` states that the
spelling inside weighs less, so that every spelling has a shape.
-/

namespace Concord

/-- A type without the particulars of a language. -/
structure TypeShape where
  base : String
  isPointer : Bool := false
  isArray : Bool := false
  isMap : Bool := false
deriving DecidableEq, Repr

namespace Spelling

open Text

-- Sums of naturals start from the core library's zero, whatever else is imported.
attribute [local instance (high)] Zero.ofOfNat0

/-! ## Single layers -/

/-- What follows an array length in brackets, which may be empty. -/
def afterLength? (s : List Char) : Option (List Char) :=
  match s with
  | '[' :: r =>
    match r.dropWhile isDecimal with
    | ']' :: element => some element
    | _ => none
  | _ => none

/-- The element type of an array: `[]T`, `[3]T`, `T[]`, `[T]`, `[T; 3]`, a sequence of `T` or a
homogeneous tuple. -/
def element? (s : List Char) : Option (List Char) :=
  match afterLength? s with
  | some element => some element
  | none =>
    match before? "[]" s with
    | some element => some element
    | none =>
      if begins "[" s && ends "]" s then some (upTo ';' s.tail.dropLast)
      else
        let g := generic s
        if isOneOf Vocabulary.sequences g.head || isTupleHead g.head && isHomogeneous g.args then
          g.args.head?
        else none

/-- The members of a union. -/
def unionMembers (s : List Char) : List (List Char) :=
  let g := generic s
  if g.head = "Union".toList then g.args else splitBy "|" s

/-- Whether a union member stands for the absent value. -/
def isNullish (s : List Char) : Bool := isOneOf Vocabulary.nullish (trim s)

/-- The members of a union other than the absent value, as a union; the absent value itself if there
are no others. -/
def presentUnion (members : List (List Char)) : List Char :=
  let rest := members.filter fun m => !isNullish m
  if rest.isEmpty then "null".toList else " | ".toList.intercalate rest

/-- The type of a value that may be absent: `T?`, `Optional<T>` or a union with the absent value. -/
def optional? (s : List Char) : Option (List Char) :=
  match before? "?" s with
  | some type => some type
  | none =>
    let g := generic s
    if isOneOf Vocabulary.optionals g.head && !g.args.isEmpty then g.args.head?
    else
      let members := unionMembers s
      if 1 < members.length && members.any isNullish then some (presentUnion members) else none

/-- Whether the spelling is that of a function type. -/
def isFunction (s : List Char) : Bool :=
  isOneOf Vocabulary.functions (generic s).head || begins "func(" s || begins "func (" s ||
    begins "fn(" s || begins "fn (" s || begins "(" s && holds "=>" s

/-- Whether the spelling is that of an associative container. -/
def isMapping (s : List Char) : Bool :=
  begins "map[" s || isOneOf Vocabulary.maps (generic s).head || isOneOf Vocabulary.maps s

/-- Whether the spelling is a union, of which no single base can be given. -/
def isUnion (s : List Char) : Bool :=
  let g := generic s
  g.head = "Union".toList && !g.args.isEmpty || 1 < (splitBy "|" s).length

/-- The segments of a qualified name between dots and double colons. -/
def segments : List Char → List (List Char)
  | [] => [[]]
  | ':' :: ':' :: r => [] :: segments r
  | '.' :: r => [] :: segments r
  | c :: r => consFirst c (segments r)

/-- The base of a type that no layer surrounds: its head in the vocabulary, or else the last segment
of the head as a name. -/
def baseName (s : List Char) : String :=
  let head := (generic s).head
  let head := if (trim head).isEmpty then s else trim head
  match Vocabulary.canonical? head with
  | some base => base
  | none =>
    let last := ((segments head).filter (· ≠ [])).getLastD head
    let word := last.filter isWordChar
    if word.isEmpty then "any"
    else
      let name := Name.normalizeChars word
      (Vocabulary.lookup? name).getD (String.ofList name)

/-- What the outermost layer of a spelling says: the whole shape, or marks on the shape of the
spelling inside it. -/
inductive Layer where
  | whole (shape : TypeShape)
  | around (isPointer isArray : Bool) (inner : List Char)
deriving DecidableEq, Repr

/-- The outermost layer of a spelling without qualifiers and without pointer marks in front, for
which `isPointer` tells whether there was one. -/
def peelBare (isPointer : Bool) (s : List Char) : Layer :=
  match Vocabulary.canonical? s with
  | some base => .whole { base, isPointer }
  | none =>
    let g := generic s
    match g.args with
    | first :: rest =>
      if isOneOf Vocabulary.deferred g.head then .around isPointer false first
      else if g.head = "Coroutine".toList then .around isPointer false (rest.getLastD first)
      else if isOneOf Vocabulary.pointers g.head then .around true false first
      else peelPlain isPointer s
    | [] => peelPlain isPointer s
where
  /-- The outermost layer of a spelling that is no wrapper of a single value. -/
  peelPlain (isPointer : Bool) (s : List Char) : Layer :=
    if isFunction s then .whole { base := "function", isPointer }
    else if (tupleElements? s).isSome then .whole { base := "any", isPointer, isArray := true }
    else match element? s with
      | some element => .around isPointer true element
      | none =>
        if isOneOf Vocabulary.sequences s then .whole { base := "any", isPointer, isArray := true }
        else if isMapping s then .whole { base := "map", isPointer, isMap := true }
        else match optional? s with
          | some type => .around true false type
          | none =>
            if isUnion s then .whole { base := "any", isPointer }
            else .whole { base := baseName s, isPointer }

/-- The outermost layer of a spelling. -/
def peel (spelling : List Char) : Layer :=
  let s := stripQualifiers spelling
  match s with
  | [] => .whole { base := "void" }
  | c :: r =>
    if (c = '*' || c = '&') && (Vocabulary.lookup? s).isNone then
      let target := stripQualifiers r
      if target.isEmpty then .whole { base := "any", isPointer := true } else peelBare true target
    else peelBare false s

/-! ## The spelling inside weighs less -/

theorem afterLength?_weight_lt {s element : List Char} (h : afterLength? s = some element) :
    weight element < weight s := by
  unfold afterLength? at h
  split at h
  · rename_i r
    split at h
    · rename_i rest hd
      simp only [Option.some.injEq] at h
      have := weight_le_of_sublist (dropWhile_sublist_of_eq_cons hd)
      have one : weight ['['] = 1 := rfl
      rw [weight_cons, one, ← h]
      omega
    · simp at h
  · simp at h

theorem before?_weight_lt {word : String} {s r : List Char} (h : before? word s = some r)
    (hw : 0 < weight word.toList) : weight r < weight s := by
  unfold before? at h
  split at h
  · rename_i he
    obtain ⟨t, ht⟩ := List.isSuffixOf_iff_suffix.1 he
    simp only [Option.some.injEq] at h
    have : r = t := by
      rw [← h, ← ht]
      simp
    rw [← ht, this, weight_append]
    omega
  · simp at h

theorem weight_tail_dropLast_lt {s : List Char} (h : begins "[" s) :
    weight s.tail.dropLast < weight s := by
  cases s with
  | nil => simp [begins] at h
  | cons c r =>
    have hc : c = '[' := by
      obtain ⟨t, ht⟩ := List.isPrefixOf_iff_prefix.1 h
      simp at ht
      exact ht.1.symm
    have := weight_le_of_sublist (List.dropLast_sublist r)
    have one : weight ['['] = 1 := rfl
    rw [weight_cons, hc, one]
    simp only [List.tail_cons]
    omega

theorem element?_weight_lt {s element : List Char} (h : element? s = some element) :
    weight element < weight s := by
  unfold element? at h
  split at h
  · rename_i e he
    simp only [Option.some.injEq] at h
    exact h ▸ afterLength?_weight_lt he
  · split at h
    · rename_i e he
      simp only [Option.some.injEq] at h
      exact h ▸ before?_weight_lt he (by decide)
    · split at h
      · rename_i hb
        simp only [Bool.and_eq_true] at hb
        simp only [Option.some.injEq] at h
        have := weight_tail_dropLast_lt hb.1
        have := weight_le_of_sublist
          (List.takeWhile_sublist (l := s.tail.dropLast) (fun c => decide (c ≠ ';')))
        rw [← h]
        unfold upTo
        omega
      · dsimp only at h
        split at h
        · exact weight_lt_of_mem_generic_args (List.mem_of_head? h)
        · simp at h

theorem weight_intercalate_le {separator : List Char} (hw : weight separator = 0)
    (ps : List (List Char)) : weight (separator.intercalate ps) ≤ (ps.map weight).sum := by
  induction ps with
  | nil => simp [weight]
  | cons p ps ih =>
    cases ps with
    | nil => simp
    | cons q ps =>
      simp only [List.intercalate_cons_cons, weight_append, List.map_cons, List.sum_cons, hw] at ih ⊢
      omega

theorem three_le_weight_of_isNullish {m : List Char} (h : isNullish m) : 3 ≤ weight m := by
  have : 3 ≤ weight (trim m) := by
    simp only [isNullish, isOneOf, List.contains_iff_mem] at h
    have all : ∀ w ∈ Vocabulary.nullish, 3 ≤ weight w.toList := by decide
    simpa using all _ h
  have := weight_trim_le m
  omega

/-- A union without its absent members weighs at least three less. -/
theorem sum_weight_present_le {members : List (List Char)} (h : members.any isNullish) :
    ((members.filter fun m => !isNullish m).map weight).sum + 3 ≤ (members.map weight).sum := by
  induction members with
  | nil => simp at h
  | cons m ms ih =>
    simp only [List.map_cons, List.sum_cons]
    by_cases hm : isNullish m
    · have := three_le_weight_of_isNullish hm
      have := sum_weight_filter_le (fun m => !isNullish m) ms
      simp only [List.filter_cons, hm, Bool.not_true]
      simp only [Bool.false_eq_true, ↓reduceIte]
      omega
    · have := ih (by simpa [hm] using h)
      simp only [List.filter_cons, hm, Bool.not_false, ↓reduceIte, List.map_cons, List.sum_cons]
      omega

theorem presentUnion_weight_lt {members : List (List Char)} (h : members.any isNullish)
    (hl : 1 < members.length) : weight (presentUnion members) < (members.map weight).sum := by
  unfold presentUnion
  dsimp only
  split
  · rename_i he
    have none_left : ∀ m ∈ members, isNullish m := by
      intro m hm
      have : m ∉ members.filter fun m => !isNullish m := by
        rw [List.isEmpty_iff.1 he]
        simp
      simpa [hm] using this
    have four : weight "null".toList = 4 := rfl
    match members, hl with
    | a :: b :: ms, _ =>
      have := three_le_weight_of_isNullish (none_left a (by simp))
      have := three_le_weight_of_isNullish (none_left b (by simp))
      simp only [List.map_cons, List.sum_cons]
      omega
  · have := sum_weight_present_le h
    have := @weight_intercalate_le " | ".toList rfl (members.filter fun m => !isNullish m)
    omega

theorem sum_weight_unionMembers_le (s : List Char) :
    ((unionMembers s).map weight).sum ≤ weight s := by
  unfold unionMembers
  dsimp only
  split
  · by_cases h : (generic s).args = []
    · simp [h]
    · have := weight_generic s h
      omega
  · have := sum_weight_splitBy_le "|" s
    have zero : weight "|".toList = 0 := rfl
    rw [zero] at this
    omega

theorem optional?_weight_lt {s type : List Char} (h : optional? s = some type) :
    weight type < weight s := by
  unfold optional? at h
  split at h
  · rename_i t ht
    simp only [Option.some.injEq] at h
    exact h ▸ before?_weight_lt ht (by decide)
  · dsimp only at h
    split at h
    · exact weight_lt_of_mem_generic_args (List.mem_of_head? h)
    · split at h
      · rename_i hm
        simp only [Bool.and_eq_true, decide_eq_true_eq] at hm
        simp only [Option.some.injEq] at h
        have := presentUnion_weight_lt hm.2 hm.1
        have := sum_weight_unionMembers_le s
        rw [← h]
        omega
      · simp at h

theorem weight_lt_of_peelPlain {p : Bool} {s inner : List Char} {p' a' : Bool}
    (h : peelBare.peelPlain p s = .around p' a' inner) : weight inner < weight s := by
  unfold peelBare.peelPlain at h
  split at h
  · simp at h
  · split at h
    · simp at h
    · split at h
      · rename_i e he
        simp only [Layer.around.injEq] at h
        exact h.2.2 ▸ element?_weight_lt he
      · split at h
        · simp at h
        · split at h
          · simp at h
          · split at h
            · rename_i t ht
              simp only [Layer.around.injEq] at h
              exact h.2.2 ▸ optional?_weight_lt ht
            · split at h <;> simp at h

theorem weight_lt_of_peelBare {p : Bool} {s inner : List Char} {p' a' : Bool}
    (h : peelBare p s = .around p' a' inner) : weight inner < weight s := by
  unfold peelBare at h
  split at h
  · simp at h
  · dsimp only at h
    split at h
    · rename_i first rest hargs
      have hm : ∀ a ∈ first :: rest, weight a < weight s := fun a ha =>
        weight_lt_of_mem_generic_args (hargs ▸ ha)
      split at h
      · simp only [Layer.around.injEq] at h
        exact h.2.2 ▸ hm first (by simp)
      · split at h
        · simp only [Layer.around.injEq] at h
          rw [← h.2.2]
          cases hr : rest.getLast? with
          | none => simpa [List.getLastD_eq_getLast?, hr] using hm first (by simp)
          | some l =>
            simpa [List.getLastD_eq_getLast?, hr] using
              hm l (List.mem_cons_of_mem _ (List.mem_of_getLast? hr))
        · split at h
          · simp only [Layer.around.injEq] at h
            exact h.2.2 ▸ hm first (by simp)
          · exact weight_lt_of_peelPlain h
    · exact weight_lt_of_peelPlain h

/-- The spelling inside a layer weighs less than the spelling without its qualifiers. -/
theorem weight_lt_of_peel {s inner : List Char} {p a : Bool} (h : peel s = .around p a inner) :
    weight inner < weight (stripQualifiers s) := by
  unfold peel at h
  dsimp only at h
  split at h
  · simp at h
  · rename_i c r hs
    rw [hs]
    split at h
    · split at h
      · simp at h
      · have := weight_lt_of_peelBare h
        have := weight_le_of_sublist (stripQualifiers_sublist r)
        rw [weight_cons]
        omega
    · rw [hs] at h
      exact weight_lt_of_peelBare h

/-! ## Shapes -/

/-- The shape of a type: what its layers say, and the base of what is inside the last one. -/
def shapeChars (s : List Char) : TypeShape :=
  match _h : peel s with
  | .whole shape => shape
  | .around isPointer isArray inner =>
    let shape := shapeChars inner
    { shape with
      isPointer := isPointer || shape.isPointer
      isArray := isArray || shape.isArray }
termination_by weight s
decreasing_by
  exact Nat.lt_of_lt_of_le (weight_lt_of_peel _h)
    (weight_le_of_sublist (stripQualifiers_sublist s))

@[inherit_doc shapeChars]
def shape (s : String) : TypeShape := shapeChars s.toList

/-- The canonical base of a type. -/
def base (s : String) : String := (shape s).base

end Spelling
end Concord
