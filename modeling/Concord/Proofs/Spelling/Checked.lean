import Concord.Proofs.Spelling.Returned

/-!
# Concord.Proofs.Spelling.Checked

Reading a type never fails.  The readers of `Checked` are those of types and return types with each
access written out that could miss, to the first or the last element of a list or a text, and with a
bound on how deep readings may nest: to miss an element or to nest deeper is a fault.

* `beforeName?_fields` — the one access that no test stands in front of: the words of a type that
  stands in front of a name;
* `shape_eq`, `returns_eq` — so each reader gives what the reader without checks gives, within as
  many nested readings as the weight of a spelling allows;
* `reading_ends` — what is read inside a spelling weighs less than the spelling without its
  qualifiers, though it can be longer.
-/

namespace Concord.Spelling

open Text

-- Sums of naturals start from the core library's zero, whatever else is imported.
attribute [local instance (high)] Zero.ofOfNat0

/-! ## Words in front of a name -/

/-- A text with a character that is no blank has a field. -/
theorem fields_ne_nil {s : List Char} {c : Char} (hc : c ∈ s) (blank : isBlank c = false) :
    fields s ≠ [] := by
  induction s with
  | nil => cases hc
  | cons d r ih =>
    rw [fields, List.splitOnP_cons_eq_if_modifyHead]
    split
    · rename_i space
      have behind : c ∈ r := by
        refine (List.mem_cons.1 hc).resolve_left ?_
        rintro rfl
        rw [space] at blank
        cases blank
      rw [List.filter_cons_of_neg (by simp)]
      exact ih behind
    · cases parts : r.splitOnP isBlank with
      | nil => exact absurd parts (List.splitOnP_ne_nil _ _)
      | cons p ps => simp

/-- A type that stands in front of a name has a last word. -/
theorem beforeName?_fields {s type : List Char} (h : beforeName? s = some type) :
    fields type ≠ [] := by
  unfold beforeName? at h
  dsimp only at h
  split at h
  · rename_i ends
    simp only [Option.some.injEq] at h
    simp only [Bool.and_eq_true] at ends
    have filled := ends.1.2
    cases first : ((s.reverse.dropWhile isWordChar).dropWhile isBlank).head? with
    | none =>
      rw [first] at filled
      cases filled
    | some c =>
      have blank := List.head?_dropWhile_not isBlank (s.reverse.dropWhile isWordChar)
      rw [first] at blank
      rw [← h]
      exact fields_ne_nil (List.mem_reverse.2 (List.mem_of_head? first)) blank
  · cases h

/-! ## Checked readers -/

namespace Checked

/-- What can go wrong: an element that is not there, or readings that nest too deep. -/
inductive Fault where
  | missing
  | tooDeep
deriving DecidableEq, Repr

/-- The first element. -/
def first {α : Type} : List α → Except Fault α
  | [] => .error .missing
  | a :: _ => .ok a

/-- The last element. -/
def final {α : Type} (as : List α) : Except Fault α :=
  match as.getLast? with
  | none => .error .missing
  | some a => .ok a

/-- The last element, if there is any. -/
def finalOr {α : Type} (default : α) (as : List α) : Except Fault α :=
  if as.isEmpty then return default else final as

@[inherit_doc Spelling.member]
def member (s : List Char) : Except Fault (List Char) :=
  let s := dropLabel (trim s)
  match beforeName? s with
  | some type => do
    let word ← final (fields type)
    return if endsType word then trim type else s
  | none => return s

@[inherit_doc Spelling.isEnclosed]
def isEnclosed (opener closer : Char) (s : List Char) : Except Fault Bool :=
  if s.length < 2 then return false
  else do
    let front ← first s
    let back ← final s
    return front = opener && back = closer && staysOpen front 1 s.tail

@[inherit_doc Spelling.tupleMembers?]
def tupleMembers? (s : List Char) : Except Fault (Option (List (List Char))) :=
  let g := generic s
  if isTupleHead g.head && !g.args.isEmpty then
    if 1 < g.args.length && !isHomogeneous g.args then do return some (← g.args.mapM member)
    else return none
  else do
    if (← isEnclosed '(' ')' s) || (← isEnclosed '[' ']' s) then
      let inner := s.tail.dropLast
      let members := splitCommas inner
      if (← first s) = '[' && splitBy ";" inner ≠ [trim inner] then return none
      else if 1 < members.length || (trimEnd inner).getLast? = some ',' then
        return some (← members.mapM member)
      else return none
    else return none

@[inherit_doc Spelling.tupleElements?]
def tupleElements? (s : List Char) : Except Fault (Option (List (List Char))) :=
  tupleMembers? (stripQualifiers s)

@[inherit_doc Spelling.element?]
def element? (s : List Char) : Except Fault (Option (List Char)) :=
  match afterLength? s with
  | some element => return some element
  | none =>
    match before? "[]" s with
    | some element => return some element
    | none =>
      if begins "[" s && ends "]" s then return some (upTo ';' s.tail.dropLast)
      else
        let g := generic s
        if isOneOf Vocabulary.sequences g.head && !g.args.isEmpty ||
            isTupleHead g.head && isHomogeneous g.args then do
          return some (← first g.args)
        else return none

@[inherit_doc Spelling.optional?]
def optional? (s : List Char) : Except Fault (Option (List Char)) :=
  match before? "?" s with
  | some type => return some type
  | none =>
    let g := generic s
    if isOneOf Vocabulary.optionals g.head && !g.args.isEmpty then do
      return some (← first g.args)
    else
      let members := unionMembers s
      if 1 < members.length && members.any isNullish then return some (presentUnion members)
      else return none

@[inherit_doc Spelling.baseName]
def baseName (s : List Char) : Except Fault String :=
  let head := (generic s).head
  let head := if (trim head).isEmpty then s else trim head
  match Vocabulary.canonical? head with
  | some base => return base
  | none => do
    let last ← finalOr head ((segments head).filter (· ≠ []))
    let word := last.filter isWordChar
    if word.isEmpty then return "any"
    else
      let name := Name.normalizeChars word
      return (Vocabulary.lookup? name).getD (String.ofList name)

/-- The outermost layer of a spelling that is no wrapper of a single value. -/
def peelPlain (isPointer : Bool) (s : List Char) : Except Fault Layer :=
  if isFunction s then return .whole { base := "function", isPointer }
  else do
    if (← tupleElements? s).isSome then
      return .whole { base := "any", isPointer, isArray := true }
    else match ← element? s with
      | some element => return .around isPointer true element
      | none =>
        if isOneOf Vocabulary.sequences s then
          return .whole { base := "any", isPointer, isArray := true }
        else if isMapping s then return .whole { base := "map", isPointer, isMap := true }
        else match ← optional? s with
          | some type => return .around true false type
          | none =>
            if isUnion s then return .whole { base := "any", isPointer }
            else return .whole { base := ← baseName s, isPointer }

@[inherit_doc Spelling.peelBare]
def peelBare (isPointer : Bool) (s : List Char) : Except Fault Layer :=
  match Vocabulary.canonical? s with
  | some base => return .whole { base, isPointer }
  | none =>
    let g := generic s
    if !g.args.isEmpty && isOneOf Vocabulary.deferred g.head then do
      return .around isPointer false (← first g.args)
    else if !g.args.isEmpty && g.head = "Coroutine".toList then do
      return .around isPointer false (← final g.args)
    else if !g.args.isEmpty && isOneOf Vocabulary.pointers g.head then do
      return .around true false (← first g.args)
    else peelPlain isPointer s

@[inherit_doc Spelling.peel]
def peel (spelling : List Char) : Except Fault Layer :=
  let s := stripQualifiers spelling
  if s.isEmpty then return .whole { base := "void" }
  else do
    let c ← first s
    if (c = '*' || c = '&') && (Vocabulary.lookup? s).isNone then
      let target := stripQualifiers s.tail
      if target.isEmpty then return .whole { base := "any", isPointer := true }
      else peelBare true target
    else peelBare false s

/-- The shape of a type, within the given number of nested readings. -/
def shape : Nat → List Char → Except Fault TypeShape
  | 0, _ => .error .tooDeep
  | depth + 1, s => do
    match ← peel s with
    | .whole shape => return shape
    | .around isPointer isArray inner =>
      let shape ← shape depth inner
      return { shape with
        isPointer := isPointer || shape.isPointer
        isArray := isArray || shape.isArray }

@[inherit_doc Spelling.settled]
def settled (s : List Char) : Except Fault (Generic × List Char) :=
  let g := generic s
  if isOneOf Vocabulary.deferred g.head && !g.args.isEmpty then do
    let value := generic (← first g.args)
    return (value, value.render)
  else return (g, s)

/-- What a return type says at its outermost layer, within the given number of nested readings. -/
def returned (depth : Nat) (spelling : List Char) : Except Fault Returned :=
  let s := stripQualifiers spelling
  if isOneOf Vocabulary.deferred s then return .nothing
  else do
    let (g, s) ← settled s
    if isOneOf fallibleHeads g.head && !g.args.isEmpty then return .fallible (← first g.args)
    else match ← tupleElements? s with
      | some elements => return .several elements
      | none =>
        let base := (← shape depth s).base
        return if base = "void" then .nothing else .value base

/-- The canonical bases of the values that a function with these return types returns, within the
given number of nested readings. -/
def returns : Nat → List (List Char) → Except Fault (List String)
  | 0, _ => .error .tooDeep
  | depth + 1, spellings => do
    let bases ← spellings.mapM fun s => do
      match ← returned depth s with
      | .nothing => return []
      | .value base => return [base]
      | .fallible inner => return (← returns depth [inner]) ++ ["error"]
      | .several elements => returns depth elements
    return bases.flatten

/-! ## No reader fails -/

theorem final_of_getLast? {α : Type} {as : List α} {a : α} (h : as.getLast? = some a) :
    final as = .ok a := by
  rw [final, h]

/-- A checked function that answers on every element answers on the list. -/
theorem mapM_eq {α β : Type} {f : α → Except Fault β} {g : α → β} {as : List α}
    (h : ∀ a ∈ as, f a = .ok (g a)) : as.mapM f = .ok (as.map g) := by
  induction as with
  | nil => rfl
  | cons a as ih =>
    rw [List.mapM_cons, h a List.mem_cons_self, ih fun b hb => h b (List.mem_cons_of_mem _ hb)]
    rfl

@[simp] theorem ok_bind {α β : Type} (a : α) (f : α → Except Fault β) :
    ((Except.ok a : Except Fault α) >>= f) = f a := rfl

/-- The checked member is the member: its colon is looked for only where it is found. -/
theorem member_eq (s : List Char) : member s = .ok (Spelling.member s) := by
  rw [member, Spelling.member]
  cases named : beforeName? (dropLabel (trim s)) with
  | none => rfl
  | some type =>
    obtain ⟨word, last⟩ := Option.ne_none_iff_exists'.1
      (mt List.getLast?_eq_none_iff.1 (beforeName?_fields named))
    dsimp only
    rw [final_of_getLast? last, List.getLastD_eq_getLast?, last]
    rfl

/-- The checked test for a pair of brackets misses no element. -/
theorem isEnclosed_eq (opener closer : Char) (s : List Char) :
    isEnclosed opener closer s = .ok (Spelling.isEnclosed opener closer s) := by
  match s with
  | [] => rfl
  | [c] => simp [isEnclosed, Spelling.isEnclosed, pure, Except.pure]
  | c :: d :: r =>
    obtain ⟨back, last⟩ := Option.ne_none_iff_exists'.1
      (mt List.getLast?_eq_none_iff.1 (List.cons_ne_nil d r))
    have whole : (c :: d :: r).getLast? = some back := by rw [List.getLast?_cons_cons, last]
    rw [isEnclosed, Spelling.isEnclosed, if_neg (by simp), final_of_getLast? whole, last]
    by_cases front : c = opener
    · by_cases behind : back = closer
      · simp [first, front, behind, bind, Except.bind, pure, Except.pure]
      · simp [first, front, behind, bind, Except.bind, pure, Except.pure]
    · simp [first, front, bind, Except.bind, pure, Except.pure]

/-- The checked members of a tuple miss no element. -/
theorem tupleMembers?_eq (s : List Char) : tupleMembers? s = .ok (Spelling.tupleMembers? s) := by
  have members (ms : List (List Char)) : ms.mapM member = .ok (ms.map Spelling.member) :=
    mapM_eq fun m _ => member_eq m
  rw [tupleMembers?, Spelling.tupleMembers?, isEnclosed_eq, isEnclosed_eq]
  simp only [members, ok_bind]
  split
  · split <;> rfl
  · split
    · rename_i enclosed
      cases s with
      | nil => cases enclosed
      | cons c r =>
        simp only [first, ok_bind, List.head?_cons, Option.some.injEq]
        split
        · rfl
        · split <;> rfl
    · rfl

theorem tupleElements?_eq (s : List Char) : tupleElements? s = .ok (Spelling.tupleElements? s) :=
  tupleMembers?_eq _

/-- The checked first element is the first one of a list that is not empty. -/
theorem exists_first {α : Type} {as : List α} (h : as.isEmpty = false) :
    ∃ a, as.head? = some a ∧ first as = .ok a := by
  cases as with
  | nil => cases h
  | cons a as => exact ⟨a, rfl, rfl⟩

/-- The checked element of an array misses no element. -/
theorem element?_eq (s : List Char) : element? s = .ok (Spelling.element? s) := by
  rw [element?, Spelling.element?]
  cases afterLength? s with
  | some element => rfl
  | none =>
    cases before? "[]" s with
    | some element => rfl
    | none =>
      dsimp only
      split
      · rfl
      · cases empty : (generic s).args.isEmpty with
        | true =>
          have none : (generic s).args = [] := List.isEmpty_iff.1 empty
          have short : isHomogeneous [] = false := rfl
          rw [none, short, Bool.not_true, Bool.and_false, Bool.and_false, Bool.or_false,
            if_neg Bool.false_ne_true, List.head?_nil, ite_self]
          rfl
        | false =>
          obtain ⟨a, some, access⟩ := exists_first empty
          rw [access, some, Bool.not_false, Bool.and_true]
          split <;> rfl

/-- The checked inside of an optional misses no element. -/
theorem optional?_eq (s : List Char) : optional? s = .ok (Spelling.optional? s) := by
  rw [optional?, Spelling.optional?]
  cases before? "?" s with
  | some type => rfl
  | none =>
    dsimp only
    split
    · rename_i head
      rw [Bool.and_eq_true, Bool.not_eq_true'] at head
      obtain ⟨a, some, access⟩ := exists_first head.2
      rw [access, some]
      rfl
    · split <;> rfl

/-- A last element with a default is never missed. -/
theorem finalOr_eq {α : Type} (default : α) (as : List α) :
    finalOr default as = .ok (as.getLastD default) := by
  rw [finalOr, final, List.getLastD_eq_getLast?]
  cases last : as.getLast? with
  | none =>
    rw [List.getLast?_eq_none_iff.1 last]
    rfl
  | some a =>
    rw [if_neg]
    · rfl
    · intro empty
      rw [List.isEmpty_iff.1 empty] at last
      cases last

/-- The checked name of a base misses no element. -/
theorem baseName_eq (s : List Char) : baseName s = .ok (Spelling.baseName s) := by
  rw [baseName, Spelling.baseName]
  generalize (if (trim (generic s).head).isEmpty then s else trim (generic s).head) = head
  cases Vocabulary.canonical? head with
  | some base => rfl
  | none =>
    dsimp only
    rw [finalOr_eq, ok_bind]
    split <;> rfl

/-- The checked outermost form misses no element. -/
theorem peelPlain_eq (isPointer : Bool) (s : List Char) :
    peelPlain isPointer s = .ok (Spelling.peelBare.peelPlain isPointer s) := by
  rw [peelPlain, Spelling.peelBare.peelPlain, tupleElements?_eq, element?_eq, optional?_eq,
    baseName_eq]
  simp only [ok_bind]
  split
  · rfl
  · split
    · rfl
    · cases Spelling.element? s with
      | some element => rfl
      | none =>
        dsimp only
        split
        · rfl
        · split
          · rfl
          · cases Spelling.optional? s with
            | some type => rfl
            | none =>
              dsimp only
              split <;> rfl

/-- The checked outermost layer of a type without a pointer's mark misses no element. -/
theorem peelBare_eq (isPointer : Bool) (s : List Char) :
    peelBare isPointer s = .ok (Spelling.peelBare isPointer s) := by
  rw [peelBare, Spelling.peelBare, peelPlain_eq]
  cases Vocabulary.canonical? s with
  | some base => rfl
  | none =>
    dsimp only
    cases (generic s).args with
    | nil => rfl
    | cons a rest =>
      have last : final (a :: rest) = .ok (rest.getLastD a) :=
        final_of_getLast? (by rw [List.getLast?_cons, List.getLastD_eq_getLast?])
      simp only [first, last, ok_bind, List.isEmpty_cons, Bool.not_false, Bool.true_and,
        decide_eq_true_eq]
      split
      · rfl
      · split
        · rfl
        · split <;> rfl

/-- The checked outermost layer misses no element. -/
theorem peel_eq (s : List Char) : peel s = .ok (Spelling.peel s) := by
  rw [peel, Spelling.peel]
  cases stripQualifiers s with
  | nil => rfl
  | cons c r =>
    simp only [first, ok_bind, peelBare_eq, List.isEmpty_cons, List.tail_cons, Bool.false_eq_true,
      if_false]
    split
    · split <;> rfl
    · rfl

/-- The checked settled value misses no element. -/
theorem settled_eq (s : List Char) : settled s = .ok (Spelling.settled s) := by
  rw [settled, Spelling.settled]
  dsimp only
  cases (generic s).args with
  | nil =>
    rw [List.isEmpty_nil, Bool.not_true, Bool.and_false]
    rfl
  | cons a rest =>
    simp only [first, ok_bind, List.isEmpty_cons, Bool.not_false, Bool.and_true]
    split <;> rfl

/-! ## Depth -/

/-- The shape of a type is found within as many nested readings as the type weighs, and one more. -/
theorem shape_eq {depth : Nat} {s : List Char} (h : weight (stripQualifiers s) < depth) :
    shape depth s = .ok (shapeChars s) := by
  induction depth generalizing s with
  | zero => exact absurd h (Nat.not_lt_zero _)
  | succ depth ih =>
    rw [shape, shapeChars, peel_eq, ok_bind]
    split <;> rename_i layer
    · rw [layer]
      rfl
    · rename_i inner
      have lighter := weight_lt_of_peel layer
      have inside := weight_le_of_sublist (stripQualifiers_sublist inner)
      rw [layer]
      dsimp only
      rw [ih (by omega)]
      rfl

/-- A type that is no fallible result is a tuple or a value. -/
theorem value_eq {depth : Nat} {s : List Char} (h : weight (stripQualifiers s) < depth) :
    (do
      match ← tupleElements? s with
      | some elements => return .several elements
      | none =>
        let base := (← shape depth s).base
        return if base = "void" then .nothing else .value base : Except Fault Returned) =
      .ok (match Spelling.tupleElements? s with
        | some elements => .several elements
        | none => valueOf s) := by
  rw [tupleElements?_eq, shape_eq h]
  simp only [ok_bind]
  split <;> rfl

/-- The checked return type answers, with depth enough for the weight of the text. -/
theorem returned_eq {depth : Nat} {s : List Char} (h : weight (stripQualifiers s) < depth) :
    returned depth s = .ok (Spelling.returned s) := by
  have here := (weight_settled_le (stripQualifiers s)).1
  rw [returned, Spelling.returned, settled_eq]
  generalize Spelling.settled (stripQualifiers s) = parts at here ⊢
  obtain ⟨g, type⟩ := parts
  have inside := weight_le_of_sublist (stripQualifiers_sublist type)
  rw [ok_bind]
  dsimp only at here ⊢
  rw [value_eq (Nat.lt_of_le_of_lt (Nat.le_trans inside here) h)]
  split
  · rfl
  · cases head : isOneOf fallibleHeads g.head with
    | false =>
      rw [Bool.false_and, if_neg Bool.false_ne_true]
      exact congrArg Except.ok (returnedSettled_of_not_fallible (.inl head) type).symm
    | true =>
      cases args : g.args with
      | nil =>
        rw [List.isEmpty_nil, Bool.not_true, Bool.and_false, if_neg Bool.false_ne_true]
        exact congrArg Except.ok (returnedSettled_of_not_fallible (.inr args) type).symm
      | cons a rest =>
        rw [returnedSettled_of_fallible head args]
        rfl

/-- What is returned is found within as many nested readings as a return type weighs, and two
more. -/
theorem returns_eq {depth : Nat} {spellings : List (List Char)}
    (h : ∀ s ∈ spellings, weight (stripQualifiers s) < depth) :
    returns (depth + 1) spellings = .ok (spellings.flatMap returnsChars) := by
  induction depth generalizing spellings with
  | zero =>
    cases spellings with
    | nil => rfl
    | cons s spellings => exact absurd (h s List.mem_cons_self) (Nat.not_lt_zero _)
  | succ depth ih =>
    rw [returns, mapM_eq (g := returnsChars), ok_bind]
    · rfl
    · intro s hs
      have light := h s hs
      rw [returned_eq (by omega), ok_bind, returnsChars]
      split <;> rename_i layer
      · rw [layer]
        rfl
      · rw [layer]
        rfl
      -- What is inside weighs less, also once its qualifiers are stripped.
      · rename_i inner
        have lighter := weight_lt_of_returned_fallible layer
        have inside := weight_le_of_sublist (stripQualifiers_sublist inner)
        rw [layer]
        dsimp only
        rw [ih (by simp; omega)]
        simp [pure, Except.pure]
      · rename_i elements
        rw [layer]
        dsimp only
        rw [ih]
        · rw [List.flatMap_subtype (g := returnsChars) fun _ _ => rfl, List.unattach_attach]
        · intro e he
          have lighter := weight_lt_of_returned_several layer he
          have inside := weight_le_of_sublist (stripQualifiers_sublist e)
          omega

end Checked

/-- **Reading a type, or a list of return types, ends and never fails.**  All that is read inside a
spelling weighs less than the spelling without its qualifiers, the members of a tuple even together,
and so the readings nest no deeper than a spelling weighs.  Its length would not do as a measure: a
union without its absent members can be longer than it was. -/
theorem reading_ends (s : List Char) (types : List String) :
    (∀ isPointer isArray inner, peel s = .around isPointer isArray inner →
      weight inner < weight (stripQualifiers s)) ∧
    (∀ inner, returned s = .fallible inner → weight inner < weight (stripQualifiers s)) ∧
    (∀ elements, returned s = .several elements →
      (elements.map weight).sum < weight (stripQualifiers s)) ∧
    (∀ spare, Checked.shape (weight (stripQualifiers s) + 1 + spare) s = .ok (shapeChars s)) ∧
    (∀ spare,
      Checked.returns (((types.map fun t => stripQualifiers t.toList).map weight).sum + 2 + spare)
        (types.map String.toList) = .ok (returns types)) ∧
    ∃ t inner, peel t = .around true false inner ∧ t.length < inner.length := by
  refine ⟨fun _ _ _ => weight_lt_of_peel, fun _ => weight_lt_of_returned_fallible,
    fun _ => sum_weight_lt_of_returned_several, fun spare => Checked.shape_eq (by omega),
    fun spare => ?_, ?_⟩
  · have light : ∀ t ∈ types.map String.toList, weight (stripQualifiers t) <
        ((types.map fun t => stripQualifiers t.toList).map weight).sum + 1 + spare := by
      intro t ht
      obtain ⟨name, hname, rfl⟩ := List.mem_map.1 ht
      have := weight_le_sum (List.mem_map_of_mem (f := fun t => stripQualifiers t.toList) hname)
      omega
    have whole := Checked.returns_eq light
    rwa [List.flatMap_map, Nat.add_right_comm] at whole
  · exact ⟨"A|B|C|D|E|F|None".toList, "A | B | C | D | E | F".toList, by decide +kernel⟩

/-- The longer union weighs less all the same. -/
theorem reading_ends_union :
    peel "A|B|C|D|E|F|None".toList = .around true false "A | B | C | D | E | F".toList ∧
      weight "A | B | C | D | E | F".toList < weight (stripQualifiers "A|B|C|D|E|F|None".toList) :=
  ⟨by decide +kernel, (reading_ends "A|B|C|D|E|F|None".toList []).1 true false _ (by decide +kernel)⟩

end Concord.Spelling
