import Concord.Spelling.Shape

/-!
# Concord.Spelling.Returned

The values that a function returns, from the spelling of its return type: a tuple returns one value
for each member, a fallible result its value and an error, and the void type nothing.  A value that
arrives later counts as the value itself.
-/

namespace Concord.Spelling

open Text

-- Sums of naturals start from the core library's zero, whatever else is imported.
attribute [local instance (high)] Zero.ofOfNat0

/-- What a return type says at its outermost layer. -/
inductive Returned where
  | nothing
  | value (base : String)
  | fallible (inner : List Char)
  | several (elements : List (List Char))
deriving DecidableEq, Repr

/-- Heads of results that carry a value or an error. -/
def fallibleHeads : List String := ["Result", "std::result::Result", "io::Result"]

/-- A spelling with these parts. -/
def Generic.render (g : Generic) : List Char :=
  if g.args.isEmpty then g.head else g.head ++ '<' :: ", ".toList.intercalate g.args ++ ['>']

/-- The parts of a return type and its spelling, without the wrapper of a deferred value. -/
def settled (s : List Char) : Generic × List Char :=
  let g := generic s
  match g.args with
  | first :: _ =>
    if isOneOf Vocabulary.deferred g.head then (generic first, (generic first).render) else (g, s)
  | [] => (g, s)

/-- What a settled return type returns. -/
def returnedSettled (g : Generic) (s : List Char) : Returned :=
  match isOneOf fallibleHeads g.head, g.args with
  | true, first :: _ => .fallible first
  | _, _ =>
    match tupleElements? s with
    | some elements => .several elements
    | none =>
      let base := (shapeChars s).base
      if base = "void" then .nothing else .value base

/-- What a return type says at its outermost layer.  A deferred wrapper by itself carries no
value. -/
def returned (spelling : List Char) : Returned :=
  let s := stripQualifiers spelling
  if isOneOf Vocabulary.deferred s then .nothing
  else returnedSettled (settled s).1 (settled s).2

/-! ## The spellings inside weigh less -/

theorem weight_intercalate_comma (ps : List (List Char)) (h : ps ≠ []) :
    weight (", ".toList.intercalate ps) + 1 ≤ (ps.map weight).sum + ps.length := by
  induction ps with
  | nil => simp at h
  | cons p ps ih =>
    cases ps with
    | nil => simp
    | cons q ps =>
      have := ih (by simp)
      have comma : weight ", ".toList = 1 := rfl
      simp only [List.intercalate_cons_cons, weight_append, List.map_cons, List.sum_cons, comma,
        List.length_cons] at this ⊢
      omega

theorem generic_head_sublist (s : List Char) : (generic s).head.Sublist s := by
  refine List.Sublist.trans ?_ (trim_sublist s)
  unfold generic
  generalize trim s = t
  unfold genericTrimmed
  split
  · exact List.Sublist.refl _
  · rename_i last before hrev
    split
    · split
      · rename_i front c content hg
        split
        · have ht : t = front.reverse ++ c :: content ++ [last] := by
            have := congrArg List.reverse hrev
            simp only [List.reverse_reverse, List.reverse_cons] at this
            have group := openGroup_eq hg
            rw [List.append_nil] at group
            rw [this, group]
          rw [ht, List.append_assoc]
          exact (trim_sublist _).trans (List.sublist_append_left _ _)
        · exact List.Sublist.refl _
      · exact List.Sublist.refl _
    · exact List.Sublist.refl _

theorem weight_render_le (s : List Char) : weight (generic s).render ≤ weight s := by
  unfold Generic.render
  split
  · exact weight_le_of_sublist (generic_head_sublist s)
  · rename_i h
    have hne : (generic s).args ≠ [] := by simpa using h
    have := weight_generic s hne
    have := weight_intercalate_comma (generic s).args hne
    have one : weight ['<'] = 1 := rfl
    have one' : weight ['>'] = 1 := rfl
    rw [weight_append, weight_append, weight_cons, one, one']
    omega

theorem weight_settled_le (s : List Char) :
    weight (settled s).2 ≤ weight s ∧ ∀ a ∈ (settled s).1.args, weight a < weight s := by
  unfold settled
  dsimp only
  split
  · rename_i first rest hargs
    split
    · have hf : weight first < weight s :=
        weight_lt_of_mem_generic_args (hargs ▸ List.mem_cons_self)
      exact ⟨Nat.le_of_lt (Nat.lt_of_le_of_lt (weight_render_le first) hf),
        fun a ha => Nat.lt_trans (weight_lt_of_mem_generic_args ha) hf⟩
    · exact ⟨Nat.le_refl _, fun a ha => weight_lt_of_mem_generic_args ha⟩
  · exact ⟨Nat.le_refl _, fun a ha => weight_lt_of_mem_generic_args ha⟩

theorem weight_lt_of_returned_fallible {s inner : List Char} (h : returned s = .fallible inner) :
    weight inner < weight (stripQualifiers s) := by
  unfold returned at h
  dsimp only at h
  split at h
  · simp at h
  · unfold returnedSettled at h
    split at h
    · rename_i first rest _ hargs
      simp only [Returned.fallible.injEq] at h
      exact h ▸ (weight_settled_le _).2 first (hargs ▸ List.mem_cons_self)
    · split at h
      · simp at h
      · dsimp only at h
        split at h <;> simp at h

theorem sum_weight_lt_of_returned_several {s : List Char} {es : List (List Char)}
    (h : returned s = .several es) : (es.map weight).sum < weight (stripQualifiers s) := by
  unfold returned at h
  dsimp only at h
  split at h
  · simp at h
  · unfold returnedSettled at h
    split at h
    · simp at h
    · split at h
      · rename_i elements ht
        simp only [Returned.several.injEq] at h
        have lt := sum_weight_tupleMembers_lt ht
        have := weight_le_of_sublist (stripQualifiers_sublist (settled (stripQualifiers s)).2)
        have := (weight_settled_le (stripQualifiers s)).1
        rw [← h]
        omega
      · dsimp only at h
        split at h <;> simp at h

theorem weight_lt_of_returned_several {s : List Char} {es : List (List Char)}
    (h : returned s = .several es) {e : List Char} (he : e ∈ es) :
    weight e < weight (stripQualifiers s) :=
  Nat.lt_of_le_of_lt (weight_le_sum he) (sum_weight_lt_of_returned_several h)

/-! ## Returned values -/

/-- The canonical bases of the values that a return type returns. -/
def returnsChars (s : List Char) : List String :=
  match _h : returned s with
  | .nothing => []
  | .value base => [base]
  | .fallible inner => returnsChars inner ++ ["error"]
  | .several elements => elements.attach.flatMap fun e => returnsChars e.1
termination_by weight s
decreasing_by
  · exact Nat.lt_of_lt_of_le (weight_lt_of_returned_fallible _h)
      (weight_le_of_sublist (stripQualifiers_sublist s))
  · exact Nat.lt_of_lt_of_le (weight_lt_of_returned_several _h e.2)
      (weight_le_of_sublist (stripQualifiers_sublist s))

/-- The canonical bases of the values that a function with these return types returns. -/
def returns (spellings : List String) : List String :=
  spellings.flatMap fun s => returnsChars s.toList

end Concord.Spelling
