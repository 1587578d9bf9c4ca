import Concord.Text.Blank
import Concord.Text.Cut

/-!
# Concord.Spelling.Bracket

Brackets in the spelling of a type: splitting at separators that stand outside all brackets, taking
a generic spelling apart into its head and its arguments, and recognising a spelling that is
enclosed as a whole.  All kinds of brackets count alike.

The results are parts of the spelling, which is stated here through the *weight* of a text: the
number of its characters other than blanks and bars.  Reading a type by taking it apart ends
because every part weighs less.
-/

namespace Concord.Spelling

open Text

-- Sums of naturals start from the core library's zero, whatever else is imported.
attribute [local instance (high)] Zero.ofOfNat0

/-- The opening brackets. -/
def isOpener (c : Char) : Bool := c = '<' || c = '(' || c = '[' || c = '\x7b'

/-- The closing brackets. -/
def isCloser (c : Char) : Bool := c = '>' || c = ')' || c = ']' || c = '\x7d'

/-- The number of characters other than blanks and bars. -/
def weight (s : List Char) : Nat := s.countP fun c => c ≠ ' ' && c ≠ '|'

/-! ## Splitting outside brackets -/

/-- The bracket depth behind `c`, which stands between `prev` and depth `depth`.  The `>` of a
double arrow closes nothing, and a closing bracket too many is passed over. -/
def depthAfter (prev : Option Char) (depth : Nat) (c : Char) : Nat :=
  if isOpener c then depth + 1
  else if isCloser c && !(c = '>' && prev = some '=') then depth - 1
  else depth

/-- The pieces of a text between the separators that stand at depth zero; `prev` and `depth` tell
what stands in front of the text. -/
def pieces (separator : List Char) (prev : Option Char) (depth : Nat) :
    List Char → List (List Char)
  | [] => [[]]
  | c :: r =>
    let d := depthAfter prev depth c
    if d = 0 && !separator.isEmpty && separator.isPrefixOf (c :: r) then
      [] :: pieces separator separator.getLast? d (r.drop (separator.length - 1))
    else consFirst c (pieces separator (some c) d r)
termination_by s => s.length
decreasing_by all_goals simp; try omega

/-- The parts of a text between the separators outside brackets, trimmed; empty ones are dropped. -/
def splitBy (separator : String) (s : List Char) : List (List Char) :=
  ((pieces separator.toList none 0 s).map trim).filter (· ≠ [])

/-- The parts between top-level commas. -/
def splitCommas (s : List Char) : List (List Char) := splitBy "," s

/-! ## Generic spellings -/

/-- Reads a reversed spelling up to the bracket that opens the group it ends with: what stands in
front of that bracket, still reversed, the bracket, and what stands behind it. -/
def openGroup (depth : Nat) (content : List Char) :
    List Char → Option (List Char × Char × List Char)
  | [] => none
  | c :: r =>
    if isCloser c then openGroup (depth + 1) (c :: content) r
    else if isOpener c then
      if depth ≤ 1 then some (r, c, content) else openGroup (depth - 1) (c :: content) r
    else openGroup depth (c :: content) r

/-- A spelling taken apart as `head<args>` or `head[args]`. -/
structure Generic where
  head : List Char
  args : List (List Char)
deriving DecidableEq, Repr

/-- The head and the arguments of a trimmed spelling.  A spelling that does not end in a bracketed
group behind a head is its own head and has no arguments. -/
def genericTrimmed (s : List Char) : Generic :=
  match s.reverse with
  | [] => ⟨s, []⟩
  | last :: before =>
    if last = '>' || last = ']' then
      match openGroup 1 [] before with
      | some (front, c, content) =>
        if (c = '<' && last = '>' || c = '[' && last = ']') && !front.isEmpty && !content.isEmpty
        then ⟨trim front.reverse, splitCommas content⟩
        else ⟨s, []⟩
      | none => ⟨s, []⟩
    else ⟨s, []⟩

/-- The head and the arguments of a spelling. -/
def generic (s : List Char) : Generic := genericTrimmed (trim s)

/-! ## Enclosed spellings -/

/-- Whether, from depth `depth` behind `prev`, the depth stays above zero up to the last
character. -/
def staysOpen (prev : Char) (depth : Nat) : List Char → Bool
  | [] => true
  | c :: r =>
    if isOpener c then staysOpen c (depth + 1) r
    else if isCloser c && !(c = '>' && (prev = '=' || prev = '-')) then
      if depth = 1 && !r.isEmpty then false else staysOpen c (depth - 1) r
    else staysOpen c depth r

/-- Whether the first and the last character are one pair of the given brackets.  The `>` of an
arrow closes nothing. -/
def isEnclosed (opener closer : Char) (s : List Char) : Bool :=
  match s with
  | [] => false
  | c :: r => !r.isEmpty && c = opener && r.getLast? = some closer && staysOpen c 1 r

/-! ## Weights of the parts -/

theorem weight_le_of_sublist {s t : List Char} (h : s.Sublist t) : weight s ≤ weight t :=
  h.countP_le

theorem weight_append (s t : List Char) : weight (s ++ t) = weight s + weight t :=
  List.countP_append

theorem weight_cons (c : Char) (s : List Char) : weight (c :: s) = weight [c] + weight s :=
  weight_append [c] s

theorem trim_sublist (s : List Char) : (trim s).Sublist s := by
  unfold trim trimEnd trimEndBy trimStart
  have h := List.dropWhile_sublist (l := (s.dropWhile isBlank).reverse) isBlank
  exact (List.reverse_sublist.2 h |>.trans (by simp)).trans (List.dropWhile_sublist isBlank)

theorem weight_trim_le (s : List Char) : weight (trim s) ≤ weight s :=
  weight_le_of_sublist (trim_sublist s)

theorem sum_weight_consFirst (c : Char) (ps : List (List Char)) :
    ((consFirst c ps).map weight).sum = weight [c] + (ps.map weight).sum := by
  cases ps with
  | nil => simp [consFirst]
  | cons p ps => simp [consFirst, weight_cons c p, Nat.add_assoc]

theorem length_consFirst {c : Char} {ps : List (List Char)} (h : ps ≠ []) :
    (consFirst c ps).length = ps.length := by
  cases ps with
  | nil => simp at h
  | cons p ps => rfl

theorem consFirst_ne_nil (c : Char) (ps : List (List Char)) : consFirst c ps ≠ [] := by
  cases ps <;> simp [consFirst]

theorem pieces_ne_nil (separator : List Char) (prev : Option Char) (depth : Nat) (s : List Char) :
    pieces separator prev depth s ≠ [] := by
  fun_cases pieces separator prev depth s with
  | case1 => exact List.cons_ne_nil _ _
  | case2 => exact List.cons_ne_nil _ _
  | case3 => exact consFirst_ne_nil _ _

theorem weight_drop_separator {separator : List Char} {c : Char} {r : List Char}
    (h : separator.isPrefixOf (c :: r)) (hne : separator ≠ []) :
    weight separator + weight (r.drop (separator.length - 1)) = weight (c :: r) := by
  obtain ⟨t, ht⟩ := List.isPrefixOf_iff_prefix.1 h
  rw [← ht, weight_append]
  cases separator with
  | nil => simp at hne
  | cons a sep =>
    obtain ⟨rfl, rfl⟩ := by simpa using ht
    simp

/-- The pieces and the separators between them together weigh no more than the text. -/
theorem sum_weight_pieces_le (separator : List Char) (prev : Option Char) (depth : Nat)
    (s : List Char) :
    ((pieces separator prev depth s).map weight).sum +
        (pieces separator prev depth s).length * weight separator ≤
      weight s + weight separator := by
  fun_induction pieces separator prev depth s with
  | case1 => simp [weight]
  | case2 prev depth c r d h ih =>
    simp only [Bool.and_eq_true] at h
    have drop := weight_drop_separator h.2 (by simpa using h.1.2)
    have zero : weight [] = 0 := rfl
    simp only [List.map_cons, List.sum_cons, List.length_cons, zero, Nat.add_one_mul]
    omega
  | case3 prev depth c r d h ih =>
    rw [sum_weight_consFirst, length_consFirst (pieces_ne_nil _ _ _ _), weight_cons c r]
    omega

theorem sum_weight_filter_le (p : List Char → Bool) (ps : List (List Char)) :
    ((ps.filter p).map weight).sum ≤ (ps.map weight).sum := by
  induction ps with
  | nil => simp
  | cons a ps ih =>
    by_cases h : p a <;> simp [h] <;> omega

theorem sum_weight_trim_le (ps : List (List Char)) :
    ((ps.map trim).map weight).sum ≤ (ps.map weight).sum := by
  induction ps with
  | nil => simp
  | cons a ps ih =>
    have := weight_trim_le a
    simp only [List.map_cons, List.sum_cons]
    omega

/-- The parts and as many separators as stand between them weigh no more than the text. -/
theorem sum_weight_splitBy_le (separator : String) (s : List Char) :
    ((splitBy separator s).map weight).sum +
        (splitBy separator s).length * weight separator.toList ≤
      weight s + weight separator.toList := by
  have whole := sum_weight_pieces_le separator.toList none 0 s
  unfold splitBy
  generalize pieces separator.toList none 0 s = ps at whole ⊢
  have sum := Nat.le_trans (sum_weight_filter_le (fun p => decide (p ≠ [])) (ps.map trim))
    (sum_weight_trim_le ps)
  have len : ((ps.map trim).filter (fun p => decide (p ≠ []))).length ≤ ps.length := by
    simpa using List.length_filter_le (fun p => decide (p ≠ [])) (ps.map trim)
  have := Nat.mul_le_mul_right (weight separator.toList) len
  omega

theorem weight_le_sum {p : List Char} {ps : List (List Char)} (h : p ∈ ps) :
    weight p ≤ (ps.map weight).sum := by
  induction ps with
  | nil => simp at h
  | cons a ps ih =>
    simp only [List.map_cons, List.sum_cons]
    rcases List.mem_cons.1 h with rfl | h
    · omega
    · have := ih h
      omega

theorem openGroup_eq {depth : Nat} {content t front content' : List Char} {c : Char}
    (h : openGroup depth content t = some (front, c, content')) :
    t.reverse ++ content = front.reverse ++ c :: content' := by
  fun_induction openGroup depth content t with
  | case1 => simp at h
  | case2 depth content c r hc ih => simpa using ih h
  | case3 depth content c r hc ho hd => simp at h; simp [h]
  | case4 depth content c r hc ho hd ih => simpa using ih h
  | case5 depth content c r hc ho ih => simpa using ih h

/-- The head, the arguments and what stands between them, brackets and commas, weigh no more than
the spelling. -/
theorem weight_generic (s : List Char) (h : (generic s).args ≠ []) :
    weight (generic s).head + ((generic s).args.map weight).sum + (generic s).args.length + 1 ≤
      weight s := by
  refine Nat.le_trans ?_ (weight_trim_le s)
  unfold generic at h ⊢
  generalize trim s = t at h ⊢
  revert h
  unfold genericTrimmed
  split
  · simp
  · rename_i last before hrev
    split
    · rename_i hlast
      split
      · rename_i front c content hg
        split
        · rename_i hc
          intro _
          have ht : t = front.reverse ++ c :: content ++ [last] := by
            have := congrArg List.reverse hrev
            simp only [List.reverse_reverse, List.reverse_cons] at this
            have group := openGroup_eq hg
            rw [List.append_nil] at group
            rw [this, group]
          have wc : weight [c] = 1 := by
            rcases Bool.or_eq_true _ _ ▸ (Bool.and_eq_true _ _ ▸ (Bool.and_eq_true _ _ ▸ hc).1).1
              with h | h <;> (simp at h; rw [h.1]; rfl)
          have wl : weight [last] = 1 := by
            rcases Bool.or_eq_true _ _ ▸ hlast with h | h <;> (simp at h; rw [h]; rfl)
          have w := weight_trim_le front.reverse
          have a := sum_weight_splitBy_le "," content
          have comma : weight ",".toList = 1 := rfl
          rw [comma] at a
          rw [ht, weight_append, weight_append, weight_cons c content, wc, wl]
          simp only [splitCommas]
          omega
        · simp
      · simp
    · simp

theorem weight_lt_of_mem_generic_args {s a : List Char} (h : a ∈ (generic s).args) :
    weight a < weight s := by
  have := weight_generic s (List.ne_nil_of_mem h)
  have := weight_le_sum h
  omega

end Concord.Spelling
