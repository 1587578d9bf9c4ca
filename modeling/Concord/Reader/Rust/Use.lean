import Concord.Spelling.Bracket

/-!
# Concord.Reader.Rust.Use

Use trees: a path, perhaps renamed with `as`, or a path in front of a group of use trees in braces.

```
std::{io, fmt::{self, Display as Show}}   std::io, std::fmt, std::fmt::Display as Show
```

A leaf `self` in a group stands for the path in front of the group.
-/

namespace Concord.Reader.Rust

open Text Spelling

/-- A path that a use declaration brings in, with the name that it gets. -/
structure Used where
  path : List Char
  alias? : Option (List Char)
deriving DecidableEq, Repr

/-- The path `tail` below the path `stem`, either of which may be empty. -/
def below (stem tail : List Char) : List Char :=
  if stem.isEmpty then tail else if tail.isEmpty then stem else stem ++ [':', ':'] ++ tail

/-- The path in front of the group that a use tree ends with, and what the group holds. -/
def useGroup? (s : List Char) : Option (List Char × List Char) :=
  if s.contains '\x7b' && ends "\x7d" s then
    some (trim (trimEndBy (· = ':') (upTo '\x7b' s)), ((s.dropWhile (· ≠ '\x7b')).drop 1).dropLast)
  else none

/-- The path of a use tree that is no group, below the path `stem`. -/
def useLeaf (stem s : List Char) : Used :=
  let (path, alias?) := match splitAtWord " as ".toList s with
    | path :: renamed :: more =>
      (trim path, some (trim (" as ".toList.intercalate (renamed :: more))))
    | _ => (s, none)
  ⟨if path = "self".toList then stem else below stem path, alias?⟩

/-! ## The members of a group weigh less than the group -/

theorem weight_behind_le {c : Char} {s : List Char} (h : c ∈ s) :
    weight [c] + weight ((s.dropWhile (· ≠ c)).drop 1) ≤ weight s := by
  induction s with
  | nil => simp at h
  | cons d s ih =>
    rw [weight_cons d s]
    by_cases hd : d = c
    · simp [hd]
    · have := ih ((List.mem_cons.1 h).resolve_left (Ne.symm hd))
      rw [List.dropWhile_cons_of_pos (by simpa using hd)]
      omega

theorem weight_useGroup {s head inner : List Char} (h : useGroup? s = some (head, inner)) :
    weight inner < weight s := by
  unfold useGroup? at h
  split at h
  · rename_i hc
    simp only [Bool.and_eq_true, List.contains_iff_mem] at hc
    simp only [Option.some.injEq, Prod.mk.injEq] at h
    have le := weight_behind_le hc.1
    have one : weight ['\x7b'] = 1 := rfl
    have last := weight_le_of_sublist
      (List.dropLast_sublist ((s.dropWhile (· ≠ '\x7b')).drop 1))
    rw [← h.2]
    omega
  · simp at h

theorem weight_lt_of_mem_useGroup {s head inner part : List Char}
    (h : useGroup? s = some (head, inner)) (hp : part ∈ splitCommas inner) :
    weight part < weight s := by
  have lt := weight_useGroup h
  have le := weight_le_sum hp
  have sum := sum_weight_splitBy_le "," inner
  have comma : weight ",".toList = 1 := rfl
  have pos := List.length_pos_of_mem hp
  simp only [splitCommas] at le pos
  rw [comma] at sum
  omega

/-! ## Expansion -/

/-- The paths that a use tree below the path `stem` brings in, from left to right. -/
def expandUse (stem s : List Char) : List Used :=
  match _h : useGroup? (trim s) with
  | some (head, inner) =>
    (splitCommas inner).attach.flatMap fun part => expandUse (below stem head) part.1
  | none => [useLeaf stem (trim s)]
termination_by weight s
decreasing_by
  exact Nat.lt_of_lt_of_le (weight_lt_of_mem_useGroup _h part.2) (weight_trim_le s)

end Concord.Reader.Rust
