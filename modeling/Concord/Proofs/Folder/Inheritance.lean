import Mathlib
import Concord.Proofs.Folder.Pruning

/-!
# Concord.Proofs.Folder.Inheritance

Which places decide that a rule ignores a path.  The names on the way from the folder of the rule to
the root of the analysis are passed over; every place behind the root counts, down to the path
itself:

```
folder of the rule / … / root / first / first/second / … / path
                               └─────── places that count ──────┘
```

A pattern without a slash is asked for the last name of such a place, any other for the way to it
from the folder of the rule on.

* `IgnorePattern.covers_iff` — a pattern covers a path with one of the places on the way;
* `IgnoreRule.ignoresBy_iff` — so a rule ignores a path if it stands for a place behind the root;
* `IgnoreRule.ignoresBy_below_root` — then it ignores whatever is below, and a rule for names does
  not see where its own folder is.
-/

namespace Concord

/-! ## Beginnings and ends -/

/-- The beginnings of a path that are not the whole path. -/
theorem prefix_dropLast_iff {way names : List String} (h : way ≠ []) :
    way <+: names.dropLast ↔ way <+: names ∧ way ≠ names := by
  rcases List.eq_nil_or_concat' names with rfl | ⟨front, last, rfl⟩
  · simp [h]
  · rw [List.dropLast_concat]
    constructor
    · intro on
      refine ⟨on.trans (List.prefix_append _ _), ?_⟩
      rintro rfl
      have := on.length_le
      simp at this
    · rintro ⟨on, ne⟩
      exact (List.prefix_concat_iff.1 on).resolve_left ne

theorem mem_of_mem_trimEndBy {q : Char → Bool} {c : Char} {s : List Char}
    (h : c ∈ Text.trimEndBy q s) : c ∈ s := by
  rw [Text.trimEndBy, List.mem_reverse] at h
  exact List.mem_reverse.1 ((List.dropWhile_suffix q).subset h)

theorem trimEndBy_concat_of_pos {q : Char → Bool} {c : Char} (h : q c = true) (s : List Char) :
    Text.trimEndBy q (s ++ [c]) = Text.trimEndBy q s := by
  rw [Text.trimEndBy, Text.trimEndBy, List.reverse_concat, List.dropWhile_cons_of_pos h]

/-! ## Patterns -/

namespace IgnorePattern

variable (accepts : List Char → List Char → Bool) (p : IgnorePattern)

/-- Whether a pattern stands for a place, given the way to it from the folder of the rule. -/
def standsFor (way : List String) : Bool :=
  accepts p.glob (if p.isPath then Path.join way else way.getLastD "").toList

theorem coversEnd_eq (above : Nat) (front : List String) (last : String) :
    p.coversEnd accepts above front last =
      (decide (above ≤ front.length) && p.standsFor accepts (front ++ [last])) := by
  rw [coversEnd, standsFor, List.getLastD_concat]

/-- A rule covers a path exactly if it stands for some place on the way. -/
theorem coversAny_iff (above : Nat) (names : List String) :
    p.coversAny accepts above names = true ↔
      ∃ way, way <+: names ∧ above < way.length ∧ p.standsFor accepts way = true := by
  induction names using List.reverseRecOn with
  | nil => simp [coversAny]
  | append_singleton front last ih =>
      rw [coversAny_concat, Bool.or_eq_true, ih, coversEnd_eq, Bool.and_eq_true, decide_eq_true_eq]
      constructor
      · rintro (⟨way, on, long, stands⟩ | ⟨long, stands⟩)
        · exact ⟨way, on.trans (List.prefix_append _ _), long, stands⟩
        · exact ⟨front ++ [last], List.prefix_rfl, by simp; omega, stands⟩
      · rintro ⟨way, on, long, stands⟩
        rcases List.prefix_concat_iff.1 on with rfl | on
        · rw [List.length_append, List.length_singleton] at long
          exact .inr ⟨by omega, stands⟩
        · exact .inl ⟨way, on, long, stands⟩

/-- A pattern covers a path if it stands for one of the places on the way; a pattern for folders
does not ask for the last one. -/
theorem covers_iff (above : Nat) (names : List String) :
    p.covers accepts above names = true ↔
      ∃ way, way <+: names ∧ (p.onlyFolders = true → way ≠ names) ∧ above < way.length ∧
        p.standsFor accepts way = true := by
  rw [covers_eq, coversAny_iff]
  refine exists_congr fun way => ?_
  cases p.onlyFolders with
  | false => simp
  | true =>
      simp only [if_true, forall_const, ← and_assoc]
      refine and_congr_left fun _ => and_congr_left fun long => ?_
      exact prefix_dropLast_iff (List.ne_nil_of_length_pos (by omega))

end IgnorePattern

namespace IgnoreRule

/-! ## Patterns for names -/

/-- Whether a character separates names in a pattern. -/
def isSlash (c : Char) : Bool := c = '/' || c = '\\'

/-- Whether a pattern has no slash or backslash, except possibly for one at its end.  Blanks around
a pattern do not count. -/
def isForNames (pattern : String) : Bool :=
  !(Text.trim pattern.toList).dropLast.any isSlash

/-- A pattern without a slash inside stands for single names. -/
theorem isPath_eq_false {pattern : String} (h : isForNames pattern = true) {p : IgnorePattern}
    (hp : IgnorePattern.ofText? pattern.toList = some p) : p.isPath = false := by
  rw [isForNames, Bool.not_eq_true', List.any_eq_false] at h
  unfold IgnorePattern.ofText? at hp
  dsimp only at hp
  generalize Text.trim pattern.toList = s at h hp
  rcases List.eq_nil_or_concat' s with rfl | ⟨front, last, rfl⟩
  · simp [Text.trimEndBy] at hp
  rw [List.dropLast_concat] at h
  -- Only the last character may be a slash, and one at the end is trimmed away.
  have plain : ∀ c ∈ front, c ≠ '\\' ∧ c ≠ '/' := by
    intro c hc
    have := h c hc
    simp only [isSlash, Bool.or_eq_true, decide_eq_true_eq, not_or] at this
    exact this.symm
  have same : front.map (fun c => if c = '\\' then '/' else c) = front :=
    (List.map_congr_left fun c hc => if_neg (plain c hc).1).trans (List.map_id' front)
  have noSlash : '/' ∉ front := fun hc => (plain _ hc).2 rfl
  rw [List.map_append, List.map_singleton, same] at hp
  generalize (if last = '\\' then '/' else last) = l at hp
  have clear : (front ++ [l]).head? ≠ some '/' ∧
      '/' ∉ Text.trimEndBy (· = '/') ((front ++ [l]).dropWhile (· = '/')) := by
    by_cases slash : l = '/'
    · subst slash
      cases front with
      | nil => simp [Text.trimEndBy] at hp
      | cons c front =>
          have hc : c ≠ '/' := (plain c List.mem_cons_self).2
          refine ⟨by simpa using hc, fun held => noSlash ?_⟩
          rw [List.cons_append, List.dropWhile_cons_of_neg (by simpa using hc), ← List.cons_append,
            trimEndBy_concat_of_pos (by simp)] at held
          exact mem_of_mem_trimEndBy held
    · have absent : '/' ∉ front ++ [l] := by
        simp [noSlash, Ne.symm slash]
      refine ⟨fun first => absent (List.mem_of_head? first), fun held => absent ?_⟩
      exact (List.dropWhile_suffix _).subset (mem_of_mem_trimEndBy held)
  split at hp
  · contradiction
  · obtain rfl := Option.some.inj hp
    simp only [decide_eq_false clear.1, Bool.false_or, List.contains_eq_mem, decide_eq_false clear.2]

/-! ## Rules -/

variable {accepts : List Char → List Char → Bool} {rule : IgnoreRule}
  {root? : Option (List String)}

/-- A rule ignores a path below the root if its pattern stands for a place behind the root on the
way to the path. -/
theorem ignoresBy_iff {above : List String} (start : root?.getD rule.folder = rule.folder ++ above)
    {below : List String} (nonempty : below ≠ []) :
    rule.ignoresBy accepts root? (rule.folder ++ above ++ below) = true ↔
      ∃ p, IgnorePattern.ofText? rule.pattern.toList = some p ∧
        ∃ way, way ≠ [] ∧ way <+: below ∧ (p.onlyFolders = true → way ≠ below) ∧
          p.standsFor accepts (above ++ way) = true := by
  have count : namesAbove rule.folder root? = above.length := by
    cases root? with
    | none =>
        obtain rfl : above = [] := List.append_right_eq_self.1 start.symm
        rfl
    | some root =>
        obtain rfl : root = rule.folder ++ above := start
        simp [namesAbove, Path.below?]
  have seen : Path.below? rule.folder (rule.folder ++ above ++ below) = some (above ++ below) := by
    simp [Path.below?]
  have below' : (above ++ below).isEmpty = false := by simp [nonempty]
  rw [ignoresBy, seen, count]
  cases IgnorePattern.ofText? rule.pattern.toList with
  | none => simp
  | some p =>
      simp only [below', Bool.false_eq_true, if_false, Option.some.injEq, exists_eq_left',
        IgnorePattern.covers_iff]
      -- The places on the way to the path that lie behind the root are those with `above` in front.
      constructor
      · rintro ⟨whole, on, last, long, stands⟩
        obtain ⟨way, rfl⟩ : above <+: whole :=
          List.prefix_of_prefix_length_le (List.prefix_append _ _) on long.le
        refine ⟨way, ?_, (List.prefix_append_right_inj _).1 on, fun only same => ?_, stands⟩
        · rintro rfl
          simp at long
        · exact last only (by rw [same])
      · rintro ⟨way, nonempty, on, last, stands⟩
        refine ⟨above ++ way, (List.prefix_append_right_inj _).2 on, fun only same => ?_, ?_, stands⟩
        · exact last only (List.append_cancel_left same)
        · have := List.length_pos_iff.2 nonempty
          rw [List.length_append]
          omega

/-- What a rule ignores below the root, it ignores with everything below. -/
theorem ignoresBy_append {above : List String}
    (start : root?.getD rule.folder = rule.folder ++ above) {below : List String}
    (nonempty : below ≠ [])
    (ignored : rule.ignoresBy accepts root? (rule.folder ++ above ++ below) = true)
    (rest : List String) :
    rule.ignoresBy accepts root? (rule.folder ++ above ++ below ++ rest) = true := by
  obtain ⟨p, hp, way, hway, on, last, stands⟩ := (ignoresBy_iff start nonempty).1 ignored
  rw [List.append_assoc]
  refine (ignoresBy_iff start (List.append_ne_nil_of_left_ne_nil nonempty rest)).2
    ⟨p, hp, way, hway, on.trans (List.prefix_append _ _), fun only same => ?_, stands⟩
  refine last only (on.eq_of_length_le ?_)
  rw [same, List.length_append]
  exact Nat.le_add_right _ _

/-- The root takes the place of the folder of a rule for names. -/
theorem ignoresBy_root (names : isForNames rule.pattern = true) (above : List String)
    {below : List String} (nonempty : below ≠ []) :
    rule.ignoresBy accepts (some (rule.folder ++ above)) (rule.folder ++ above ++ below) =
      ignoresBy accepts ⟨rule.pattern, rule.folder ++ above⟩ none
        (rule.folder ++ above ++ below) := by
  let moved : IgnoreRule := ⟨rule.pattern, rule.folder ++ above⟩
  have start : (none : Option (List String)).getD moved.folder = moved.folder ++ [] :=
    (List.append_nil _).symm
  have alone := @ignoresBy_iff accepts moved none [] start below nonempty
  rw [List.append_nil] at alone
  rw [Bool.eq_iff_iff, ignoresBy_iff rfl nonempty, alone]
  refine exists_congr fun p => and_congr_right fun hp => exists_congr fun way =>
    and_congr_right fun hway => ?_
  -- The last name of a place is the same wherever the way to it begins.
  have same : (above ++ way).getLastD "" = ([] ++ way).getLastD "" := by
    obtain ⟨front, last, rfl⟩ := List.eq_nil_or_concat' way |>.resolve_left hway
    rw [← List.append_assoc, List.getLastD_concat, ← List.append_assoc, List.getLastD_concat]
  simp only [IgnorePattern.standsFor, isPath_eq_false names hp, Bool.false_eq_true, if_false, same]

/-- **Ignoring is inherited, and blind above the root.**  For a path strictly below the root of an
analysis (below the folder of the rule if there is no root), whatever patterns stand for: what a
rule ignores it ignores with everything below, and a rule for names ignores what it would ignore if
it stood at the root. -/
theorem ignoresBy_below_root (accepts : List Char → List Char → Bool) (rule : IgnoreRule)
    (root? : Option (List String)) (path : List String)
    (inside : rule.folder <+: root?.getD rule.folder) (below : root?.getD rule.folder <+: path)
    (strictly : path ≠ root?.getD rule.folder) :
    (rule.ignoresBy accepts root? path = true →
        ∀ rest, rule.ignoresBy accepts root? (path ++ rest) = true) ∧
      (isForNames rule.pattern = true → ∀ root, root? = some root →
        rule.ignoresBy accepts (some root) path =
          ignoresBy accepts ⟨rule.pattern, root⟩ none path) := by
  obtain ⟨above, start⟩ := inside
  obtain ⟨way, rfl⟩ := below
  have nonempty : way ≠ [] := by
    rintro rfl
    exact strictly (List.append_nil _)
  rw [← start]
  refine ⟨ignoresBy_append start.symm nonempty, ?_⟩
  rintro names root rfl
  obtain rfl : rule.folder ++ above = root := start
  exact ignoresBy_root names above nonempty

/-- A pattern for folders ignores what is in such a folder below the root, although the root itself
has that name. -/
theorem ignoresBy_below_root_named_alike :
    let rule : IgnoreRule := ⟨"build/", ["w"]⟩
    let root := ["w", "build"]
    let path := ["w", "build", "build", "a.go"]
    (rule.folder <+: root ∧ root <+: path ∧ path ≠ root ∧ isForNames rule.pattern = true ∧
        rule.ignores (some root) path = true ∧ rule.ignores (some root) (root ++ ["a.go"]) = false) ∧
      rule.ignores (some root) (path ++ ["b", "c.go"]) = true ∧
      rule.ignores (some root) path = ignores ⟨"build/", root⟩ none path := by
  intro rule root path
  have inside : rule.folder <+: root := by decide
  have below : root <+: path := by decide
  have strictly : path ≠ root := by decide
  have names : isForNames rule.pattern = true := by decide +kernel
  have ignored : rule.ignores (some root) path = true := by decide +kernel
  have law := ignoresBy_below_root Text.globAccepts rule (some root) path inside below strictly
  refine ⟨⟨inside, below, strictly, names, ignored, by decide +kernel⟩, ?_, ?_⟩
  · exact law.1 ignored ["b", "c.go"]
  · exact law.2 names root rfl

end IgnoreRule
end Concord
