import Mathlib
import Concord.Compare.Fixes
import Concord.Proofs.Table

/-!
# Concord.Proofs.Compare.Fixes

The list of things to do is the list of gaps in another order, with headings put in where the
language or the severity changes:

```
## GO (3 issues)
### Critical (High Severity)
- first gap
- second gap
### Minor (Low Severity)
- third gap
## RUST (1 issues)
…
```

* `mergeSort_eq_flatMap` — sorting by a key that has few values collects what has each of them;
* `headed_groups` — headings put in at the changes are headings of groups that are not empty;
* `renderFixes_lists_gaps` — the blocks are the gaps in the order of language and severity, gaps
  that agree in both in the order given; no gap is left out and none is repeated.
-/

namespace Concord.Compare

/-! ## Sorting by a key -/

section Keys

variable {β κ : Type} [LinearOrder κ] (key : β → κ)

/-- Sorting by a key keeps the order of what has the same key. -/
theorem filter_mergeSort (l : List β) (k : κ) :
    (l.mergeSort fun a b => key a ≤ key b).filter (key · = k) = l.filter (key · = k) := by
  have alike : (l.filter (key · = k)).Pairwise fun a b => decide (key a ≤ key b) = true := by
    refine List.pairwise_of_forall_mem_list fun a ha b hb => ?_
    have ha : key a = k := by simpa using (List.mem_filter.1 ha).2
    have hb : key b = k := by simpa using (List.mem_filter.1 hb).2
    simp [ha, hb]
  have kept : (l.filter (key · = k)).Sublist (l.mergeSort fun a b => key a ≤ key b) :=
    List.sublist_mergeSort (fun a b c => by simpa using le_trans)
      (fun a b => by simpa using le_total (key a) (key b)) alike List.filter_sublist
  have within := kept.filter (key · = k)
  rw [List.filter_filter] at within
  simp only [Bool.and_self] at within
  exact (within.eq_of_length ((List.mergeSort_perm l _).filter _).length_eq.symm).symm

theorem mem_iff_of_filter_eq {l m : List β}
    (same : ∀ k, l.filter (key · = k) = m.filter (key · = k)) (b : β) : b ∈ l ↔ b ∈ m := by
  have := congrArg (b ∈ ·) (same (key b))
  simpa using this

/-- Lists in the order of their keys are equal if they have the same under each key. -/
theorem eq_of_filter_eq {l m : List β} (hl : l.Pairwise (key · ≤ key ·))
    (hm : m.Pairwise (key · ≤ key ·))
    (same : ∀ k, l.filter (key · = k) = m.filter (key · = k)) : l = m := by
  induction l generalizing m with
  | nil =>
      refine (List.eq_nil_iff_forall_not_mem.2 fun b hb => ?_).symm
      exact List.not_mem_nil ((mem_iff_of_filter_eq key same b).2 hb)
  | cons a l ih =>
      cases m with
      | nil =>
          have := (mem_iff_of_filter_eq key same a).1 List.mem_cons_self
          contradiction
      | cons b m =>
          rw [List.pairwise_cons] at hl hm
          -- Both lists begin with one of the least elements, and with the same one.
          have up : key a ≤ key b := by
            have := (mem_iff_of_filter_eq key same b).2 List.mem_cons_self
            exact (List.mem_cons.1 this).elim (fun h => h ▸ le_rfl) (hl.1 b)
          have down : key b ≤ key a := by
            have := (mem_iff_of_filter_eq key same a).1 List.mem_cons_self
            exact (List.mem_cons.1 this).elim (fun h => h ▸ le_rfl) (hm.1 a)
          have least : key b = key a := le_antisymm down up
          have heads := same (key a)
          rw [List.filter_cons_of_pos (by simp), List.filter_cons_of_pos (by simpa using least)]
            at heads
          obtain rfl : a = b := (List.cons.inj heads).1
          refine congrArg _ (ih hl.2 hm.2 fun k => ?_)
          have tails := same k
          rw [List.filter_cons, List.filter_cons] at tails
          split at tails
          · exact (List.cons.inj tails).2
          · exact tails

/-- Sorting by a key collects what has the first value, then what has the second, and so on. -/
theorem mergeSort_eq_flatMap {l : List β} {ks : List κ} (increasing : ks.Pairwise (· < ·))
    (covered : ∀ b ∈ l, key b ∈ ks) :
    (l.mergeSort fun a b => key a ≤ key b) = ks.flatMap fun k => l.filter (key · = k) := by
  refine eq_of_filter_eq key ?_ ?_ fun k => ?_
  · have sorted : (l.mergeSort fun a b => key a ≤ key b).Pairwise
        fun a b => decide (key a ≤ key b) = true :=
      List.pairwise_mergeSort (fun a b c => by simpa using le_trans)
        (fun a b => by simpa using le_total (key a) (key b)) l
    exact sorted.imp of_decide_eq_true
  · rw [List.pairwise_flatMap]
    constructor
    · intro k _
      refine List.pairwise_of_forall_mem_list fun a ha b hb => ?_
      have ha : key a = k := by simpa using (List.mem_filter.1 ha).2
      have hb : key b = k := by simpa using (List.mem_filter.1 hb).2
      exact (ha.trans hb.symm).le
    · refine increasing.imp fun {j k} before a ha b hb => ?_
      have ha : key a = j := by simpa using (List.mem_filter.1 ha).2
      have hb : key b = k := by simpa using (List.mem_filter.1 hb).2
      rw [ha, hb]
      exact before.le
  · rw [filter_mergeSort, List.filter_flatMap]
    have apart {j : κ} (h : j ≠ k) : (l.filter (key · = j)).filter (key · = k) = [] := by
      rw [List.filter_filter, List.filter_eq_nil_iff]
      intro b _ both
      simp only [Bool.and_eq_true, decide_eq_true_eq] at both
      exact h (both.2.symm.trans both.1)
    by_cases listed : k ∈ ks
    · rw [flatMap_eq_of_unique (increasing.imp ne_of_lt) listed fun j _ => apart]
      simp
    · have absent : l.filter (key · = k) = [] := by
        rw [List.filter_eq_nil_iff]
        intro b hb found
        exact listed (of_decide_eq_true found ▸ covered b hb)
      rw [absent, eq_comm, List.flatMap_eq_nil_iff]
      exact fun j hj => apart fun same => listed (same ▸ hj)

end Keys

/-! ## Entries -/

/-- The language under which a gap is listed; a gap without a language is listed as well. -/
def languageOf (g : Gap) : String := if g.language = "" then "unknown" else g.language

/-- The severities in the order in which gaps are listed. -/
def gravestFirst : List Severity := [.high, .medium, .low]

/-- An entry of the list of things to do. -/
inductive Entry where
  /-- The heading of a language with the number of its gaps. -/
  | language (name : String) (count : Nat)
  | severity (severity : Severity)
  | block (gap : Gap)

namespace Entry

/-- The lines of an entry: two of a heading, and of a block four and an empty one. -/
def lines : Entry → List String
  | language name count =>
    ["## " ++ String.ofList (Text.upper name.toList) ++ " (" ++ toString count ++ " issues)", ""]
  | severity .high => ["### Critical (High Severity)", ""]
  | severity .medium => ["### Important (Medium Severity)", ""]
  | severity .low => ["### Minor (Low Severity)", ""]
  | block g =>
    ["- **" ++ g.dimension.word ++ "** `" ++ g.source.name ++ "`",
     "  - Source: `" ++ g.source.signature ++ "` at `" ++ g.source.location ++ "`",
     "  - Issue: " ++ g.discrepancy,
     "  - Fix: " ++ g.suggestedFix,
     ""]

/-- The gap of a block. -/
def gap? : Entry → Option Gap
  | block g => some g
  | _ => none

/-- The language and the number in the heading of a language. -/
def language? : Entry → Option (String × Nat)
  | language name count => some (name, count)
  | _ => none

end Entry

/-- The headings above a gap: that of its language and that of its severity, as far as they are not
those of the gap before it. -/
def headings (gaps : List Gap) (before? : Option Gap) (g : Gap) : List Entry :=
  let sameLanguage := before?.any (languageOf · == languageOf g)
  let sameGroup := sameLanguage && before?.any (·.severity == g.severity)
  (if sameLanguage then []
    else [.language (languageOf g) (gaps.countP (languageOf · == languageOf g))]) ++
    (if sameGroup then [] else [.severity g.severity])

/-- The entries for some of the gaps in the order given, with the headings they need behind another
gap. -/
def headed (gaps : List Gap) : Option Gap → List Gap → List Entry
  | _, [] => []
  | before?, g :: rest => headings gaps before? g ++ .block g :: headed gaps (some g) rest

/-- The whole document with these entries. -/
def document (percent sourceLanguage : String) (entries : List Entry) : String :=
  "\n".intercalate
    (["# Parity Fix Instructions", "", "**Overall Parity Score:** " ++ percent,
      "**Reference Language:** " ++ sourceLanguage, ""] ++ entries.flatMap Entry.lines ++
      ["---", "After applying fixes, run parity analysis again to verify improvements."]) ++ "\n"

/-! ## Groups of gaps -/

variable (gaps : List Gap)

/-- The gaps of a language and a severity. -/
def group (language : String) (severity : Severity) : List Gap :=
  gaps.filter fun g => languageOf g == language && g.severity == severity

theorem mem_group {language : String} {severity : Severity} {g : Gap} :
    g ∈ group gaps language severity ↔
      g ∈ gaps ∧ languageOf g = language ∧ g.severity = severity := by
  simp [group]

/-- The entries for the groups of a language. -/
def groupEntries (language : String) (severities : List Severity) : List Entry :=
  severities.flatMap fun s =>
    if (group gaps language s).isEmpty then []
    else .severity s :: (group gaps language s).map .block

/-- The entries for a language. -/
def languageEntries (language : String) : List Entry :=
  .language language (gaps.countP (languageOf · == language)) ::
    groupEntries gaps language gravestFirst

/-- Headings of an appended list are put in by the last gap in front. -/
theorem headed_append (before? : Option Gap) (xs ys : List Gap) :
    headed gaps before? (xs ++ ys) =
      headed gaps before? xs ++ headed gaps (xs.getLast?.or before?) ys := by
  induction xs generalizing before? with
  | nil => rfl
  | cons x xs ih =>
      have last : (x :: xs).getLast?.or before? = xs.getLast?.or (some x) := by
        rw [List.getLast?_cons]
        cases xs.getLast? <;> rfl
      rw [List.cons_append, headed, headed, ih, List.append_assoc, List.cons_append, last]

theorem headings_eq_nil {b g : Gap} (language : languageOf b = languageOf g)
    (severity : b.severity = g.severity) : headings gaps (some b) g = [] := by
  simp [headings, language, severity]

theorem headings_of_severity {b g : Gap} (language : languageOf b = languageOf g)
    (severity : b.severity ≠ g.severity) :
    headings gaps (some b) g = [.severity g.severity] := by
  simp [headings, language, severity]

/-- A gap of another language has the headings of its language and its severity. -/
theorem headings_of_language {before? : Option Gap} {g : Gap}
    (other : ∀ b ∈ before?, languageOf b ≠ languageOf g) :
    headings gaps before? g =
      [.language (languageOf g) (gaps.countP (languageOf · == languageOf g)),
        .severity g.severity] := by
  cases before? with
  | none => rfl
  | some b => simp [headings, other b rfl]

/-- Behind a gap of its language and severity a whole group has no heading. -/
theorem headed_eq_map {b : Gap} {xs : List Gap}
    (alike : ∀ g ∈ xs, languageOf b = languageOf g ∧ b.severity = g.severity) :
    headed gaps (some b) xs = xs.map .block := by
  induction xs generalizing b with
  | nil => rfl
  | cons x xs ih =>
      rw [List.forall_mem_cons] at alike
      obtain ⟨⟨language, severity⟩, others⟩ := alike
      rw [headed, headings_eq_nil gaps language severity, List.map_cons, List.nil_append]
      refine congrArg _ (ih fun g hg => ?_)
      exact ⟨language ▸ (others g hg).1, severity ▸ (others g hg).2⟩

/-- The entries of a group are its blocks, below the headings that its last gap would need. -/
theorem headed_group (before? : Option Gap) {language : String} {severity : Severity}
    (nonempty : group gaps language severity ≠ []) :
    ∃ last ∈ group gaps language severity, ∀ ys,
      headed gaps before? (group gaps language severity ++ ys) =
        headings gaps before? last ++ (group gaps language severity).map .block ++
          headed gaps (some last) ys := by
  have told {g : Gap} (hg : g ∈ group gaps language severity) :
      languageOf g = language ∧ g.severity = severity := ((mem_group gaps).1 hg).2
  generalize group gaps language severity = xs at nonempty told
  obtain ⟨x, xs, rfl⟩ := List.exists_cons_of_ne_nil nonempty
  have first := told List.mem_cons_self
  have final := told (List.getLast_mem nonempty)
  have blocks : headed gaps (some x) xs = xs.map .block := headed_eq_map gaps fun g hg => by
    have := told (List.mem_cons_of_mem x hg)
    rw [first.1, first.2, this.1, this.2]
    exact ⟨rfl, rfl⟩
  have above : headings gaps before? x = headings gaps before? ((x :: xs).getLast nonempty) := by
    simp only [headings, first.1, first.2, final.1, final.2]
  refine ⟨(x :: xs).getLast nonempty, List.getLast_mem nonempty, fun ys => ?_⟩
  rw [headed_append, headed, blocks, above, List.getLast?_eq_getLast_of_ne_nil nonempty]
  rfl

/-- Behind a gap of the same language, every group that is not empty gets its heading. -/
theorem headed_severities {language : String} {b : Gap} (same : languageOf b = language)
    {severities : List Severity} (distinct : severities.Nodup) (fresh : b.severity ∉ severities) :
    headed gaps (some b) (severities.flatMap (group gaps language)) =
      groupEntries gaps language severities := by
  induction severities generalizing b with
  | nil => rfl
  | cons s severities ih =>
      rw [List.nodup_cons] at distinct
      rw [List.mem_cons, not_or] at fresh
      rw [List.flatMap_cons, groupEntries, List.flatMap_cons]
      by_cases empty : group gaps language s = []
      · rw [empty, List.nil_append, ih same distinct.2 fresh.2]
        rfl
      · obtain ⟨last, hlast, eq⟩ := headed_group gaps (some b) empty
        obtain ⟨-, language', severity⟩ := (mem_group gaps).1 hlast
        have heading := headings_of_severity gaps (same.trans language'.symm)
          (severity ▸ fresh.1 : b.severity ≠ last.severity)
        rw [eq, heading, ih language' distinct.2 (severity ▸ distinct.1), severity,
          if_neg (by simpa using empty)]
        rfl

/-- Behind a gap of another language, the language gets its heading first. -/
theorem headed_language {language : String} {before? : Option Gap}
    (other : ∀ b ∈ before?, languageOf b ≠ language) {severities : List Severity}
    (distinct : severities.Nodup) (nonempty : severities.flatMap (group gaps language) ≠ []) :
    headed gaps before? (severities.flatMap (group gaps language)) =
      .language language (gaps.countP (languageOf · == language)) ::
        groupEntries gaps language severities := by
  induction severities with
  | nil => contradiction
  | cons s severities ih =>
      rw [List.nodup_cons] at distinct
      rw [List.flatMap_cons] at nonempty ⊢
      rw [groupEntries, List.flatMap_cons]
      by_cases empty : group gaps language s = []
      · rw [empty, List.nil_append] at nonempty ⊢
        rw [ih distinct.2 nonempty]
        rfl
      · obtain ⟨last, hlast, eq⟩ := headed_group gaps before? empty
        obtain ⟨-, language', severity⟩ := (mem_group gaps).1 hlast
        subst language'
        rw [eq, headings_of_language gaps other,
          headed_severities gaps rfl distinct.2 (severity ▸ distinct.1), severity,
          if_neg (by simpa using empty)]
        rfl

/-- **Headings put in at the changes are headings of the groups that are not empty.** -/
theorem headed_groups {before? : Option Gap} {languages : List String} (distinct : languages.Nodup)
    (fresh : ∀ b ∈ before?, languageOf b ∉ languages)
    (nonempty : ∀ l ∈ languages, gravestFirst.flatMap (group gaps l) ≠ []) :
    headed gaps before? (languages.flatMap fun l => gravestFirst.flatMap (group gaps l)) =
      languages.flatMap (languageEntries gaps) := by
  induction languages generalizing before? with
  | nil => rfl
  | cons l languages ih =>
      rw [List.nodup_cons] at distinct
      rw [List.forall_mem_cons] at nonempty
      have other : ∀ b ∈ before?, languageOf b ≠ l := fun b hb same =>
        fresh b hb (same ▸ List.mem_cons_self)
      have behind : ∀ b ∈ (gravestFirst.flatMap (group gaps l)).getLast?.or before?,
          languageOf b ∉ languages := by
        intro b hb
        rw [List.getLast?_eq_getLast_of_ne_nil nonempty.1, Option.some_or,
          Option.mem_some_iff] at hb
        have hb : b ∈ gravestFirst.flatMap (group gaps l) := hb ▸ List.getLast_mem nonempty.1
        obtain ⟨s, -, hb⟩ := List.mem_flatMap.1 hb
        rw [((mem_group gaps).1 hb).2.1]
        exact distinct.1
      rw [List.flatMap_cons, List.flatMap_cons, headed_append, ih distinct.2 behind nonempty.2,
        headed_language gaps other (by decide) nonempty.1, languageEntries]

/-! ## The order of the gaps -/

/-- No gap stands without a language. -/
theorem languageOf_ne_empty (g : Gap) : languageOf g ≠ "" := by
  rw [languageOf]
  split
  · decide
  · assumption

theorem gapLanguage_eq : gapLanguage = languageOf := by
  funext g
  simp [gapLanguage, languageOf]

/-- The languages of the gaps are those of some gap. -/
theorem mem_gapLanguages {l : String} :
    l ∈ gapLanguages gaps ↔ ∃ g ∈ gaps, languageOf g = l := by
  have seen := FirstSeen.nil.addNames (gaps.map languageOf)
  rw [gapLanguages, gapLanguage_eq, List.mem_mergeSort, seen.mem_iff]
  simp only [List.nil_append, List.mem_filter, List.mem_map]
  constructor
  · exact fun h => h.1
  · rintro ⟨g, hg, rfl⟩
    exact ⟨⟨g, hg, rfl⟩, by simpa using languageOf_ne_empty g⟩

/-- The languages of the gaps increase, so each stands once. -/
theorem gapLanguages_increasing : (gapLanguages gaps).Pairwise (· < ·) := by
  have seen := FirstSeen.nil.addNames (gaps.map languageOf)
  have distinct : (gapLanguages gaps).Nodup := by
    rw [gapLanguages, gapLanguage_eq]
    exact (List.mergeSort_perm _ _).nodup_iff.2 seen.nodup
  have sorted : (gapLanguages gaps).Pairwise fun a b => decide (a ≤ b) = true :=
    List.pairwise_mergeSort (fun a b c => by simpa using String.le_trans)
      (fun a b => by simpa using String.le_total a b) _
  refine sorted.imp₂ ?_ distinct
  intro a b before other
  exact lt_of_le_of_ne (of_decide_eq_true before) other

/-- The place of a gap in the list: its language, then its severity, the gravest first. -/
def place (g : Gap) : String ×ₗ Nat := toLex (languageOf g, gravestFirst.idxOf g.severity)

/-- The place of a gap tells its language and its severity. -/
theorem place_eq_iff {g : Gap} {language : String} {severity : Severity} :
    place g = toLex (language, gravestFirst.idxOf severity) ↔
      languageOf g = language ∧ g.severity = severity := by
  have rank : gravestFirst.idxOf g.severity = gravestFirst.idxOf severity ↔
      g.severity = severity := by
    cases g.severity <;> cases severity <;> decide
  rw [place, toLex_inj, Prod.mk.injEq, rank]

/-- In the order of their places come the groups of each language in turn. -/
theorem mergeSort_place :
    (gaps.mergeSort fun a b => place a ≤ place b) =
      (gapLanguages gaps).flatMap fun l => gravestFirst.flatMap (group gaps l) := by
  have increasing : ((gapLanguages gaps).flatMap fun l =>
      gravestFirst.map fun s => toLex (l, gravestFirst.idxOf s)).Pairwise (· < ·) := by
    rw [List.pairwise_flatMap]
    constructor
    · intro l _
      simp [gravestFirst, Prod.Lex.toLex_lt_toLex]
    · refine (gapLanguages_increasing gaps).imp fun {l m} before x hx y hy => ?_
      obtain ⟨s, -, rfl⟩ := List.mem_map.1 hx
      obtain ⟨t, -, rfl⟩ := List.mem_map.1 hy
      exact Prod.Lex.toLex_lt_toLex.2 (.inl before)
  have covered : ∀ g ∈ gaps, place g ∈ (gapLanguages gaps).flatMap fun l =>
      gravestFirst.map fun s => toLex (l, gravestFirst.idxOf s) := by
    intro g hg
    refine List.mem_flatMap.2 ⟨languageOf g, (mem_gapLanguages gaps).2 ⟨g, hg, rfl⟩, ?_⟩
    exact List.mem_map.2 ⟨g.severity, by cases g.severity <;> decide, rfl⟩
  have alike (l : String) (s : Severity) :
      gaps.filter (place · = toLex (l, gravestFirst.idxOf s)) = group gaps l s := by
    refine List.filter_congr fun g _ => ?_
    rw [Bool.eq_iff_iff, decide_eq_true_iff, place_eq_iff]
    simp
  rw [mergeSort_eq_flatMap place increasing covered, List.flatMap_assoc]
  simp only [List.flatMap_map, alike]

/-! ## The document -/

/-- The gaps of a language, group by group, are all its gaps. -/
theorem length_groups (l : String) :
    (gravestFirst.flatMap (group gaps l)).length = gaps.countP (languageOf · == l) := by
  induction gaps with
  | nil => rfl
  | cons g gaps ih =>
      simp only [gravestFirst, List.flatMap_cons, List.flatMap_nil, List.append_nil,
        List.length_append, group, List.filter_cons, List.countP_cons] at ih ⊢
      cases g.severity <;> by_cases own : languageOf g = l <;> simp [own] <;> omega

/-- The blocks of a language are its gaps, severity by severity. -/
theorem filterMap_gap?_languageEntries (l : String) :
    (languageEntries gaps l).filterMap Entry.gap? = gravestFirst.flatMap (group gaps l) := by
  have blocks (xs : List Gap) : (xs.map Entry.block).filterMap Entry.gap? = xs := by
    rw [List.filterMap_map]
    exact List.filterMap_some
  have one (s : Severity) :
      List.filterMap Entry.gap? (if (group gaps l s).isEmpty then []
        else .severity s :: (group gaps l s).map .block) = group gaps l s := by
    split
    · next empty => rw [List.isEmpty_iff.1 empty, List.filterMap_nil]
    · rw [List.filterMap_cons_none rfl, blocks]
  rw [languageEntries, List.filterMap_cons_none rfl, groupEntries, List.filterMap_flatMap]
  simp only [one]

/-- The one heading of a language counts its gaps. -/
theorem filterMap_language?_languageEntries (l : String) :
    (languageEntries gaps l).filterMap Entry.language? =
      [(l, gaps.countP (languageOf · == l))] := by
  have below : (groupEntries gaps l gravestFirst).filterMap Entry.language? = [] := by
    rw [List.filterMap_eq_nil_iff]
    intro e he
    obtain ⟨s, -, he⟩ := List.mem_flatMap.1 he
    split at he
    · contradiction
    · obtain rfl | he := List.mem_cons.1 he
      · rfl
      · obtain ⟨g, -, rfl⟩ := List.mem_map.1 he
        rfl
  rw [languageEntries, List.filterMap_cons, below]
  rfl

theorem severityHeading_lines (s : Severity) :
    ["### " ++ severityHeading s, ""] = (Entry.severity s).lines := by
  cases s <;> rfl

/-- The entries of a language are written as its lines. -/
theorem lines_languageEntries (l : String) :
    (languageEntries gaps l).flatMap Entry.lines = languageLines gaps l := by
  have selected (s : Severity) :
      (gaps.filter (languageOf · == l)).filter (·.severity == s) = group gaps l s := by
    rw [List.filter_filter, group]
    simp only [Bool.and_comm]
  have one (s : Severity) :
      List.flatMap Entry.lines (if (group gaps l s).isEmpty then []
        else .severity s :: (group gaps l s).map .block) =
        severityLines (gaps.filter (languageOf · == l)) s := by
    rw [severityLines, selected]
    split
    · rfl
    · rw [List.flatMap_cons, List.flatMap_map, severityHeading_lines]
      rfl
  rw [languageEntries, languageLines, gapLanguage_eq, List.flatMap_cons, groupEntries, List.flatMap_assoc,
    List.countP_eq_length_filter]
  simp only [one]
  rfl

/-- **The list of things to do lists every gap once.**  Its blocks are the gaps, sorted stably by
language and severity, and the headings stand where the language or the severity changes: one for
each language, with the number of its blocks, and one for each severity that occurs there. -/
theorem renderFixes_lists_gaps {α : Type} [Scalar α] (agreement : Agreement α)
    (sourceLanguage : String) (nonempty : agreement.gaps ≠ []) :
    let sorted := agreement.gaps.mergeSort fun a b => place a ≤ place b
    let entries := headed agreement.gaps none sorted
    renderFixes agreement sourceLanguage =
        document (Scalar.percent agreement.overall) sourceLanguage entries ∧
      entries.filterMap Entry.gap? = sorted ∧
      ∃ languages : List String, languages.Pairwise (· < ·) ∧
        (∀ l, l ∈ languages ↔ ∃ g ∈ agreement.gaps, languageOf g = l) ∧
        entries = languages.flatMap (languageEntries agreement.gaps) ∧
        ∀ l ∈ languages, (languageEntries agreement.gaps l).filterMap Entry.language? =
          [(l, ((languageEntries agreement.gaps l).filterMap Entry.gap?).length)] := by
  intro sorted entries
  have distinct := (gapLanguages_increasing agreement.gaps).imp ne_of_lt
  have present : ∀ l ∈ gapLanguages agreement.gaps,
      gravestFirst.flatMap (group agreement.gaps l) ≠ [] := by
    intro l hl
    obtain ⟨g, hg, rfl⟩ := (mem_gapLanguages agreement.gaps).1 hl
    rw [← List.length_pos_iff, length_groups, List.countP_pos_iff]
    exact ⟨g, hg, by simp⟩
  have fresh : ∀ b ∈ (none : Option Gap), languageOf b ∉ gapLanguages agreement.gaps := by simp
  have grouped : entries = (gapLanguages agreement.gaps).flatMap
      (languageEntries agreement.gaps) := by
    rw [← headed_groups agreement.gaps distinct fresh present, ← mergeSort_place]
  refine ⟨?_, ?_, gapLanguages agreement.gaps, gapLanguages_increasing _, fun l => ?_, grouped,
    fun l _ => ?_⟩
  · rw [grouped, document, List.flatMap_assoc]
    simp only [lines_languageEntries]
    rw [renderFixes, if_neg (by simpa using nonempty)]
  · rw [grouped, List.filterMap_flatMap]
    simp only [filterMap_gap?_languageEntries]
    exact (mergeSort_place agreement.gaps).symm
  · exact mem_gapLanguages agreement.gaps
  · rw [filterMap_language?_languageEntries, filterMap_gap?_languageEntries, length_groups]

/-- Gaps of three languages, one of them without a name, and of two severities. -/
theorem renderFixes_lists_gaps_of_three_languages :
    let gap (name : String) (severity : Severity) (language : String) : Gap :=
      { dimension := .behavioral, severity, kind := .missing, source := ⟨.function, name, "", "", ""⟩,
        language }
    let gaps := [gap "Save" .low "rust", gap "Load" .high "rust", gap "Find" .high "",
      gap "Keep" .high "rust", gap "Send" .high "python"]
    let agreement : Agreement Rat :=
      { overall := 1 / 2, byDimension := ⟨0, 0, 0, 0, 0⟩, gaps, threshold := 1 }
    agreement.gaps ≠ [] ∧
      renderFixes agreement "go" =
        document (Scalar.percent agreement.overall) "go"
          [.language "python" 1, .severity .high, .block (gap "Send" .high "python"),
            .language "rust" 3, .severity .high, .block (gap "Load" .high "rust"),
            .block (gap "Keep" .high "rust"), .severity .low, .block (gap "Save" .low "rust"),
            .language "unknown" 1, .severity .high, .block (gap "Find" .high "")] := by
  intro gap gaps agreement
  have nonempty : agreement.gaps ≠ [] := List.cons_ne_nil _ _
  refine ⟨nonempty, ?_⟩
  rw [(renderFixes_lists_gaps agreement "go" nonempty).1]
  refine congrArg _ ?_
  cbv

end Concord.Compare
