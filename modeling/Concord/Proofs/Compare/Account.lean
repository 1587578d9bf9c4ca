import Concord.Compare.Agreement
import Concord.Proofs.Compare.Self

/-!
# Concord.Proofs.Compare.Account

Every item of the reference is accounted for.  It stands to another implementation in exactly one of
three ways (`existsUnique_standsAs`): it matches the first item of its name there, no item of its
name is there, or it differs from the first one.  What a comparison reports is told by going through
the reference once (`Ledger.Account`):

1. an item that matches is passed over;
2. a missing item adds its name to the missing ones, and one gap;
3. a differing item adds an entry to the differing ones, and one gap.

So items of one name count each by itself, and nothing is reported that does not come from an item
of the reference.  `compare_accounts` states this of a whole comparison, where the gaps of the
implementations follow one another in the order of their languages, those of functions first.
-/

namespace Concord.Compare

/-! ## Standings -/

section Standings

variable {ι : Type} (name : ι → String) (Matches : ι → ι → Prop) (others : List ι)

/-- Whether `c` is the item of another implementation against which `i` is held: the first of its
name. -/
def IsCounterpart (i c : ι) : Prop := IsFirst name others c ∧ name c = name i

/-- Whether no item of another implementation has the name of `i`. -/
def IsMissing (i : ι) : Prop := ∀ c ∈ others, name c ≠ name i

/-- The ways in which an item can stand to another implementation. -/
inductive Standing where
  | matching
  | missing
  | differing
deriving DecidableEq, Repr

/-- Whether an item stands to another implementation in this way. -/
def StandsAs (i : ι) : Standing → Prop
  | .matching => ∃ c, IsCounterpart name others i c ∧ Matches i c
  | .missing => IsMissing name others i
  | .differing => ∃ c, IsCounterpart name others i c ∧ ¬ Matches i c

variable {name Matches others}

theorem find?_eq_some_iff_isCounterpart (i c : ι) :
    others.find? (name · == name i) = some c ↔ IsCounterpart name others i c :=
  find?_eq_some_iff_isFirst (name i) c

theorem find?_eq_none_iff_isMissing (i : ι) :
    others.find? (name · == name i) = none ↔ IsMissing name others i := by
  simp [IsMissing]

theorem IsCounterpart.unique {i c d : ι} (hc : IsCounterpart name others i c)
    (hd : IsCounterpart name others i d) : c = d :=
  Option.some.inj <| ((find?_eq_some_iff_isCounterpart i c).2 hc).symm.trans
    ((find?_eq_some_iff_isCounterpart i d).2 hd)

/-- An item with a counterpart is not missing. -/
theorem IsCounterpart.not_isMissing {i c : ι} (hc : IsCounterpart name others i c) :
    ¬ IsMissing name others i := by
  intro missing
  have found := (find?_eq_some_iff_isCounterpart i c).2 hc
  rw [(find?_eq_none_iff_isMissing i).2 missing] at found
  contradiction

/-- **Every item stands to another implementation in exactly one way.** -/
theorem existsUnique_standsAs (i : ι) : ∃! s, StandsAs name Matches others i s := by
  cases found : others.find? (name · == name i) with
  | none =>
      have missing := (find?_eq_none_iff_isMissing i).1 found
      refine ⟨.missing, missing, fun s hs => ?_⟩
      cases s with
      | missing => rfl
      | matching | differing =>
          obtain ⟨d, hd, -⟩ := hs
          exact absurd missing hd.not_isMissing
  | some c =>
      have hc := (find?_eq_some_iff_isCounterpart i c).1 found
      by_cases same : Matches i c
      · refine ⟨.matching, ⟨c, hc, same⟩, fun s hs => ?_⟩
        cases s with
        | matching => rfl
        | missing => exact absurd hs hc.not_isMissing
        | differing =>
            obtain ⟨d, hd, differs⟩ := hs
            exact absurd (hc.unique hd ▸ same) differs
      · refine ⟨.differing, ⟨c, hc, same⟩, fun s hs => ?_⟩
        cases s with
        | matching =>
            obtain ⟨d, hd, matching⟩ := hs
            exact absurd (hc.unique hd ▸ matching) same
        | missing => exact absurd hs hc.not_isMissing
        | differing => rfl

end Standings

/-! ## Ledgers -/

/-- What is to be reported of items of one kind. -/
structure Ledger (ι ρ : Type) where
  name : ι → String
  Matches : ι → ι → Prop
  /-- Whether this is the entry for an item that differs from its counterpart. -/
  IsEntry : ι → ι → ρ → Prop
  /-- Whether this is the gap that a missing item leaves. -/
  IsMissingGap : ι → Gap → Prop
  /-- Whether this is the gap that goes with an entry. -/
  IsMismatchGap : ι → ι → ρ → Gap → Prop

namespace Ledger

variable {ι δ ρ : Type} (ledger : Ledger ι ρ)

/-- Whether some missing names, entries and gaps are the report on the items of a reference, each
item by itself and one after the other. -/
inductive Account (others : List ι) : List ι → List String → List ρ → List Gap → Prop where
  | nil : Account others [] [] [] []
  | matching {i c is names entries gaps} : IsCounterpart ledger.name others i c →
      ledger.Matches i c → Account others is names entries gaps →
      Account others (i :: is) names entries gaps
  | missing {i gap is names entries gaps} : IsMissing ledger.name others i →
      ledger.IsMissingGap i gap → Account others is names entries gaps →
      Account others (i :: is) (ledger.name i :: names) entries (gap :: gaps)
  | differing {i c entry gap is names entries gaps} : IsCounterpart ledger.name others i c →
      ¬ ledger.Matches i c → ledger.IsEntry i c entry → ledger.IsMismatchGap i c entry gap →
      Account others is names entries gaps →
      Account others (i :: is) names (entry :: entries) (gap :: gaps)

/-- Whether entries and gaps are made of findings as the ledger wants them. -/
structure IsKeptBy (differences : ι → ι → List δ) (record? : ι → Finding ι δ → Option ρ)
    (gap? : ι → Finding ι δ → Option Gap) : Prop where
  nil_iff : ∀ i c, differences i c = [] ↔ ledger.Matches i c
  matching : ∀ i, record? i .matching = none ∧ gap? i .matching = none
  missing : ∀ i, record? i .missing = none ∧
    ∃ gap, gap? i .missing = some gap ∧ ledger.IsMissingGap i gap
  differing : ∀ i c ds, ds ≠ [] → ∃ entry gap, record? i (.differing c ds) = some entry ∧
    gap? i (.differing c ds) = some gap ∧ ledger.IsEntry i c entry ∧
    ledger.IsMismatchGap i c entry gap

variable {ledger} {differences : ι → ι → List δ} {record? : ι → Finding ι δ → Option ρ}
  {gap? : ι → Finding ι δ → Option Gap}

/-- What is read off the findings is the report on the reference. -/
theorem IsKeptBy.account (kept : ledger.IsKeptBy differences record? gap?) (others items : List ι) :
    let found := items.map fun i => (i, findAmong ledger.name differences others i)
    ledger.Account others items (found.filterMap fun (i, f) => missingName? (ledger.name i) f)
      (found.filterMap fun (i, f) => record? i f) (found.filterMap fun (i, f) => gap? i f) := by
  induction items with
  | nil => exact .nil
  | cons i items ih =>
      simp only [List.map_cons, List.filterMap_cons]
      cases found : others.find? (ledger.name · == ledger.name i) with
      | none =>
          obtain ⟨noEntry, gap, hgap, isGap⟩ := kept.missing i
          simp only [findAmong, found, missingName?, noEntry, hgap]
          exact .missing ((find?_eq_none_iff_isMissing i).1 found) isGap ih
      | some c =>
          have hc := (find?_eq_some_iff_isCounterpart i c).1 found
          cases hds : differences i c with
          | nil =>
              simp only [findAmong, found, hds, missingName?, kept.matching i]
              exact .matching hc ((kept.nil_iff i c).1 hds) ih
          | cons d ds =>
              obtain ⟨entry, gap, hentry, hgap, isEntry, isGap⟩ :=
                kept.differing i c (d :: ds) (List.cons_ne_nil d ds)
              have differs : ¬ ledger.Matches i c := fun same => by
                rw [(kept.nil_iff i c).2 same] at hds
                contradiction
              simp only [findAmong, found, hds, missingName?, hentry, hgap]
              exact .differing hc differs isEntry isGap ih

/-- Every gap in a report is that of a missing item, or goes with an entry. -/
theorem Account.of_mem_gaps {others items : List ι} {names : List String} {entries : List ρ}
    {gaps : List Gap} (h : ledger.Account others items names entries gaps) :
    ∀ gap ∈ gaps, (∃ i, ledger.IsMissingGap i gap) ∨
      ∃ i c entry, ledger.IsMismatchGap i c entry gap := by
  induction h with
  | nil => exact fun gap hgap => absurd hgap List.not_mem_nil
  | matching _ _ _ ih => exact ih
  | missing _ isGap _ ih => exact List.forall_mem_cons.2 ⟨Or.inl ⟨_, isGap⟩, ih⟩
  | differing _ _ _ isGap _ ih => exact List.forall_mem_cons.2 ⟨Or.inr ⟨_, _, _, isGap⟩, ih⟩

/-- No item is both missing and differing. -/
theorem Account.counts {others items : List ι} {names : List String} {entries : List ρ}
    {gaps : List Gap} (h : ledger.Account others items names entries gaps) :
    names.length + entries.length ≤ items.length := by
  induction h with
  | nil => exact le_refl _
  | matching _ _ _ ih => rw [List.length_cons]; omega
  | missing _ _ _ ih => rw [List.length_cons, List.length_cons]; omega
  | differing _ _ _ _ _ ih => rw [List.length_cons, List.length_cons]; omega

/-- There is one gap for each missing name and each entry. -/
theorem Account.length_gaps {others items : List ι} {names : List String} {entries : List ρ}
    {gaps : List Gap} (h : ledger.Account others items names entries gaps) :
    gaps.length = names.length + entries.length := by
  induction h with
  | nil => rfl
  | matching _ _ _ ih => exact ih
  | missing _ _ _ ih => simp only [List.length_cons]; omega
  | differing _ _ _ _ _ ih => simp only [List.length_cons]; omega

/-- There are as many missing names as items exactly if all items are missing. -/
theorem Account.length_names_eq_iff {others items : List ι} {names : List String}
    {entries : List ρ} {gaps : List Gap}
    (h : ledger.Account others items names entries gaps) :
    names.length = items.length ↔ ∀ i ∈ items, IsMissing ledger.name others i := by
  induction h with
  | nil => simp
  | matching counterpart _ rest _ | differing counterpart _ _ _ rest _ =>
    have fewer := rest.counts
    have present := counterpart.not_isMissing
    simp only [List.length_cons, List.forall_mem_cons, present, false_and, iff_false]
    omega
  | missing isMissing _ _ ih => simp [isMissing, ih]

end Ledger

/-! ## Functions and types -/

/-- Whether this is the gap that a missing item of the reference leaves in an implementation. -/
structure IsMissingGap (dimension : Dimension) (language : String) (source : Item) (gap : Gap) :
    Prop where
  kind : gap.kind = .missing
  severity : gap.severity = .high
  counterpart : gap.counterpart? = none
  source : gap.source = source
  dimension : gap.dimension = dimension
  language : gap.language = language

/-- Whether this is the gap between an item of the reference and the one that differs from it in an
implementation. -/
structure IsMismatchGap (dimension : Dimension) (language : String) (source counterpart : Item)
    (differences : List String) (gap : Gap) : Prop where
  kind : gap.kind = .mismatch
  counterpart : gap.counterpart? = some counterpart
  source : gap.source = source
  discrepancy : gap.discrepancy = "; ".intercalate differences
  dimension : gap.dimension = dimension
  language : gap.language = language

/-- What is to be reported of functions. -/
def functionLedger (isStrict : Bool) (sourceLanguage language : String) :
    Ledger NeutralFunction FunctionMismatch where
  name := (·.name)
  Matches := FunctionsMatch isStrict
  IsEntry f c entry := entry.name = f.name ∧ entry.source = f.describe ∧
    entry.counterpart = c.describe ∧ entry.differences ≠ []
  IsMissingGap f := IsMissingGap .behavioral language (functionItem sourceLanguage f)
  IsMismatchGap f c entry := IsMismatchGap .behavioral language (functionItem sourceLanguage f)
    { functionItem language c with signature := c.describe } entry.differences

/-- What is to be reported of types. -/
def typeLedger (isStrict : Bool) (sourceLanguage language : String) :
    Ledger NeutralType TypeMismatch where
  name := (·.name)
  Matches := TypesMatch isStrict
  IsEntry t c entry := entry.name = t.name ∧ entry.source = summary t ∧
    entry.counterpart = summary c ∧ entry.differences ≠ []
  IsMissingGap t := IsMissingGap .type language (typeItem sourceLanguage t)
  IsMismatchGap t c entry := IsMismatchGap .type language (typeItem sourceLanguage t)
    (typeItem language c) entry.differences

/-- The ledger of functions is kept by their differences. -/
theorem functionLedger_isKeptBy (isStrict : Bool) (sourceLanguage language : String) :
    (functionLedger isStrict sourceLanguage language).IsKeptBy (functionDifferences isStrict)
      functionMismatch? (functionGap? sourceLanguage language) where
  nil_iff := functionDifferences_eq_nil_iff isStrict
  matching _ := ⟨rfl, rfl⟩
  missing _ := ⟨rfl, _, rfl, rfl, rfl, rfl, rfl, rfl, rfl⟩
  differing _ _ _ some_differ :=
    ⟨_, _, rfl, rfl, ⟨rfl, rfl, rfl, by simpa using some_differ⟩, rfl, rfl, rfl, rfl, rfl, rfl⟩

/-- The ledger of types is kept by their differences. -/
theorem typeLedger_isKeptBy (isStrict : Bool) (sourceLanguage language : String) :
    (typeLedger isStrict sourceLanguage language).IsKeptBy (typeDifferences isStrict)
      typeMismatch? (typeGap? sourceLanguage language) where
  nil_iff := typeDifferences_eq_nil_iff isStrict
  matching _ := ⟨rfl, rfl⟩
  missing _ := ⟨rfl, _, rfl, rfl, rfl, rfl, rfl, rfl, rfl⟩
  differing _ _ _ some_differ :=
    ⟨_, _, rfl, rfl, ⟨rfl, rfl, rfl, by simpa using some_differ⟩, rfl, rfl, rfl, rfl, rfl, rfl⟩

/-! ## Comparisons -/

variable {α : Type}

/-- What a comparison says of one implementation. -/
structure Share (α : Type) where
  language : String
  target : Outline
  own : LanguageAgreement α
  functionGaps : List Gap
  typeGaps : List Gap

/-- Whether everything that is said of one implementation is the report on the functions and on the
types of the reference that count. -/
structure Share.IsAccounted (settings : ComparisonSettings α) (reference : Outline)
    (share : Share α) : Prop where
  functions : (functionLedger settings.isStrict reference.language.tag share.language).Account
    (countedFunctions settings share.target) (countedFunctions settings reference)
    share.own.missingFunctions share.own.functionMismatches share.functionGaps
  types : (typeLedger settings.isStrict reference.language.tag share.language).Account
    (countedTypes settings share.target) (countedTypes settings reference)
    share.own.missingTypes share.own.typeMismatches share.typeGaps
  functionStanding : ∀ f ∈ countedFunctions settings reference, ∃! standing,
    StandsAs (·.name) (FunctionsMatch settings.isStrict) (countedFunctions settings share.target) f
      standing
  typeStanding : ∀ t ∈ countedTypes settings reference, ∃! standing,
    StandsAs (·.name) (TypesMatch settings.isStrict) (countedTypes settings share.target) t standing

theorem perm_sortTargets {β : Type} (targets : List (String × β)) :
    (sortTargets targets).Perm targets := List.mergeSort_perm targets _

/-- Sorted targets stand by increasing language. -/
theorem pairwise_sortTargets {β : Type} (targets : List (String × β)) :
    (sortTargets targets).Pairwise fun a b => a.1 ≤ b.1 := by
  have sorted : (sortTargets targets).Pairwise fun a b => decide (a.1 ≤ b.1) :=
    List.pairwise_mergeSort (fun a b c => by simpa using String.le_trans)
      (fun a b => by simpa using String.le_total a.1 b.1) targets
  exact sorted.imp fun h => of_decide_eq_true h

variable [Scalar α] (settings : ComparisonSettings α) (scorers : Scorers α) (reference : Outline)

/-- The scores of a language are those of its share. -/
theorem byDimension_compareLanguage (language : String) (target : Outline) :
    let own := (compareLanguage settings scorers reference language target).1
    let functions := neutralFunctions settings.ignoresPrivate reference.functions
    let types := neutralTypes settings.ignoresPrivate reference.types
    let otherFunctions := neutralFunctions settings.ignoresPrivate target.functions
    let otherTypes := neutralTypes settings.ignoresPrivate target.types
    own.byDimension =
      { structural :=
          (countSimilarity functions.length otherFunctions.length +
            countSimilarity types.length otherTypes.length) / Scalar.ofNat 2
        type :=
          matchScore types.length (types.length - own.missingTypes.length)
            own.typeMismatches.length
        behavioral :=
          matchScore functions.length (functions.length - own.missingFunctions.length)
            own.functionMismatches.length
        test := scorers.test reference target
        idiomatic := scorers.idiomatic reference target } := rfl

theorem overall_compareLanguage (language : String) (target : Outline) :
    let own := (compareLanguage settings scorers reference language target).1
    own.overall = own.byDimension.weighted settings.weights := rfl

theorem byLanguage_compare (targets : List (String × Outline)) :
    (compare settings scorers reference targets).byLanguage =
      (sortTargets targets).map fun t =>
        (t.1, (compareLanguage settings scorers reference t.1 t.2).1) := by
  simp only [compare, List.map_map, Function.comp_def]

theorem gaps_compare (targets : List (String × Outline)) :
    (compare settings scorers reference targets).gaps =
      (sortTargets targets).flatMap fun t =>
        (compareLanguage settings scorers reference t.1 t.2).2 := by
  simp only [compare, List.flatMap_map]

theorem byDimension_compare (targets : List (String × Outline)) :
    (compare settings scorers reference targets).byDimension =
      ByDimension.mean ((sortTargets targets).map fun t =>
        (compareLanguage settings scorers reference t.1 t.2).1.byDimension) := by
  simp only [compare, List.map_map, Function.comp_def]

theorem overall_compare (targets : List (String × Outline)) :
    (compare settings scorers reference targets).overall =
      if (sortTargets targets).isEmpty then Scalar.zero
      else Scalar.mean ((sortTargets targets).map fun t =>
        (compareLanguage settings scorers reference t.1 t.2).1.overall) := by
  simp only [compare, List.map_map, List.isEmpty_map, Function.comp_def]

/-- The share of one implementation in a comparison. -/
def shareOf (language : String) (target : Outline) : Share α :=
  let functions := neutralFunctions settings.ignoresPrivate target.functions
  let types := neutralTypes settings.ignoresPrivate target.types
  let onFunctions := (neutralFunctions settings.ignoresPrivate reference.functions).map fun f =>
    (f, findFunction settings.isStrict functions f)
  let onTypes := (neutralTypes settings.ignoresPrivate reference.types).map fun t =>
    (t, findType settings.isStrict types t)
  { language, target
    own := (compareLanguage settings scorers reference language target).1
    functionGaps := onFunctions.filterMap fun (f, finding) =>
      functionGap? reference.language.tag language f finding
    typeGaps := onTypes.filterMap fun (t, finding) =>
      typeGap? reference.language.tag language t finding }

theorem gaps_shareOf (language : String) (target : Outline) :
    (compareLanguage settings scorers reference language target).2 =
      (shareOf settings scorers reference language target).functionGaps ++
        (shareOf settings scorers reference language target).typeGaps := rfl

/-- **The share of a language accounts for every kept item of the reference.** -/
theorem shareOf_isAccounted (language : String) (target : Outline) :
    (shareOf settings scorers reference language target).IsAccounted settings reference where
  functions := by
    rw [← neutralFunctions_eq_counted, ← neutralFunctions_eq_counted]
    exact (functionLedger_isKeptBy settings.isStrict reference.language.tag language).account _ _
  types := by
    rw [← neutralTypes_eq_counted, ← neutralTypes_eq_counted]
    exact (typeLedger_isKeptBy settings.isStrict reference.language.tag language).account _ _
  functionStanding _ _ := existsUnique_standsAs _
  typeStanding _ _ := existsUnique_standsAs _

/-- **A comparison accounts for every item of the reference, implementation by implementation.** -/
theorem compare_accounts (targets : List (String × Outline)) :
    ∃ shares : List (Share α),
      (shares.map fun s => (s.language, s.target)).Perm targets ∧
      (shares.map (·.language)).Pairwise (· ≤ ·) ∧
      (compare settings scorers reference targets).byLanguage =
        shares.map (fun s => (s.language, s.own)) ∧
      (compare settings scorers reference targets).gaps =
        shares.flatMap (fun s => s.functionGaps ++ s.typeGaps) ∧
      ∀ s ∈ shares, s.IsAccounted settings reference := by
  refine ⟨(sortTargets targets).map fun t => shareOf settings scorers reference t.1 t.2,
    ?_, ?_, ?_, ?_, ?_⟩
  · simpa [shareOf, Function.comp_def] using perm_sortTargets targets
  · simpa [shareOf, List.pairwise_map] using pairwise_sortTargets targets
  · simp [compare, shareOf]
  · simp [compare, List.flatMap_map, gaps_shareOf]
  · intro s hs
    obtain ⟨t, -, rfl⟩ := List.mem_map.1 hs
    exact shareOf_isAccounted settings scorers reference t.1 t.2

/-- A project with functions and types, of which one each is private. -/
def shop : Outline :=
  { language := .go
    types := [{ name := "Order", kind := .struct, fields := [{ name := "Total", type := "int" }] },
      { name := "User", kind := .struct, fields := [{ name := "Name", type := "string" }] },
      { name := "Basket", kind := .interface, methods := ["Add"] },
      { name := "cache", kind := .struct, isExported := false }]
    functions := [{ name := "Open" }, { name := "Close", parameters := [{ name := "now" }] },
      { name := "Move" },
      { name := "Open", receiver? := some "Basket", parameters := [{ name := "item" }] },
      { name := "reset", isExported := false }] }

/-- Another project, which has some of this. -/
def shopInRust : Outline :=
  { language := .rust
    types := [{ name := "User", kind := .struct },
      { name := "Order", kind := .struct, fields := [{ name := "total", type := "i64" }] }]
    functions := [{ name := "open" }, { name := "close" },
      { name := "open", parameters := [{ name := "item" }] }] }

/-- Items match, are missing and differ among functions as among types: the second function of a
name differs from the first of that name, and the private items do not count. -/
theorem compare_accounts_shop : ∃ share : Share Float,
    share.IsAccounted Settings.usualComparison shop ∧
    (compare Settings.usualComparison .full shop [("rust", shopInRust)]).byLanguage =
      [("rust", share.own)] ∧
    (compare Settings.usualComparison .full shop [("rust", shopInRust)]).gaps =
      share.functionGaps ++ share.typeGaps ∧
    share.own.missingFunctions = ["move"] ∧
    share.own.functionMismatches.map (·.name) = ["close", "open"] ∧
    share.own.missingTypes = ["basket"] ∧
    share.own.typeMismatches.map (·.name) = ["user"] ∧
    (share.functionGaps ++ share.typeGaps).map (fun gap => (gap.kind, gap.source.name)) =
      [(.mismatch, "Close"), (.missing, "Move"), (.mismatch, "Open"), (.mismatch, "User"),
        (.missing, "Basket")] := by
  obtain ⟨shares, perm, -, byLanguage, gaps, accounted⟩ :=
    compare_accounts Settings.usualComparison .full shop [("rust", shopInRust)]
  have alone := List.map_eq_singleton_iff.1 perm.eq_singleton
  obtain ⟨share, rfl, named⟩ := alone
  obtain ⟨language, target⟩ := Prod.mk.inj named
  rw [List.map_singleton, language] at byLanguage
  rw [List.flatMap_singleton] at gaps
  have reported : (compare Settings.usualComparison .full shop
      [("rust", shopInRust)]).byLanguage.map (fun entry => (entry.2.missingFunctions,
        entry.2.functionMismatches.map (·.name), entry.2.missingTypes,
        entry.2.typeMismatches.map (·.name))) =
      [(["move"], ["close", "open"], ["basket"], ["user"])] := by decide +kernel
  rw [byLanguage, List.map_singleton, List.singleton_inj] at reported
  obtain ⟨missingFunctions, differingFunctions, missingTypes, differingTypes⟩ :
    _ ∧ _ ∧ _ ∧ _ := by simpa only [Prod.mk.injEq] using reported
  refine ⟨share, accounted share (List.mem_singleton_self share), byLanguage, gaps,
    missingFunctions, differingFunctions, missingTypes, differingTypes, ?_⟩
  rw [← gaps]
  decide +kernel

end Concord.Compare
