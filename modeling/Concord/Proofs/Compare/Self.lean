import Concord.Compare.Agreement
import Concord.Proofs.Compare.Match
import Concord.Proofs.Number.Rounding

/-!
# Concord.Proofs.Compare.Self

A project compared with itself.  Nothing is missing, and the structure agrees in full.  Whether
functions and types agree is a matter of names: an item is held against the *first* of its name, and
may differ from it if another item of that name stands in front.

* `filterMap_findAmong_self` — nothing is reported exactly if every item matches the first of its
  name;
* `compare_self` — so there is no gap exactly if all functions and all types do, and then all scores
  are one.
-/

namespace Concord.Compare

/-! ## The first of a name -/

section First

variable {ι : Type} {name : ι → String} {items : List ι}

/-- Whether an item is the first of its name. -/
def IsFirst (name : ι → String) (items : List ι) (c : ι) : Prop :=
  ∃ before behind, items = before ++ c :: behind ∧ ∀ d ∈ before, name d ≠ name c

/-- Whether every item matches the first of its name. -/
def FirstsMatch (name : ι → String) (Matches : ι → ι → Prop) (items : List ι) : Prop :=
  ∀ i ∈ items, ∀ c, IsFirst name items c → name c = name i → Matches i c

/-- The item that is found by a name is the first one of this name. -/
theorem find?_eq_some_iff_isFirst (n : String) (c : ι) :
    items.find? (name · == n) = some c ↔ IsFirst name items c ∧ name c = n := by
  rw [List.find?_eq_some_iff_append]
  constructor
  · rintro ⟨hname, before, behind, hsplit, hbefore⟩
    obtain rfl : name c = n := by simpa using hname
    exact ⟨⟨before, behind, hsplit, fun d hd => by simpa using hbefore d hd⟩, rfl⟩
  · rintro ⟨⟨before, behind, hsplit, hbefore⟩, rfl⟩
    exact ⟨beq_self_eq_true _, before, behind, hsplit, fun d hd => by simpa using hbefore d hd⟩

/-- Where names differ, it is enough that every item matches itself. -/
theorem FirstsMatch.of_nodup {Matches : ι → ι → Prop} (distinct : (items.map name).Nodup)
    (refl : ∀ i ∈ items, Matches i i) : FirstsMatch name Matches items := by
  rintro i hi c ⟨before, behind, hsplit, -⟩ hname
  have hc : c ∈ items := by rw [hsplit]; simp
  obtain rfl := List.inj_on_of_nodup_map distinct hc hi hname
  exact refl c hi

end First

/-! ## Findings -/

section Findings

variable {ι δ ρ : Type} (name : ι → String) (differences : ι → ι → List δ) {items : List ι}

/-- An item is held against the first of its name, which is there. -/
theorem findAmong_self {i : ι} (h : i ∈ items) :
    ∃ c, items.find? (name · == name i) = some c ∧
      ((findAmong name differences items i = .matching ∧ differences i c = []) ∨
        ∃ ds, findAmong name differences items i = .differing c ds ∧ differences i c ≠ []) := by
  cases found : items.find? (name · == name i) with
  | none => simpa using List.find?_eq_none.1 found i h
  | some c =>
      refine ⟨c, rfl, ?_⟩
      rw [findAmong, found]
      cases hds : differences i c with
      | nil => exact Or.inl ⟨by simp only [hds], rfl⟩
      | cons d ds => exact Or.inr ⟨d :: ds, by simp only [hds], List.cons_ne_nil d ds⟩

/-- No item is missing among the items themselves. -/
theorem missing_self :
    ((items.map fun i => (i, findAmong name differences items i)).filterMap
      fun (i, finding) => missingName? (name i) finding) = [] := by
  rw [List.filterMap_eq_nil_iff]
  rintro ⟨i, finding⟩ hmem
  obtain ⟨j, hj, heq⟩ := List.mem_map.1 hmem
  obtain ⟨rfl, rfl⟩ := Prod.mk.inj heq
  obtain ⟨c, -, ⟨hfinding, -⟩ | ⟨ds, hfinding, -⟩⟩ := findAmong_self name differences hj
  all_goals rw [hfinding]; rfl

/-- **What is reported of differing items alone is nothing exactly if every item matches the first
of its name.** -/
theorem filterMap_findAmong_self (report : ι → Finding ι δ → Option ρ)
    (matching : ∀ i, report i .matching = none)
    (differing : ∀ i c ds, (report i (.differing c ds)).isSome = true) :
    ((items.map fun i => (i, findAmong name differences items i)).filterMap
        fun (i, finding) => report i finding) = [] ↔
      FirstsMatch name (fun i c => differences i c = []) items := by
  rw [List.filterMap_eq_nil_iff]
  constructor
  · intro silent i hi c hc hname
    have hreport := silent _ (List.mem_map.2 ⟨i, hi, rfl⟩)
    obtain ⟨d, hd, ⟨-, hnil⟩ | ⟨ds, hfinding, -⟩⟩ := findAmong_self name differences hi
    · rw [(find?_eq_some_iff_isFirst (name i) c).2 ⟨hc, hname⟩] at hd
      obtain rfl := Option.some.inj hd
      exact hnil
    · have hsome := differing i d ds
      simp only [hfinding] at hreport
      simp [hreport] at hsome
  · rintro firsts ⟨i, finding⟩ hmem
    obtain ⟨j, hj, heq⟩ := List.mem_map.1 hmem
    obtain ⟨rfl, rfl⟩ := Prod.mk.inj heq
    obtain ⟨c, hc, ⟨hfinding, -⟩ | ⟨ds, -, hne⟩⟩ := findAmong_self name differences hj
    · simp only [hfinding, matching]
    · obtain ⟨hfirst, hname⟩ := (find?_eq_some_iff_isFirst (name j) c).1 hc
      exact absurd (firsts j hj c hfirst hname) hne

end Findings

/-! ## Scores -/

/-- Equal counts are wholly similar. -/
theorem countSimilarity_self (n : Nat) : (countSimilarity n n : Float) = Scalar.one := by
  unfold countSimilarity
  by_cases hn : n = 0
  · subst hn; rfl
  · rw [if_neg (by simp [hn]), if_neg (by simp [hn]), Number.quotient_self (by omega)]
    exact if_neg (by decide)

/-- Where nothing is missing and nothing differs the score is one. -/
theorem matchScore_all (total : Nat) : (matchScore total (total - 0) 0 : Float) = Scalar.one := by
  unfold matchScore
  by_cases htotal : total = 0
  · rw [if_pos htotal]
  · have hpos : 0 < total := by omega
    rw [if_neg htotal, Nat.sub_zero, Number.quotient_self hpos, Nat.cast_zero,
      Number.quotient_zero hpos]
    rfl

/-! ## Projects -/

/-- The functions of a project that count, in the form in which they are compared: the exported
ones, and the private ones unless these are ignored. -/
def countedFunctions {α : Type} (settings : ComparisonSettings α) (a : Outline) :
    List NeutralFunction :=
  (a.functions.filter fun f => f.isExported || !settings.ignoresPrivate).map (·.neutral)

/-- The types of a project that count, in the form in which they are compared. -/
def countedTypes {α : Type} (settings : ComparisonSettings α) (a : Outline) : List NeutralType :=
  (a.types.filter fun t => t.isExported || !settings.ignoresPrivate).map (·.neutral)

theorem neutralFunctions_eq_counted {α : Type} (settings : ComparisonSettings α) (a : Outline) :
    neutralFunctions settings.ignoresPrivate a.functions = countedFunctions settings a := rfl

theorem neutralTypes_eq_counted {α : Type} (settings : ComparisonSettings α) (a : Outline) :
    neutralTypes settings.ignoresPrivate a.types = countedTypes settings a := rfl

/-- Whether every function of a project that counts matches the first of its name. -/
def FunctionsAgree {α : Type} (settings : ComparisonSettings α) (a : Outline) : Prop :=
  FirstsMatch (·.name) (FunctionsMatch settings.isStrict) (countedFunctions settings a)

/-- Whether every type of a project that counts matches the first of its name. -/
def TypesAgree {α : Type} (settings : ComparisonSettings α) (a : Outline) : Prop :=
  FirstsMatch (·.name) (TypesMatch settings.isStrict) (countedTypes settings a)

/-- What is said of a project that is compared with itself: as a whole, and of its only
implementation. -/
structure SelfComparison (settings : ComparisonSettings Float) (a : Outline)
    (agreement : Agreement Float) (own : LanguageAgreement Float) : Prop where
  missingTypes : own.missingTypes = []
  missingFunctions : own.missingFunctions = []
  typeMismatches : own.typeMismatches = [] ↔ TypesAgree settings a
  functionMismatches : own.functionMismatches = [] ↔ FunctionsAgree settings a
  gaps : agreement.gaps = [] ↔ FunctionsAgree settings a ∧ TypesAgree settings a
  structural : own.byDimension.structural = Scalar.one ∧
    agreement.byDimension.structural = Scalar.one
  type : TypesAgree settings a →
    own.byDimension.type = Scalar.one ∧ agreement.byDimension.type = Scalar.one
  behavioral : FunctionsAgree settings a →
    own.byDimension.behavioral = Scalar.one ∧ agreement.byDimension.behavioral = Scalar.one

theorem typeMismatches_self (isStrict : Bool) (ts : List NeutralType) :
    ((ts.map fun t => (t, findType isStrict ts t)).filterMap
        fun (t, finding) => typeMismatch? t finding) = [] ↔
      FirstsMatch (·.name) (TypesMatch isStrict) ts := by
  refine (filterMap_findAmong_self _ _ typeMismatch? (fun _ => rfl) fun _ _ _ => rfl).trans ?_
  simp only [typeDifferences_eq_nil_iff]

theorem functionMismatches_self (isStrict : Bool) (fs : List NeutralFunction) :
    ((fs.map fun f => (f, findFunction isStrict fs f)).filterMap
        fun (f, finding) => functionMismatch? f finding) = [] ↔
      FirstsMatch (·.name) (FunctionsMatch isStrict) fs := by
  refine (filterMap_findAmong_self _ _ functionMismatch? (fun _ => rfl) fun _ _ _ => rfl).trans ?_
  simp only [functionDifferences_eq_nil_iff]

/-- There is no gap exactly if all functions and types match the first of their names. -/
theorem gaps_self (isStrict : Bool) (source language : String) (fs : List NeutralFunction)
    (ts : List NeutralType) :
    ((fs.map fun f => (f, findFunction isStrict fs f)).filterMap
          fun (f, finding) => functionGap? source language f finding) ++
        ((ts.map fun t => (t, findType isStrict ts t)).filterMap
          fun (t, finding) => typeGap? source language t finding) = [] ↔
      FirstsMatch (·.name) (FunctionsMatch isStrict) fs ∧
        FirstsMatch (·.name) (TypesMatch isStrict) ts := by
  rw [List.append_eq_nil_iff]
  refine and_congr ?_ ?_
  · refine (filterMap_findAmong_self _ _ (functionGap? source language) (fun _ => rfl)
      fun _ _ _ => rfl).trans ?_
    simp only [functionDifferences_eq_nil_iff]
  · refine (filterMap_findAmong_self _ _ (typeGap? source language) (fun _ => rfl)
      fun _ _ _ => rfl).trans ?_
    simp only [typeDifferences_eq_nil_iff]

/-- Over one implementation the mean of full scores is full. -/
theorem mean_full {scores : ByDimension Float} (score : ByDimension Float → Float)
    (hmean : score (ByDimension.mean [scores]) = Scalar.mean [score scores])
    (h : score scores = Scalar.one) : score (ByDimension.mean [scores]) = Scalar.one := by
  rw [hmean, h]
  rfl

/-- A language compared with itself has full scores and no gap exactly where its first items
match. -/
theorem compareLanguage_self (settings : ComparisonSettings Float) (a : Outline)
    (language : String) :
    SelfComparison settings a (compare settings .full a [(language, a)])
      (compareLanguage settings .full a language a).1 := by
  set own := (compareLanguage settings .full a language a).1 with hown
  have missingTypes : own.missingTypes = [] := missing_self _ _
  have missingFunctions : own.missingFunctions = [] := missing_self _ _
  have typeMismatches := typeMismatches_self settings.isStrict
    (neutralTypes settings.ignoresPrivate a.types)
  have functionMismatches := functionMismatches_self settings.isStrict
    (neutralFunctions settings.ignoresPrivate a.functions)
  rw [neutralTypes_eq_counted] at typeMismatches
  rw [neutralFunctions_eq_counted] at functionMismatches
  have structural : own.byDimension.structural = Scalar.one := by
    change (countSimilarity _ _ + countSimilarity _ _ : Float) / Scalar.ofNat 2 = _
    rw [countSimilarity_self, countSimilarity_self]
    rfl
  have type (agree : TypesAgree settings a) : own.byDimension.type = Scalar.one := by
    change matchScore _ (_ - own.missingTypes.length) own.typeMismatches.length = _
    rw [missingTypes, show own.typeMismatches = [] from typeMismatches.2 agree]
    exact matchScore_all _
  have behavioral (agree : FunctionsAgree settings a) :
      own.byDimension.behavioral = Scalar.one := by
    change matchScore _ (_ - own.missingFunctions.length) own.functionMismatches.length = _
    rw [missingFunctions, show own.functionMismatches = [] from functionMismatches.2 agree]
    exact matchScore_all _
  have alone : (compare settings .full a [(language, a)]).byDimension =
      ByDimension.mean [own.byDimension] := by
    simp [compare, sortTargets, hown]
  have gaps : (compare settings .full a [(language, a)]).gaps =
      (compareLanguage settings .full a language a).2 := by
    simp [compare, sortTargets]
  refine ⟨missingTypes, missingFunctions, typeMismatches, functionMismatches, ?_, ?_, ?_, ?_⟩
  · rw [gaps]
    exact gaps_self settings.isStrict _ language (countedFunctions settings a)
      (countedTypes settings a)
  · exact ⟨structural, alone ▸ mean_full (·.structural) rfl structural⟩
  · exact fun agree => ⟨type agree, alone ▸ mean_full (·.type) rfl (type agree)⟩
  · exact fun agree => ⟨behavioral agree, alone ▸ mean_full (·.behavioral) rfl (behavioral agree)⟩

/-- **A project compared with itself agrees in full, but for names that occur twice.** -/
theorem compare_self (settings : ComparisonSettings Float) (a : Outline) (language : String) :
    (∃ own, (compare settings .full a [(language, a)]).byLanguage = [(language, own)] ∧
      SelfComparison settings a (compare settings .full a [(language, a)]) own) ∧
    (((countedFunctions settings a).map (·.name)).Nodup → FunctionsAgree settings a) ∧
    (((countedTypes settings a).map (·.name)).Nodup →
      (∀ t ∈ countedTypes settings a, (t.fields.map (·.name)).Nodup) →
      TypesAgree settings a) := by
  refine ⟨⟨_, ?_, compareLanguage_self settings a language⟩, ?_, ?_⟩
  · simp [compare, sortTargets]
  · intro distinct
    exact FirstsMatch.of_nodup distinct fun f _ => FunctionsMatch.refl settings.isStrict f
  · intro distinct fields
    exact FirstsMatch.of_nodup distinct fun t ht => TypesMatch.refl settings.isStrict (fields t ht)

/-- A method and a type that are alone with their names leave no gap. -/
theorem compare_self_of_distinct_names :
    let a : Outline :=
      { language := .go
        types := [{ name := "Order", kind := .struct, fields := [{ name := "Total" }] }]
        functions := [{ name := "Run", receiver? := some "Order" }] }
    (compare Settings.usualComparison .full a [("go", a)]).gaps = [] := by
  intro a
  obtain ⟨⟨own, -, self⟩, functions, types⟩ := compare_self Settings.usualComparison a "go"
  exact self.gaps.2 ⟨functions (by decide +kernel), types (by decide +kernel) (by decide +kernel)⟩

/-- Two methods of one name, of which the second alone has a parameter. -/
def twoMethods : Outline :=
  { language := .go
    functions :=
      [{ name := "Run", receiver? := some "A" },
       { name := "Run", receiver? := some "B", parameters := [{ name := "x" }] }] }

/-- The second method differs from the first, against which it is held. -/
theorem twoMethods_differ_from_themselves :
    (compare Settings.usualComparison .full twoMethods [("go", twoMethods)]).gaps ≠ [] := by
  decide +kernel

end Concord.Compare
