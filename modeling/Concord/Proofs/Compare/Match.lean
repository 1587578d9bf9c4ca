import Mathlib.Data.List.Forall2
import Mathlib.Data.List.Nodup
import Concord.Compare.Match

/-!
# Concord.Proofs.Compare.Match

When two declarations match, said without lists of differences:

* `functionDifferences_eq_nil_iff` — functions match position by position;
* `typeDifferences_eq_nil_iff` — types match field by field, where the last field of a name counts.

Every function matches itself (`FunctionsMatch.refl`).  A type matches itself exactly if each of its
fields is compatible with the last one of its name (`typesMatch_self_iff`).
-/

namespace Concord.Compare

/-- A difference that stands under a condition is left out exactly if the condition fails. -/
theorem ite_singleton_eq_nil {δ : Type} {c : Prop} [Decidable c] {d : δ} :
    (if c then [d] else []) = [] ↔ ¬ c := by
  by_cases h : c <;> simp [h]

theorem compatible_refl (a : String) : compatible a a = true := by
  simp [compatible]

/-! ## Functions -/

/-- Whether a parameter matches the one in its position. -/
structure ParametersMatch (isStrict : Bool) (p q : NeutralParameter) : Prop where
  type : compatible p.type.base q.type.base = true
  pointer : isStrict = true → p.type.isPointer = q.type.isPointer

/-- Whether a function matches its counterpart. -/
structure FunctionsMatch (isStrict : Bool) (a b : NeutralFunction) : Prop where
  name : a.name = b.name
  parameters : List.Forall₂ (ParametersMatch isStrict) a.parameters b.parameters
  returns : List.Forall₂ (fun x y => compatible x y = true) a.returns b.returns
  async : isStrict = true → a.isAsync = b.isAsync

/-- Two parameters differ in nothing exactly if they match. -/
theorem parameterDifferences_eq_nil_iff (isStrict : Bool) (p q : NeutralParameter) :
    parameterDifferences isStrict p q = [] ↔ ParametersMatch isStrict p q := by
  have type : (if compatible p.type.base q.type.base then []
      else [FunctionDifference.parameterType p.name]) = [] ↔
      compatible p.type.base q.type.base = true := by
    by_cases h : compatible p.type.base q.type.base = true <;> simp [h]
  rw [parameterDifferences, List.append_eq_nil_iff, type, ite_singleton_eq_nil]
  constructor
  · rintro ⟨same, pointer⟩
    exact ⟨same, fun strict => by simpa [strict] using pointer⟩
  · rintro ⟨same, pointer⟩
    exact ⟨same, by cases isStrict <;> simp_all⟩

/-- Two rows of returned values differ in nothing exactly if they are compatible in order. -/
theorem returnDifferences_eq_nil_iff (a b : List String) :
    returnDifferences a b = [] ↔ List.Forall₂ (fun x y => compatible x y = true) a b := by
  rw [returnDifferences, List.forall₂_iff_zip]
  by_cases h : a.length = b.length
  · rw [if_neg (not_not.2 h), List.filterMap_eq_nil_iff]
    constructor
    · intro none_differs
      refine ⟨h, fun {x y} hxy => ?_⟩
      by_contra hne
      simpa [hne] using none_differs (x, y) hxy
    · rintro ⟨_, all_match⟩ ⟨x, y⟩ hxy
      exact if_pos (all_match hxy)
  · rw [if_pos h]
    exact iff_of_false (List.cons_ne_nil _ _) fun hall => h hall.1

/-- **Two functions have no differences exactly if they match.** -/
theorem functionDifferences_eq_nil_iff (isStrict : Bool) (a b : NeutralFunction) :
    functionDifferences isStrict a b = [] ↔ FunctionsMatch isStrict a b := by
  rw [functionDifferences]
  by_cases name : a.name = b.name
  · rw [if_neg (not_not.2 name), List.append_eq_nil_iff, List.append_eq_nil_iff,
      List.append_eq_nil_iff, ite_singleton_eq_nil, ite_singleton_eq_nil,
      returnDifferences_eq_nil_iff, List.flatMap_eq_nil_iff]
    constructor
    · rintro ⟨⟨⟨length, zipped⟩, returns⟩, async⟩
      refine ⟨name, List.forall₂_iff_zip.2 ⟨not_not.1 length, fun {p q} hpq => ?_⟩, returns,
        fun strict => by simpa [strict] using async⟩
      exact (parameterDifferences_eq_nil_iff isStrict p q).1 (zipped (p, q) hpq)
    · rintro ⟨-, parameters, returns, async⟩
      obtain ⟨length, zipped⟩ := List.forall₂_iff_zip.1 parameters
      refine ⟨⟨⟨not_not.2 length, ?_⟩, returns⟩, by cases isStrict <;> simp_all⟩
      rintro ⟨p, q⟩ hpq
      exact (parameterDifferences_eq_nil_iff isStrict p q).2 (zipped hpq)
  · rw [if_pos name]
    exact iff_of_false (List.cons_ne_nil _ _) fun hmatch => name hmatch.name

/-- A function matches itself. -/
theorem FunctionsMatch.refl (isStrict : Bool) (a : NeutralFunction) :
    FunctionsMatch isStrict a a where
  name := rfl
  parameters := List.forall₂_same.2 fun _ _ => ⟨compatible_refl _, fun _ => rfl⟩
  returns := List.forall₂_same.2 fun _ _ => compatible_refl _
  async _ := rfl

/-! ## Types -/

/-- Whether a field is the last of its name. -/
def IsLastField (fields : List NeutralField) (r : NeutralField) : Prop :=
  ∃ before behind, fields = before ++ r :: behind ∧ ∀ g ∈ behind, g.name ≠ r.name

/-- Whether a type matches its counterpart. -/
structure TypesMatch (isStrict : Bool) (a b : NeutralType) : Prop where
  name : a.name = b.name
  kind : a.kind = b.kind
  fieldCount : a.fields.length = b.fields.length
  fields : ∀ f ∈ b.fields, ∃ r, IsLastField a.fields r ∧ r.name = f.name ∧
    compatible r.type.base f.type.base = true
  methodCount : isStrict = true → a.methods.length = b.methods.length

/-- The field that is found from the back is the last one of its name. -/
theorem find?_reverse_eq_some_iff (fields : List NeutralField) (name : String) (r : NeutralField) :
    fields.reverse.find? (·.name == name) = some r ↔ IsLastField fields r ∧ r.name = name := by
  rw [List.find?_eq_some_iff_append]
  constructor
  · rintro ⟨hname, front, tail, hsplit, hfront⟩
    obtain rfl : r.name = name := by simpa using hname
    refine ⟨⟨tail.reverse, front.reverse, ?_, fun g hg => ?_⟩, rfl⟩
    · rw [← List.reverse_reverse fields, hsplit, List.reverse_append, List.reverse_cons,
        List.append_assoc, List.singleton_append]
    · simpa using hfront g (List.mem_reverse.1 hg)
  · rintro ⟨⟨before, behind, rfl, hbehind⟩, rfl⟩
    refine ⟨beq_self_eq_true _, behind.reverse, before.reverse, ?_, fun g hg => ?_⟩
    · rw [List.reverse_append, List.reverse_cons, List.append_assoc, List.singleton_append]
    · simpa using hbehind g (List.mem_reverse.1 hg)

/-- A field differs in nothing exactly if the last one of its name has a compatible base. -/
theorem fieldDifference?_eq_none_iff (reference : List NeutralField) (f : NeutralField) :
    fieldDifference? reference f = none ↔ ∃ r, IsLastField reference r ∧ r.name = f.name ∧
      compatible r.type.base f.type.base = true := by
  rw [fieldDifference?]
  cases found : reference.reverse.find? (·.name == f.name) with
  | none =>
      refine iff_of_false (Option.some_ne_none _) ?_
      rintro ⟨r, hlast, hname, -⟩
      rw [(find?_reverse_eq_some_iff reference f.name r).2 ⟨hlast, hname⟩] at found
      contradiction
  | some s =>
      have hs := (find?_reverse_eq_some_iff reference f.name s).1 found
      constructor
      · intro h
        refine ⟨s, hs.1, hs.2, ?_⟩
        by_contra hne
        simp [hne] at h
      · rintro ⟨r, hlast, hname, hcompatible⟩
        obtain rfl : s = r := Option.some.inj <|
          found.symm.trans ((find?_reverse_eq_some_iff reference f.name r).2 ⟨hlast, hname⟩)
        exact if_pos hcompatible

/-- **Two types have no differences exactly if they match.** -/
theorem typeDifferences_eq_nil_iff (isStrict : Bool) (a b : NeutralType) :
    typeDifferences isStrict a b = [] ↔ TypesMatch isStrict a b := by
  rw [typeDifferences]
  by_cases name : a.name = b.name
  · rw [if_neg (not_not.2 name), List.append_eq_nil_iff, List.append_eq_nil_iff,
      List.append_eq_nil_iff, ite_singleton_eq_nil, ite_singleton_eq_nil, ite_singleton_eq_nil,
      List.filterMap_eq_nil_iff]
    simp only [fieldDifference?_eq_none_iff]
    constructor
    · rintro ⟨⟨⟨kind, fieldCount⟩, fields⟩, methodCount⟩
      exact ⟨name, not_not.1 kind, not_not.1 fieldCount, fields,
        fun strict => by simpa [strict] using methodCount⟩
    · rintro ⟨-, kind, fieldCount, fields, methodCount⟩
      exact ⟨⟨⟨not_not.2 kind, not_not.2 fieldCount⟩, fields⟩, by cases isStrict <;> simp_all⟩
  · rw [if_pos name]
    exact iff_of_false (List.cons_ne_nil _ _) fun hmatch => name hmatch.name

/-- A field that is there has a last one of its name. -/
theorem exists_isLastField {fields : List NeutralField} {f : NeutralField} (h : f ∈ fields) :
    ∃ r, IsLastField fields r ∧ r.name = f.name := by
  cases found : fields.reverse.find? (·.name == f.name) with
  | none => simpa using List.find?_eq_none.1 found f (List.mem_reverse.2 h)
  | some r => exact ⟨r, (find?_reverse_eq_some_iff fields f.name r).1 found⟩

/-- **A type matches itself exactly if each of its fields is compatible with the last one of its
name.** -/
theorem typesMatch_self_iff (isStrict : Bool) (a : NeutralType) :
    TypesMatch isStrict a a ↔ ∀ f ∈ a.fields, ∀ r, IsLastField a.fields r → r.name = f.name →
      compatible r.type.base f.type.base = true := by
  constructor
  · intro hmatch f hf r hr hname
    obtain ⟨s, hs, hsname, hcompatible⟩ := hmatch.fields f hf
    have hfound := (find?_reverse_eq_some_iff a.fields f.name s).2 ⟨hs, hsname⟩
    rw [(find?_reverse_eq_some_iff a.fields f.name r).2 ⟨hr, hname⟩] at hfound
    obtain rfl := Option.some.inj hfound
    exact hcompatible
  · intro h
    refine ⟨rfl, rfl, rfl, fun f hf => ?_, fun _ => rfl⟩
    obtain ⟨r, hr, hname⟩ := exists_isLastField hf
    exact ⟨r, hr, hname, h f hf r hr hname⟩

/-- A type whose fields have different names matches itself. -/
theorem TypesMatch.refl (isStrict : Bool) {a : NeutralType} (h : (a.fields.map (·.name)).Nodup) :
    TypesMatch isStrict a a := by
  rw [typesMatch_self_iff]
  rintro f hf r ⟨before, behind, hsplit, -⟩ hname
  have hr : r ∈ a.fields := by rw [hsplit]; simp
  obtain rfl := List.inj_on_of_nodup_map h hr hf hname
  exact compatible_refl _

end Concord.Compare
