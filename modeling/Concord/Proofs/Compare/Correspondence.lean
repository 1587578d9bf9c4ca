import Mathlib.Data.List.Perm.Subperm
import Concord.Proofs.Compare.Match

/-!
# Concord.Proofs.Compare.Correspondence

What a match says about the fields of two types.  Each field of the counterpart is held against the
last reference field of its name, and a reference field without a counterpart is told by the number
of fields alone.

* `typeDifferences_eq_nil_iff_correspond` — if no two fields of the counterpart share a name, types
  match exactly if they have one kind and their fields correspond one to one;
* `match_isCorrespondence` — what a match says for any names, and that it pairs off differently
  named fields exactly if no two fields of the counterpart share a name.

Otherwise two fields of one name make up in number for a field that is missing
(`twin_hides_missing_field`).
-/

namespace Concord.Compare

/-- The names of fields, in order. -/
def fieldNames (fields : List NeutralField) : List String := fields.map (·.name)

/-- Whether a field of the counterpart can stand for a field of the reference. -/
structure FieldsMatch (r f : NeutralField) : Prop where
  name : r.name = f.name
  type : compatible r.type.base f.type.base = true

/-- Whether fields correspond one to one: those of the counterpart can be put in an order in which
they match those of the reference position by position. -/
def FieldsCorrespond (reference counterpart : List NeutralField) : Prop :=
  ∃ paired, List.Forall₂ FieldsMatch reference paired ∧ paired.Perm counterpart

/-! ## Names -/

/-- Fields that correspond have the same names, each as many times. -/
theorem FieldsCorrespond.names_perm {fs gs : List NeutralField} (h : FieldsCorrespond fs gs) :
    (fieldNames fs).Perm (fieldNames gs) := by
  obtain ⟨paired, pairs, perm⟩ := h
  have positions : List.Forall₂ (· = ·) (fieldNames fs) (fieldNames paired) := by
    simpa [fieldNames] using pairs.imp fun _ _ h => h.name
  rw [List.forall₂_eq_eq_eq] at positions
  exact positions ▸ perm.map _

/-- Fields with the names of other fields can be put in their order. -/
theorem exists_perm_of_names_perm {fs gs : List NeutralField}
    (h : (fieldNames fs).Perm (fieldNames gs)) :
    ∃ paired, List.Forall₂ (fun r f => r.name = f.name) fs paired ∧ paired.Perm gs := by
  have own : List.Forall₂ (fun name f => name = f.name) (fieldNames gs) gs := by
    simp [fieldNames, List.forall₂_same]
  obtain ⟨paired, names, perm⟩ := List.perm_comp_forall₂ h own
  exact ⟨paired, by simpa [fieldNames] using names, perm⟩

theorem IsLastField.mem {fields : List NeutralField} {r : NeutralField} (h : IsLastField fields r) :
    r ∈ fields := by
  obtain ⟨before, behind, rfl, -⟩ := h
  simp

/-- Among differently named fields each is the last of its name. -/
theorem isLastField_of_nodup {fields : List NeutralField} (distinct : (fieldNames fields).Nodup)
    {r : NeutralField} (hr : r ∈ fields) : IsLastField fields r := by
  obtain ⟨last, isLast, name⟩ := exists_isLastField hr
  obtain rfl := List.inj_on_of_nodup_map distinct isLast.mem hr name
  exact isLast

/-! ## Matches -/

variable {isStrict : Bool} {a b : NeutralType}

/-- The names of the counterpart's fields are names of reference fields. -/
theorem TypesMatch.names_subset (h : TypesMatch isStrict a b) :
    fieldNames b.fields ⊆ fieldNames a.fields := by
  intro name hname
  obtain ⟨f, hf, rfl⟩ := List.mem_map.1 hname
  obtain ⟨r, isLast, same, -⟩ := h.fields f hf
  exact List.mem_map.2 ⟨r, isLast.mem, same⟩

/-- As many different names, all of them names of the reference, are all names of the reference. -/
theorem TypesMatch.names_perm (h : TypesMatch isStrict a b)
    (distinct : (fieldNames b.fields).Nodup) :
    (fieldNames a.fields).Perm (fieldNames b.fields) := by
  have count : (fieldNames a.fields).length ≤ (fieldNames b.fields).length := by
    simp [fieldNames, h.fieldCount]
  exact ((List.subperm_of_subset distinct h.names_subset).perm_of_length_le count).symm

/-- Types that match pair off their fields if those of the counterpart are differently named. -/
theorem TypesMatch.correspond (h : TypesMatch isStrict a b)
    (distinct : (fieldNames b.fields).Nodup) : FieldsCorrespond a.fields b.fields := by
  have unique := h.names_perm distinct |>.nodup_iff.2 distinct
  obtain ⟨paired, pairs, perm⟩ := exists_perm_of_names_perm (h.names_perm distinct)
  refine ⟨paired, ?_, perm⟩
  rw [List.forall₂_iff_zip] at pairs ⊢
  refine ⟨pairs.1, fun {r f} here => ⟨pairs.2 here, ?_⟩⟩
  obtain ⟨r', isLast, name, type⟩ := h.fields f (perm.subset (List.of_mem_zip here).2)
  obtain rfl := List.inj_on_of_nodup_map unique isLast.mem (List.of_mem_zip here).1
    (name.trans (pairs.2 here).symm)
  exact type

/-- Differently named fields that are paired off answer one another. -/
theorem FieldsCorrespond.fields (h : FieldsCorrespond a.fields b.fields)
    (distinct : (fieldNames b.fields).Nodup) :
    ∀ f ∈ b.fields, ∃ r, IsLastField a.fields r ∧ r.name = f.name ∧
      compatible r.type.base f.type.base = true := by
  have unique := h.names_perm.nodup_iff.2 distinct
  obtain ⟨paired, pairs, perm⟩ := h
  intro f hf
  obtain ⟨i, hi, rfl⟩ := List.getElem_of_mem (perm.mem_iff.2 hf)
  have inside : i < a.fields.length := by rwa [pairs.length_eq]
  have here := pairs.get inside hi
  exact ⟨a.fields[i], isLastField_of_nodup unique (List.getElem_mem _), here.name, here.type⟩

/-- **If no two fields of the counterpart share a name, types match exactly if their fields
correspond one to one**, besides their name, their kind and, in strict mode, the number of their
methods. -/
theorem typeDifferences_eq_nil_iff_correspond (distinct : (fieldNames b.fields).Nodup) :
    typeDifferences isStrict a b = [] ↔
      a.name = b.name ∧ a.kind = b.kind ∧ FieldsCorrespond a.fields b.fields ∧
        (isStrict = true → a.methods.length = b.methods.length) := by
  rw [typeDifferences_eq_nil_iff]
  constructor
  · intro h
    exact ⟨h.name, h.kind, h.correspond distinct, h.methodCount⟩
  · rintro ⟨name, kind, fields, methodCount⟩
    have count : a.fields.length = b.fields.length := by
      simpa [fieldNames] using fields.names_perm.length_eq
    exact ⟨name, kind, count, fields.fields distinct, methodCount⟩

/-- **Types that match have one kind and as many fields, and each field of the counterpart is
compatible with the last reference field of its name.  The match pairs off differently named fields
exactly if no two fields of the counterpart share a name.** -/
theorem match_isCorrespondence (h : typeDifferences isStrict a b = []) :
    a.kind = b.kind ∧ a.fields.length = b.fields.length ∧
      (∀ f ∈ b.fields, ∃ r, IsLastField a.fields r ∧ r.name = f.name ∧
        compatible r.type.base f.type.base = true) ∧
      ((fieldNames b.fields).Nodup ↔
        (fieldNames a.fields).Nodup ∧ FieldsCorrespond a.fields b.fields) := by
  have types := (typeDifferences_eq_nil_iff isStrict a b).1 h
  refine ⟨types.kind, types.fieldCount, types.fields, ?_⟩
  constructor
  · intro distinct
    exact ⟨(types.names_perm distinct).nodup_iff.2 distinct, types.correspond distinct⟩
  · rintro ⟨distinct, pairs⟩
    exact pairs.names_perm.nodup_iff.1 distinct

/-! ## Differently named fields, and twins -/

/-- A reference type with two fields. -/
def account : TypeDecl where
  name := "Account"
  kind := .struct
  fields := [{ name := "ID", type := "int64" }, { name := "Email", type := "*string" }]
  methods := ["Close"]

/-- The type in other spellings, its fields in another order. -/
def reorderedAccount : TypeDecl where
  name := "Account"
  kind := .classType
  fields := [{ name := "email", type := "string | null" }, { name := "id", type := "number" }]
  methods := ["close"]

/-- The type without one field, the other one declared in two spellings. -/
def twinAccount : TypeDecl where
  name := "Account"
  kind := .classType
  fields := [{ name := "id", type := "number" }, { name := "ID", type := "number" }]
  methods := ["close"]

/-- The fields of a type in other spellings and in another order are paired off. -/
theorem match_isCorrespondence_reordered :
    typeDifferences true account.neutral reorderedAccount.neutral = [] ∧
      FieldsCorrespond account.neutral.fields reorderedAccount.neutral.fields := by
  have same : typeDifferences true account.neutral reorderedAccount.neutral = [] := by
    decide +kernel
  exact ⟨same, ((match_isCorrespondence same).2.2.2.1 (by decide +kernel)).2⟩

/-- A field that is missing goes unnoticed behind two fields that share a name. -/
theorem twin_hides_missing_field :
    typeDifferences true account.neutral twinAccount.neutral = [] ∧
      "email" ∈ fieldNames account.neutral.fields ∧
      "email" ∉ fieldNames twinAccount.neutral.fields ∧
      ¬ FieldsCorrespond account.neutral.fields twinAccount.neutral.fields := by
  have missing : "email" ∈ fieldNames account.neutral.fields ∧
      "email" ∉ fieldNames twinAccount.neutral.fields := by
    decide +kernel
  refine ⟨by decide +kernel, missing.1, missing.2, fun pairs => missing.2 ?_⟩
  exact pairs.names_perm.subset missing.1

end Concord.Compare
