import Mathlib.Tactic.SplitIfs
import Concord.Proofs.Outline.First
import Concord.Proofs.Reader.Declared
import Concord.Proofs.Syntax.Tree

/-!
# Concord.Proofs.Reader.Kinds

The kind of a type tells what the type can hold: only an enumeration has variants, and a type names
another one exactly if it is an alias.

* `isWellKinded_of_mem_read` — every reader makes such types;
* `isWellKinded_of_mem_mergedTypes` — merging keeps them so: a type is changed only where constants
  make an alias an enumeration, which gives it variants and takes the type it stood for;
* `isWellKinded_of_mem_merge` — so the outline of any files, in any languages, holds such types only.
-/

namespace Concord

/-- Whether a type has variants and names another type only as its kind allows. -/
structure TypeDecl.IsWellKinded (t : TypeDecl) : Prop where
  variants : t.variants ≠ [] → t.kind = .enum
  aliasOf : t.aliasOf?.isSome = true ↔ t.kind = .synonym

namespace TypeDecl.IsWellKinded

variable {t : TypeDecl}

theorem of_enum (kind : t.kind = .enum) (aliasOf : t.aliasOf? = none) : t.IsWellKinded where
  variants _ := kind
  aliasOf := by simp [kind, aliasOf]

theorem of_synonym (kind : t.kind = .synonym) (variants : t.variants = [])
    (aliasOf : t.aliasOf?.isSome = true) : t.IsWellKinded where
  variants := by simp [variants]
  aliasOf := iff_of_true aliasOf kind

theorem of_plain (kind : t.kind ≠ .synonym) (variants : t.variants = [])
    (aliasOf : t.aliasOf? = none) : t.IsWellKinded where
  variants := by simp [variants]
  aliasOf := by simp [kind, aliasOf]

end TypeDecl.IsWellKinded

open TypeDecl.IsWellKinded

/-! ## Readers -/

namespace Reader

/-- The types of Go are well kinded. -/
theorem Go.IsType.isWellKinded {s : Source} {t : TypeDecl} (h : Go.IsType s t) :
    t.IsWellKinded := by
  obtain ⟨anchor, spec, rfl⟩ := h
  rw [Go.readType]
  split
  · exact of_plain nofun rfl rfl
  · exact of_plain nofun rfl rfl
  · exact of_synonym rfl rfl rfl

/-- The types of Rust are well kinded. -/
theorem Rust.IsType.isWellKinded {s : Source} {t : TypeDecl} (h : Rust.IsType s t) :
    t.IsWellKinded := by
  cases h with
  | struct | interface => exact of_plain nofun rfl rfl
  | enum => exact of_enum rfl rfl
  | synonym => exact of_synonym rfl rfl rfl

/-- The types of TypeScript are well kinded. -/
theorem TypeScript.IsType.isWellKinded {s : Source} {t : TypeDecl} (h : TypeScript.IsType s t) :
    t.IsWellKinded := by
  cases h with
  | classType | interface => exact of_plain nofun rfl rfl
  | enum => exact of_enum rfl rfl
  | synonym =>
    rw [TypeScript.readAlias]
    split
    · exact of_plain nofun rfl rfl
    · split
      · exact of_enum rfl rfl
      · exact of_synonym rfl rfl rfl

/-- No node declares an alias in Java. -/
theorem Java.typeKind?_ne_synonym (n : Node) : Java.typeKind? n ≠ some .synonym := by
  rw [Java.typeKind?]
  split <;> nofun

/-- The types of Java are well kinded. -/
theorem Java.IsType.isWellKinded {s : Source} {t : TypeDecl} (h : Java.IsType s t) :
    t.IsWellKinded := by
  obtain ⟨inInterface, kind, site, isKind, rfl⟩ := h
  by_cases isEnum : kind = .enum
  · exact of_enum isEnum rfl
  · refine of_plain ?_ (if_neg isEnum) rfl
    rintro rfl
    exact Java.typeKind?_ne_synonym site.node isKind

/-- No node declares an alias in C#. -/
theorem CSharp.typeKind?_ne_synonym (n : Node) : CSharp.typeKind? n ≠ some .synonym := by
  rw [CSharp.typeKind?]
  split <;> nofun

/-- The types of C# are well kinded. -/
theorem CSharp.IsType.isWellKinded {s : Source} {t : TypeDecl} (h : CSharp.IsType s t) :
    t.IsWellKinded := by
  obtain ⟨inInterface, kind, site, isKind, rfl⟩ := h
  by_cases isEnum : kind = .enum
  · exact of_enum isEnum rfl
  · refine of_plain ?_ (if_neg isEnum) rfl
    rintro rfl
    exact CSharp.typeKind?_ne_synonym site.node isKind

namespace Python

/-- No class is an alias. -/
theorem kindOf_ne_synonym (t : Term) : kindOf t ≠ .synonym := by
  rw [kindOf]
  split_ifs <;> nofun

/-- Only the body of an enumeration declares variants. -/
theorem variants_foldl (s : Source) (owner : String) {kind : TypeKind} (notEnum : kind ≠ .enum)
    (ts : List Term) (m : Members) :
    (ts.foldl (Members.add s owner kind) m).variants = m.variants := by
  induction ts generalizing m with
  | nil => rfl
  | cons t ts ih =>
    rw [List.foldl_cons, ih, Members.add, if_neg notEnum]
    split_ifs <;> rfl

/-- The types of Python are well kinded. -/
theorem IsType.isWellKinded {s : Source} {t : TypeDecl} (h : IsType s t) : t.IsWellKinded := by
  cases h with
  | classType statement first =>
    rw [readClass, List.head?_cons] at first
    cases first
    by_cases isEnum : kindOf statement = .enum
    · exact of_enum isEnum rfl
    · exact of_plain (kindOf_ne_synonym statement) (variants_foldl s _ isEnum _ _) rfl
  | synonym statement only =>
    rw [readAlias] at only
    split at only
    · cases only
    · cases only
      exact of_synonym rfl rfl rfl

end Python

/-- **Every reader makes types that hold what their kind allows.** -/
theorem isWellKinded_of_mem_read {language : Language} {path : String} {bytes : List UInt8}
    {parsed : Parsed} {t : TypeDecl} (h : t ∈ (read language path bytes parsed).types) :
    t.IsWellKinded := by
  rcases isType_of_mem_read h with ⟨_, isType⟩ | isType
  · cases language with
    | go => exact Go.IsType.isWellKinded isType
    | rust => exact Rust.IsType.isWellKinded isType
    | java => exact Java.IsType.isWellKinded isType
    | csharp => exact CSharp.IsType.isWellKinded isType
    | typescript => exact TypeScript.IsType.isWellKinded isType
    | python => exact isType.elim
  · exact isType.isWellKinded

end Reader

/-! ## Merging -/

namespace Outline

/-- A type stays well kinded when constants make an enumeration of it. -/
theorem withConstants_isWellKinded {t : TypeDecl} (h : t.IsWellKinded) (constants : NameTable) :
    (withConstants constants t).IsWellKinded := by
  rw [withConstants]
  split
  · exact of_enum rfl rfl
  · exact h

/-- **Merging keeps what holds of the kinds of types.** -/
theorem isWellKinded_of_mem_mergedTypes {files : List FileOutline}
    (read : ∀ f ∈ files, ∀ t ∈ f.types, t.IsWellKinded) {t : TypeDecl} (h : t ∈ mergedTypes files) :
    t.IsWellKinded := by
  obtain ⟨u, hu, rfl⟩ := List.mem_map.1 h
  obtain ⟨f, hf, hu⟩ := List.mem_flatMap.1 (mem_of_mem_firstDeclarations hu)
  have changed := withConstants_isWellKinded (read f hf u hu) (gather (·.constants) files)
  exact ⟨changed.variants, changed.aliasOf⟩

/-- **Only enumerations have variants, and exactly aliases name another type**, whatever trees the
parsers make of the files of a project. -/
theorem isWellKinded_of_mem_merge (language : Language) (files : List (Language × SourceFile))
    (name : Document.Value) (root : String) (localPrefixes : List String) {t : TypeDecl}
    (h : t ∈ (merge language (files.map fun f => Reader.read f.1 f.2.path f.2.bytes f.2.parsed)
      name root localPrefixes).types) : t.IsWellKinded := by
  refine isWellKinded_of_mem_mergedTypes (fun f hf u hu => ?_) h
  obtain ⟨file, -, rfl⟩ := List.mem_map.1 hf
  exact Reader.isWellKinded_of_mem_read hu

/-- An alias in one file that a constant in another makes an enumeration. -/
theorem isWellKinded_of_mem_merge_constant :
    let name (start : Nat) : Node := .mk "identifier" true false start (start + 1) "name" []
    let type (start : Nat) : Node := .mk "type_identifier" true false start (start + 1) "type" []
    let declared : SourceFile :=
      .onText "a.go" "type T U" <| .mk "source_file" true false 0 8 "" <|
        [.mk "type_declaration" true false 0 8 "" <|
          [.mk "type_spec" true false 5 8 "" [name 5, type 7]]]
    let constant : SourceFile :=
      .onText "b.go" "const A T = 0" <| .mk "source_file" true false 0 13 "" <|
        [.mk "const_declaration" true false 0 13 "" <|
          [.mk "const_spec" true false 6 13 "" [name 6, type 8]]]
    let types := (merge .go ([(.go, declared), (.go, constant)].map fun f : Language × SourceFile =>
      Reader.read f.1 f.2.path f.2.bytes f.2.parsed)).types
    ∃ t ∈ types, t.variants = ["A"] ∧ t.aliasOf? = none ∧ t.IsWellKinded := by
  intro name type declared constant types
  refine ⟨types.head (by decide +kernel), List.head_mem _, by decide +kernel, by decide +kernel, ?_⟩
  exact isWellKinded_of_mem_merge .go [(.go, declared), (.go, constant)] _ _ _ (List.head_mem _)

end Outline
end Concord
