import Mathlib.Logic.Relation
import Mathlib.Tactic.Tauto
import Concord.Proofs.Outline.First
import Concord.Proofs.Table

/-!
# Concord.Proofs.Outline.Private

What private declarations do to the outline of a project.  A private type whose name no other type
has changes no other type, and a private function changes none but the type that it is a method of:
methods join their types, whether they are exported or not.

* `mem_methods_withMethods` — the methods of a type are the declared ones and all that join it;
* `AddsPrivate.exported_eq` — one more private declaration changes of the exported ones no more
  than the methods of a type;
* `exported_eq_of_reflTransGen` — so do any number of them.
-/

namespace Concord.Outline

/-! ## Types with what files say about them -/

/-- A type with what is said about it outside its declaration. -/
def completed (files : List FileOutline) (t : TypeDecl) : TypeDecl :=
  withImplementations (gather (·.implementations) files) <|
    withMethods (files.flatMap (·.functions)) <| withConstants (gather (·.constants) files) t

theorem mergedTypes_eq (files : List FileOutline) :
    mergedTypes files = (firstDeclarations (files.flatMap (·.types))).map (completed files) := rfl

theorem withConstants_name (constants : NameTable) (t : TypeDecl) :
    (withConstants constants t).name = t.name := by
  rw [withConstants]
  split <;> rfl

theorem withConstants_isExported (constants : NameTable) (t : TypeDecl) :
    (withConstants constants t).isExported = t.isExported := by
  rw [withConstants]
  split <;> rfl

theorem withConstants_methods (constants : NameTable) (t : TypeDecl) :
    (withConstants constants t).methods = t.methods := by
  rw [withConstants]
  split <;> rfl

theorem completed_name (files : List FileOutline) (t : TypeDecl) :
    (completed files t).name = t.name := withConstants_name _ t

theorem completed_isExported (files : List FileOutline) (t : TypeDecl) :
    (completed files t).isExported = t.isExported := withConstants_isExported _ t

/-- The functions that are exported. -/
def exportedFunctions (files : List FileOutline) : List FunctionDecl :=
  (files.flatMap (·.functions)).filter (·.isExported)

/-- The types that are exported. -/
def exportedTypes (files : List FileOutline) : List TypeDecl :=
  (mergedTypes files).filter (·.isExported)

/-- The exported types are the exported first declarations, completed. -/
theorem exportedTypes_eq (files : List FileOutline) :
    exportedTypes files =
      ((firstDeclarations (files.flatMap (·.types))).filter (·.isExported)).map (completed files) := by
  have exported : (·.isExported) ∘ completed files = (·.isExported) :=
    funext (completed_isExported files)
  rw [exportedTypes, mergedTypes_eq, List.filter_map, exported]

/-! ## Methods -/

/-- **Added are the names that are not there yet, each once and in the order of first
occurrence.** -/
theorem foldl_addMethod_eq (methods names : List String) :
    ∃ added, names.foldl addMethod methods = methods ++ added ∧
      FirstSeen (names.filter (· ∉ methods)) added :=
  foldl_eq_append methods names fun kept name _ => by simp [addMethod]

/-- The methods after some have been attached are those before and the attached ones. -/
theorem mem_foldl_addMethod {methods names : List String} {n : String} :
    n ∈ names.foldl addMethod methods ↔ n ∈ methods ∨ n ∈ names := by
  obtain ⟨added, eq, seen⟩ := foldl_addMethod_eq methods names
  rw [eq, List.mem_append, seen.mem_iff, List.mem_filter, decide_eq_true_iff]
  tauto

/-- **The methods of a type are the declared ones and the functions that name it as their
receiver.** -/
theorem mem_methods_withMethods {functions : List FunctionDecl} {t : TypeDecl} {n : String} :
    n ∈ (withMethods functions t).methods ↔
      n ∈ t.methods ∨ ∃ f ∈ functions, f.receiver? = some t.name ∧ f.name = n := by
  rw [withMethods, mem_foldl_addMethod]
  simp [and_assoc]

/-- A function of another receiver joins no type. -/
theorem withMethods_of_ne {f : FunctionDecl} {t : TypeDecl} (other : f.receiver? ≠ some t.name)
    (ahead behind : List FunctionDecl) :
    withMethods (ahead ++ f :: behind) t = withMethods (ahead ++ behind) t := by
  have left_out : (ahead ++ f :: behind).filter (·.receiver? == some t.name) =
      (ahead ++ behind).filter (·.receiver? == some t.name) := by
    rw [List.filter_append, List.filter_append, List.filter_cons, if_neg (by simpa using other)]
  rw [withMethods, withMethods, left_out]

/-- A method whose name is known already adds nothing. -/
theorem withMethods_of_mem {f : FunctionDecl} {t : TypeDecl} {ahead : List FunctionDecl}
    (known : f.name ∈ (withMethods ahead t).methods) (behind : List FunctionDecl) :
    withMethods (ahead ++ f :: behind) t = withMethods (ahead ++ behind) t := by
  by_cases own : f.receiver? = some t.name
  · have nothing : addMethod (withMethods ahead t).methods f.name = (withMethods ahead t).methods :=
      if_pos (by simpa using known)
    rw [withMethods] at nothing
    rw [withMethods, withMethods, List.filter_append, List.filter_append, List.filter_cons,
      if_pos (by simpa using own), List.map_append, List.map_append, List.map_cons,
      List.foldl_append, List.foldl_append, List.foldl_cons, nothing]
  · exact withMethods_of_ne own ahead behind

/-- A method whose name is known in the end changes no more than the order. -/
theorem withMethods_perm_of_mem {f : FunctionDecl} {t : TypeDecl} {ahead behind : List FunctionDecl}
    (known : f.name ∈ (withMethods (ahead ++ behind) t).methods) :
    (withMethods (ahead ++ f :: behind) t).methods.Perm
      (withMethods (ahead ++ behind) t).methods := by
  have same (n : String) : n ∈ (withMethods (ahead ++ f :: behind) t).methods ↔
      n ∈ (withMethods (ahead ++ behind) t).methods := by
    simp only [mem_methods_withMethods, List.mem_append, List.mem_cons] at known ⊢
    constructor
    · rintro (declared | ⟨g, ahead | rfl | behind, own⟩)
      · exact .inl declared
      · exact .inr ⟨g, .inl ahead, own⟩
      · exact own.2 ▸ known
      · exact .inr ⟨g, .inr behind, own⟩
    · rintro (declared | ⟨g, ahead | behind, own⟩)
      · exact .inl declared
      · exact .inr ⟨g, .inl ahead, own⟩
      · exact .inr ⟨g, .inr (.inr behind), own⟩
  rw [withMethods, withMethods] at same ⊢
  obtain ⟨added, eq, seen⟩ := foldl_addMethod_eq t.methods
    (((ahead ++ behind).filter (·.receiver? == some t.name)).map (·.name))
  obtain ⟨added', eq', seen'⟩ := foldl_addMethod_eq t.methods
    (((ahead ++ f :: behind).filter (·.receiver? == some t.name)).map (·.name))
  simp only [eq, eq', List.mem_append] at same ⊢
  have fresh {n : String} {names added : List String}
      (h : FirstSeen (names.filter (· ∉ t.methods)) added) (hn : n ∈ added) : n ∉ t.methods := by
    simpa using (List.mem_filter.1 ((h.mem_iff n).1 hn)).2
  refine List.Perm.append_left _ ((List.perm_ext_iff_of_nodup seen'.nodup seen.nodup).2 fun n => ?_)
  exact ⟨fun hn => ((same n).1 (.inr hn)).resolve_left (fresh seen' hn),
    fun hn => ((same n).2 (.inr hn)).resolve_left (fresh seen hn)⟩

/-! ## One more declaration -/

/-- Whether some files are others with one more function in one of them, behind the functions
`ahead`. -/
def AddsFunction (f : FunctionDecl) (ahead : List FunctionDecl) (files files' : List FileOutline) :
    Prop :=
  ∃ front file back before behind, file.functions = before ++ behind ∧
    ahead = front.flatMap (·.functions) ++ before ∧ files = front ++ file :: back ∧
    files' = front ++ { file with functions := before ++ f :: behind } :: back

/-- Whether some files are others with one more type in one of them. -/
def AddsType (t : TypeDecl) (files files' : List FileOutline) : Prop :=
  ∃ front file back before behind, file.types = before ++ behind ∧
    files = front ++ file :: back ∧
    files' = front ++ { file with types := before ++ t :: behind } :: back

section AddsFunction

variable {f : FunctionDecl} {ahead : List FunctionDecl} {files files' : List FileOutline}

theorem AddsFunction.functions_eq (h : AddsFunction f ahead files files') :
    ∃ behind, files.flatMap (·.functions) = ahead ++ behind ∧
      files'.flatMap (·.functions) = ahead ++ f :: behind := by
  obtain ⟨front, file, back, before, behind, split, rfl, rfl, rfl⟩ := h
  exact ⟨behind ++ back.flatMap (·.functions), by simp [split], by simp⟩

theorem AddsFunction.types_eq (h : AddsFunction f ahead files files') :
    files'.flatMap (·.types) = files.flatMap (·.types) := by
  obtain ⟨front, file, back, before, behind, -, -, rfl, rfl⟩ := h
  simp

theorem AddsFunction.gather_eq (h : AddsFunction f ahead files files') :
    gather (·.constants) files' = gather (·.constants) files ∧
      gather (·.implementations) files' = gather (·.implementations) files := by
  obtain ⟨front, file, back, before, behind, -, -, rfl, rfl⟩ := h
  simp [gather]

/-- Only methods can change. -/
theorem AddsFunction.completed_eq (h : AddsFunction f ahead files files') (t : TypeDecl) :
    completed files' t = { completed files t with methods := (completed files' t).methods } := by
  rw [completed, completed, h.gather_eq.1, h.gather_eq.2]
  rfl

/-- A function that joins no type, or whose name the type knows already, changes no type. -/
theorem AddsFunction.completed_eq_self (h : AddsFunction f ahead files files') {t : TypeDecl}
    (known : f.receiver? = some t.name → f.name ∈ (withMethods ahead t).methods) :
    completed files' t = completed files t := by
  obtain ⟨behind, functions, functions'⟩ := h.functions_eq
  rw [completed, completed, h.gather_eq.1, h.gather_eq.2, functions, functions']
  refine congrArg _ ?_
  by_cases own : f.receiver? = some t.name
  · refine withMethods_of_mem ?_ behind
    rw [mem_methods_withMethods, withConstants_name, withConstants_methods,
      ← mem_methods_withMethods]
    exact known own
  · exact withMethods_of_ne (by rwa [withConstants_name]) ahead behind

/-- No method is lost. -/
theorem AddsFunction.methods_subset (h : AddsFunction f ahead files files') (t : TypeDecl) :
    (completed files t).methods ⊆ (completed files' t).methods := by
  obtain ⟨behind, functions, functions'⟩ := h.functions_eq
  intro n hn
  rw [completed, withImplementations, mem_methods_withMethods] at hn ⊢
  rw [h.gather_eq.1, functions']
  rw [functions] at hn
  refine hn.imp_right fun ⟨g, hg, own⟩ => ⟨g, ?_, own⟩
  rcases List.mem_append.1 hg with hg | hg
  · exact List.mem_append_left _ hg
  · exact List.mem_append_right _ (List.mem_cons_of_mem _ hg)

/-- A method that the type has already is not counted twice. -/
theorem AddsFunction.methods_perm (h : AddsFunction f ahead files files') {t : TypeDecl}
    (known : f.name ∈ (completed files t).methods) :
    (completed files' t).methods.Perm (completed files t).methods := by
  obtain ⟨behind, functions, functions'⟩ := h.functions_eq
  rw [completed, withImplementations, functions] at known
  rw [completed, completed, withImplementations, withImplementations, h.gather_eq.1, functions,
    functions']
  exact withMethods_perm_of_mem known

end AddsFunction

section AddsType

variable {t : TypeDecl} {files files' : List FileOutline}

/-- One type stands in the files that the others lack. -/
theorem AddsType.types_eq (h : AddsType t files files') :
    ∃ before behind, files.flatMap (·.types) = before ++ behind ∧
      files'.flatMap (·.types) = before ++ t :: behind := by
  obtain ⟨front, file, back, before, behind, split, rfl, rfl⟩ := h
  exact ⟨front.flatMap (·.types) ++ before, behind ++ back.flatMap (·.types), by simp [split],
    by simp⟩

theorem AddsType.functions_eq (h : AddsType t files files') :
    files'.flatMap (·.functions) = files.flatMap (·.functions) := by
  obtain ⟨front, file, back, before, behind, -, rfl, rfl⟩ := h
  simp

/-- A further type changes nothing that types are completed with. -/
theorem AddsType.completed_eq (h : AddsType t files files') : completed files' = completed files := by
  funext u
  rw [completed, completed, h.functions_eq]
  obtain ⟨front, file, back, before, behind, -, rfl, rfl⟩ := h
  simp [gather]

/-- A private type with a name of its own is no exported first declaration, and hides none. -/
theorem filter_firstDeclarations_of_private (isPrivate : t.isExported = false)
    {before behind : List TypeDecl} (fresh : ∀ u ∈ before ++ behind, u.name ≠ t.name) :
    (firstDeclarations (before ++ t :: behind)).filter (·.isExported) =
      (firstDeclarations (before ++ behind)).filter (·.isExported) := by
  have others : (before ++ t :: behind).filter (·.name != t.name) = before ++ behind := by
    rw [List.filter_append, List.filter_cons, if_neg (by simp), ← List.filter_append,
      List.filter_eq_self]
    exact fun u hu => bne_iff_ne.2 (fresh u hu)
  have named (u : TypeDecl) (hu : u ∈ firstDeclarations (before ++ t :: behind)) :
      u.isExported = (u.isExported && u.name != t.name) := by
    cases exported : u.isExported with
    | false => rfl
    | true =>
      have ne : u ≠ t := by
        rintro rfl
        rw [isPrivate] at exported
        cases exported
      have mem : u ∈ before ++ behind := by
        have := mem_of_mem_firstDeclarations hu
        simp only [List.mem_append, List.mem_cons] at this ⊢
        tauto
      simpa using fresh u mem
  rw [List.filter_congr named, ← List.filter_filter, filter_firstDeclarations, others]

/-- A private type with a name of its own changes nothing that is exported. -/
theorem AddsType.exported_eq (h : AddsType t files files') (isPrivate : t.isExported = false)
    (fresh : ∀ u ∈ files.flatMap (·.types), u.name ≠ t.name) :
    exportedFunctions files' = exportedFunctions files ∧
      exportedTypes files' = exportedTypes files := by
  obtain ⟨before, behind, types, types'⟩ := h.types_eq
  rw [types] at fresh
  refine ⟨by rw [exportedFunctions, exportedFunctions, h.functions_eq], ?_⟩
  rw [exportedTypes_eq, exportedTypes_eq, h.completed_eq, types, types',
    filter_firstDeclarations_of_private isPrivate fresh]

end AddsType

/-! ## Private declarations -/

/-- One more private declaration: a type with a name of its own, or a function that is allowed among
the files, where some functions are ahead of it. -/
inductive AddsPrivate (Allowed : List FileOutline → List FunctionDecl → FunctionDecl → Prop)
    (files files' : List FileOutline) : Prop where
  | type (t : TypeDecl) (isPrivate : t.isExported = false)
      (fresh : ∀ u ∈ files.flatMap (·.types), u.name ≠ t.name) (adds : AddsType t files files')
  | function (f : FunctionDecl) (ahead : List FunctionDecl) (isPrivate : f.isExported = false)
      (allowed : Allowed files ahead f) (adds : AddsFunction f ahead files files')

/-- Whether a view does not show what allowed functions change in exported types. -/
def Hides {σ : Type} (Allowed : List FileOutline → List FunctionDecl → FunctionDecl → Prop)
    (view : TypeDecl → σ) : Prop :=
  ∀ files files' ahead f, AddsFunction f ahead files files' → Allowed files ahead f →
    ∀ t ∈ firstDeclarations (files.flatMap (·.types)), t.isExported = true →
      view (completed files' t) = view (completed files t)

section Hides

variable {σ : Type} {Allowed : List FileOutline → List FunctionDecl → FunctionDecl → Prop}
  {view : TypeDecl → σ} {files files' : List FileOutline}

/-- **One more private declaration leaves what is exported as it is, as far as the view shows it.** -/
theorem AddsPrivate.exported_eq (hides : Hides Allowed view) (h : AddsPrivate Allowed files files') :
    exportedFunctions files' = exportedFunctions files ∧
      (exportedTypes files').map view = (exportedTypes files).map view := by
  cases h with
  | type t isPrivate fresh adds =>
    obtain ⟨functions, types⟩ := adds.exported_eq isPrivate fresh
    exact ⟨functions, congrArg _ types⟩
  | function f ahead isPrivate allowed adds =>
    constructor
    · obtain ⟨behind, functions, functions'⟩ := adds.functions_eq
      rw [exportedFunctions, exportedFunctions, functions, functions', List.filter_append,
        List.filter_append, List.filter_cons, if_neg (by simp [isPrivate])]
    · rw [exportedTypes_eq, exportedTypes_eq, adds.types_eq, List.map_map, List.map_map]
      refine List.map_congr_left fun t ht => ?_
      obtain ⟨ht, exported⟩ := List.mem_filter.1 ht
      exact hides files files' ahead f adds allowed t ht exported

/-- **So does any number of them.** -/
theorem exported_eq_of_reflTransGen (hides : Hides Allowed view)
    (h : Relation.ReflTransGen (AddsPrivate Allowed) files files') :
    exportedFunctions files' = exportedFunctions files ∧
      (exportedTypes files').map view = (exportedTypes files).map view := by
  induction h with
  | refl => exact ⟨rfl, rfl⟩
  | tail _ adds ih =>
    obtain ⟨functions, types⟩ := adds.exported_eq hides
    exact ⟨functions.trans ih.1, types.trans ih.2⟩

end Hides

end Concord.Outline
