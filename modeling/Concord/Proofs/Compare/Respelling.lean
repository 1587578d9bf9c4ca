import Concord.Proofs.Compare.Congruence
import Concord.Proofs.Name.Conventions

/-!
# Concord.Proofs.Compare.Respelling

An implementation whose names are written in other conventions.  Each name may go to a convention of
its own, and texts that hold names (signatures, calls, receivers) may go along.  The neutral forms
differ in the declared names only (`FunctionDecl.Respelled.neutral_eq`, `TypeDecl.Respelled.neutral_eq`),
and these show nowhere but in the counterparts of gaps (`Blur.names_isOverlooked`).

* `compare_respelled` — a comparison says the same of an implementation and of the respelled one.
-/

namespace Concord

/-! ## Names -/

/-- Whether two names are the same words, each in some convention. -/
def SameName (a b : String) : Prop :=
  a = b ∨ ∃ (ws : List Name.Word) (old new : Name.Convention), a = old.write ws ∧ b = new.write ws

/-- Names of the same words are the same once normalized. -/
theorem SameName.normalize {a b : String} (h : SameName a b) :
    Name.normalize a = Name.normalize b := by
  rcases h with rfl | ⟨ws, old, new, rfl, rfl⟩
  · rfl
  · rw [Name.normalize_write, Name.normalize_write]

/-- Lists are mapped to one list if their items are, one by one. -/
theorem map_eq_map_of_forall₂ {ι κ : Type} {R : ι → ι → Prop} {make : ι → κ}
    {as bs : List ι} (h : List.Forall₂ R as bs) (make_eq : ∀ a b, R a b → make a = make b) :
    as.map make = bs.map make := by
  rw [← List.forall₂_eq_eq_eq, List.forall₂_map_left_iff, List.forall₂_map_right_iff]
  exact h.imp make_eq

/-! ## Declarations -/

/-- Whether a parameter is another one under a respelled name. -/
structure Parameter.Respelled (p q : Parameter) : Prop where
  name : SameName p.name q.name
  type : p.type = q.type
  isOptional : p.isOptional = q.isOptional
  isVariadic : p.isVariadic = q.isVariadic

/-- Whether a field is another one under a respelled name. -/
structure Field.Respelled (f g : Field) : Prop where
  name : SameName f.name g.name
  type : f.type = g.type
  isPointer : f.isPointer = g.isPointer
  isArray : f.isArray = g.isArray
  isMap : f.isMap = g.isMap

/-- Whether a function is another one under respelled names.  Its signature, what it calls and its
receiver may be respelled in any way. -/
structure FunctionDecl.Respelled (f g : FunctionDecl) : Prop where
  name : SameName f.name g.name
  parameters : List.Forall₂ Parameter.Respelled f.parameters g.parameters
  returns : f.returns = g.returns
  isAsync : f.isAsync = g.isAsync
  isExported : f.isExported = g.isExported
  complexity : f.complexity = g.complexity
  location : f.location? = g.location?

/-- Whether a type is another one under respelled names. -/
structure TypeDecl.Respelled (t u : TypeDecl) : Prop where
  name : SameName t.name u.name
  kind : t.kind = u.kind
  fields : List.Forall₂ Field.Respelled t.fields u.fields
  methods : List.Forall₂ SameName t.methods u.methods
  implements : List.Forall₂ SameName t.implements u.implements
  variants : List.Forall₂ SameName t.variants u.variants
  isExported : t.isExported = u.isExported
  location : t.location? = u.location?

/-- Whether an outline declares the same as another one under respelled names. -/
structure Outline.Respelled (o p : Outline) : Prop where
  types : List.Forall₂ TypeDecl.Respelled o.types p.types
  functions : List.Forall₂ FunctionDecl.Respelled o.functions p.functions

/-! ## Neutral forms -/

/-- A function without the texts in which names stand as they are declared. -/
def NeutralFunction.withoutNames (f : NeutralFunction) : NeutralFunction :=
  { f with declaredName := "", declaredSignature := "", receiver? := none }

/-- A type without its name as it is declared. -/
def NeutralType.withoutNames (t : NeutralType) : NeutralType := { t with declaredName := "" }

/-- An item without its name; the text about a type holds its name. -/
def Item.withoutNames (i : Item) : Item :=
  match i.kind with
  | .function => { i with name := "" }
  | .type => { i with name := "", signature := "" }

/-- A gap without the names of the counterpart as it is declared. -/
def Gap.withoutNames (g : Gap) : Gap :=
  { g with counterpart? := g.counterpart?.map Item.withoutNames }

theorem Parameter.Respelled.neutral_eq {p q : Parameter} (h : p.Respelled q) :
    p.neutral = q.neutral := by
  rw [Parameter.neutral, Parameter.neutral, h.name.normalize, h.type, h.isOptional, h.isVariadic]

theorem Field.Respelled.neutral_eq {f g : Field} (h : f.Respelled g) : f.neutral = g.neutral := by
  rw [Field.neutral, Field.neutral, h.name.normalize, h.type, h.isPointer, h.isArray, h.isMap]

/-- A function that is spelled in another way differs by its own name at most. -/
theorem FunctionDecl.Respelled.neutral_eq {f g : FunctionDecl} (h : f.Respelled g) :
    f.neutral.withoutNames = g.neutral.withoutNames := by
  simp only [FunctionDecl.neutral, NeutralFunction.withoutNames, h.name.normalize, h.returns,
    h.isAsync, h.isExported, h.complexity, h.location,
    map_eq_map_of_forall₂ h.parameters fun _ _ => Parameter.Respelled.neutral_eq]

/-- A type that is spelled in another way differs by its own name at most. -/
theorem TypeDecl.Respelled.neutral_eq {t u : TypeDecl} (h : t.Respelled u) :
    t.neutral.withoutNames = u.neutral.withoutNames := by
  have fields := map_eq_map_of_forall₂ h.fields fun _ _ => Field.Respelled.neutral_eq
  have methods := map_eq_map_of_forall₂ h.methods fun _ _ => SameName.normalize
  have implements := map_eq_map_of_forall₂ h.implements fun _ _ => SameName.normalize
  have variants := map_eq_map_of_forall₂ h.variants fun _ _ => SameName.normalize
  have noFields : t.fields.isEmpty = u.fields.isEmpty := by
    simpa using congrArg List.isEmpty fields
  have noMethods : t.methods.isEmpty = u.methods.isEmpty := by
    simpa using congrArg List.isEmpty methods
  simp only [TypeDecl.neutral, TypeDecl.neutralKind, NeutralType.withoutNames, h.name.normalize,
    h.kind, h.isExported, h.location, fields, methods, implements, variants, noFields, noMethods]

/-! ## Comparisons -/

namespace Compare

/-- What a comparison overlooks of other implementations: the declared names. -/
def Blur.names : Blur where
  counterpartFunction := NeutralFunction.withoutNames
  counterpartType := NeutralType.withoutNames
  gap := Gap.withoutNames

/-- The comparison overlooks the names that were blurred. -/
theorem Blur.names_isOverlooked (isStrict : Bool) : names.IsOverlooked isStrict where
  functions := ⟨fun _ => rfl, fun _ => rfl, fun _ _ => rfl⟩
  types := ⟨fun _ => rfl, fun _ => rfl, fun _ _ => rfl⟩
  functionEntry _ finding := by cases finding <;> rfl
  typeEntry _ finding := by cases finding <;> rfl
  functionGap _ _ _ finding := by cases finding <;> rfl
  typeGap _ _ _ finding := by cases finding <;> rfl

/-- What is kept and made from related lists is the same. -/
theorem map_filter_eq_of_forall₂ {ι κ : Type} {R : ι → ι → Prop} {keep : ι → Bool} {make : ι → κ}
    {as bs : List ι} (h : List.Forall₂ R as bs) (keep_eq : ∀ a b, R a b → keep a = keep b)
    (make_eq : ∀ a b, R a b → make a = make b) :
    (as.filter keep).map make = (bs.filter keep).map make := by
  induction h with
  | nil => rfl
  | cons same _ ih =>
    rw [List.filter_cons, List.filter_cons, keep_eq _ _ same]
    split
    · rw [List.map_cons, List.map_cons, make_eq _ _ same, ih]
    · exact ih

/-- A respelled target is the same target but for names. -/
theorem sameTarget_of_respelled {o p : Outline} (h : o.Respelled p) (ignoresPrivate : Bool) :
    Blur.names.SameTarget ignoresPrivate o p where
  functions := by
    rw [neutralFunctions, neutralFunctions, List.map_map, List.map_map]
    exact map_filter_eq_of_forall₂ h.functions (fun _ _ h => by rw [h.isExported])
      fun _ _ h => h.neutral_eq
  types := by
    rw [neutralTypes, neutralTypes, List.map_map, List.map_map]
    exact map_filter_eq_of_forall₂ h.types (fun _ _ h => by rw [h.isExported])
      fun _ _ h => h.neutral_eq

/-- Whether two agreements say the same, but for the declared names of the counterparts in gaps. -/
structure SameButNames {α : Type} (a b : Agreement α) : Prop where
  overall : a.overall = b.overall
  hasConverged : a.hasConverged = b.hasConverged
  byDimension : a.byDimension = b.byDimension
  byLanguage : a.byLanguage = b.byLanguage
  gaps : a.gaps.map Gap.withoutNames = b.gaps.map Gap.withoutNames
  threshold : a.threshold = b.threshold
  sourceLanguage : a.sourceLanguage = b.sourceLanguage

/-- Agreements that are the same without names are the same but for names. -/
theorem SameButNames.of_onAgreement {α : Type} {a b : Agreement α}
    (h : Blur.names.onAgreement a = Blur.names.onAgreement b) : SameButNames a b where
  overall := congrArg (·.overall) h
  hasConverged := congrArg (·.hasConverged) h
  byDimension := congrArg (·.byDimension) h
  byLanguage := by
    have onLanguage (own : LanguageAgreement α) : Blur.names.onLanguage own = own := by
      rw [Blur.onLanguage, Blur.names, List.map_id]
    have := congrArg (·.byLanguage) h
    simpa only [Blur.onAgreement, onLanguage, List.map_id'] using this
  gaps := congrArg (·.gaps) h
  threshold := congrArg (·.threshold) h
  sourceLanguage := congrArg (·.sourceLanguage) h

variable {α : Type} [Scalar α]

/-- **A target in another convention is compared with the same result, but for the names shown.**
-/
theorem compare_respelled (settings : ComparisonSettings α) {scorers : Scorers α}
    {reference : Outline} {targets targets' : List (String × Outline)}
    (respelled : List.Forall₂ (fun t t' => t.1 = t'.1 ∧ t.2.Respelled t'.2) targets targets')
    (scores : ∀ o p : Outline, o.Respelled p → scorers.Agree reference o reference p) :
    SameButNames (compare settings scorers reference targets)
      (compare settings scorers reference targets') :=
  .of_onAgreement <| compare_congr (Blur.names_isOverlooked settings.isStrict) ⟨rfl, rfl, rfl⟩ <|
    respelled.imp fun _ _ ⟨language, same⟩ =>
      ⟨language, sameTarget_of_respelled same settings.ignoresPrivate, scores _ _ same⟩

/-- **Naming conventions agree.**  Words have one compared form, they are turned from any convention
into any other, and a comparison says the same of an implementation in whatever conventions its names
are written. -/
theorem naming_conventions_agree :
    (∀ (convention : Name.Convention) (ws : List Name.Word),
      Name.normalize (convention.write ws) = Name.Convention.snake.write ws) ∧
    (∀ (old new : Name.Convention) (ws : List Name.Word),
      Name.spellAs new.label (old.write ws) = new.write ws) ∧
    ∀ (settings : ComparisonSettings α) (scorers : Scorers α) (reference : Outline)
      (targets targets' : List (String × Outline)),
      (∀ o p : Outline, o.Respelled p → scorers.Agree reference o reference p) →
      List.Forall₂ (fun t t' => t.1 = t'.1 ∧ t.2.Respelled t'.2) targets targets' →
      SameButNames (compare settings scorers reference targets)
        (compare settings scorers reference targets') :=
  ⟨Name.normalize_write, Name.spellAs_write,
    fun settings _ _ _ _ scores respelled => compare_respelled settings respelled scores⟩

/-- A function that is missing and one that differs, in two conventions each. -/
theorem naming_conventions_agree_parseRequest :
    let request : Name.Word := ⟨'r', ['e', 'q'], by decide, List.all_eq_true.1 rfl⟩
    let parse : Name.Word := ⟨'p', ['a', 'r', 's', 'e'], by decide, List.all_eq_true.1 rfl⟩
    let reference : Outline :=
      { language := .go
        functions := [{ name := "ParseReq", parameters := [{ name := "x" }] }, { name := "SendReq" }] }
    let written (convention : Name.Convention) : Outline :=
      { language := .python, functions := [{ name := convention.write [parse, request] }] }
    SameButNames (compare Settings.usualComparison .full reference [("python", written .camel)])
      (compare Settings.usualComparison .full reference [("python", written .snake)]) := by
  intro request parse reference written
  have respelled : (written .camel).Respelled (written .snake) :=
    ⟨.nil, .cons ⟨.inr ⟨[parse, request], .camel, .snake, rfl, rfl⟩, .nil, rfl, rfl, rfl, rfl, rfl⟩
      .nil⟩
  exact naming_conventions_agree.2.2 _ _ _ _ _ (fun _ _ _ => .of_full _ _ _ _)
    (.cons ⟨rfl, respelled⟩ .nil)

end Compare
end Concord
