import Mathlib.Data.List.Induction
import Mathlib.Data.List.Nodup
import Mathlib.Data.List.Perm.Basic
import Concord.Proofs.Reader.Python

/-!
# Concord.Proofs.Reader.Fields

Fields of Python classes.  They come from three sources: names that are annotated in the body of the
class, properties, and attributes of `self` that `__init__` assigns.

* `mem_instanceFields`, `nodup_instanceFields` — an assignment adds a field for an attribute unless
  there is one already;
* `mem_fields_foldl_add`, `nodup_fields_foldl_add` — so a body gives a field to every name of the three
  sources, in whatever order its statements stand;
* `read_hasFieldsOf` — the classes of a file have these fields, and when there is only one for each
  name.

Annotations and properties do not look at the fields that are there.  One that stands behind an
`__init__` which assigns its name gives the class a second field of this name:
`late_annotation_repeats_field`.
-/

namespace Concord.Reader.Python

/-! ## Sources of fields -/

/-- The annotated name that a statement in the body of a class gives a field.  The annotated names of
an enumeration are constants. -/
def annotatedNames (kind : TypeKind) (t : Term) : List String :=
  if kind = .enum then [] else (annotatedField? t).toList.map (·.name)

/-- The name of the property that a statement in the body of a class defines.  A setter defines
none. -/
def propertyNames (t : Term) : List String :=
  if isFunction t && nameOf t != "__init__" && !isSecondary t && isProperty t then [nameOf t] else []

/-- The attributes of `self` that a statement in the body of a class assigns, if it is `__init__`. -/
def assignedNames (t : Term) : List String :=
  if isFunction t && nameOf t == "__init__" then (t.walk.flatMap (assigned t)).map (·.1) else []

/-- The names of the fields that a statement declares by itself. -/
def declaredNames (kind : TypeKind) (t : Term) : List String :=
  annotatedNames kind t ++ propertyNames t

/-- A function is no annotated field. -/
theorem annotatedField?_of_isFunction {t : Term} (h : isFunction t) : annotatedField? t = none := by
  rw [annotatedField?, if_neg]
  intro annotation
  simp [isFunction, annotation] at h

/-- A statement declares one field at most. -/
theorem nodup_declaredNames (kind : TypeKind) (t : Term) : (declaredNames kind t).Nodup := by
  by_cases function : isFunction t
  · have noName : annotatedNames kind t = [] := by
      simp [annotatedNames, annotatedField?_of_isFunction function]
    rw [declaredNames, noName, List.nil_append, propertyNames]
    split
    · exact List.nodup_singleton _
    · exact List.nodup_nil
  · have noProperty : propertyNames t = [] := by simp [propertyNames, function]
    rw [declaredNames, noProperty, List.append_nil, annotatedNames]
    split
    · exact List.nodup_nil
    · cases annotatedField? t <;> simp

/-! ## Assignments -/

section

variable {known : List Field} {init : Term}

/-- The fields behind an assignment. -/
theorem names_assign (fields : List Field) (e : String × Option Term) :
    (if fields.any (·.name == e.1) then fields else fields ++ [fieldOf e.1 e.2 none]).map (·.name) =
      if e.1 ∈ fields.map (·.name) then fields.map (·.name) else fields.map (·.name) ++ [e.1] := by
  by_cases there : e.1 ∈ fields.map (·.name)
  · have any : fields.any (·.name == e.1) := by simpa using there
    rw [if_pos any, if_pos there]
  · have none : ¬ fields.any (·.name == e.1) := by simpa using there
    rw [if_neg none, if_neg there, List.map_append]
    rfl

/-- The fields of instances are the known ones and those assigned in the initializer. -/
theorem mem_instanceFields {n : String} :
    n ∈ (instanceFields known init).map (·.name) ↔
      n ∈ known.map (·.name) ∨ n ∈ (init.walk.flatMap (assigned init)).map (·.1) := by
  rw [instanceFields]
  induction init.walk.flatMap (assigned init) using List.reverseRecOn with
  | nil => simp
  | append_singleton es e ih =>
    rw [List.foldl_append, List.foldl_cons, List.foldl_nil, names_assign, List.map_append,
      List.map_singleton, List.mem_append, List.mem_singleton, ← or_assoc, ← ih]
    split
    · rename_i there
      exact ⟨Or.inl, fun h => h.elim id fun same => same ▸ there⟩
    · rw [List.mem_append, List.mem_singleton]

/-- Assignments repeat no name. -/
theorem nodup_instanceFields :
    ((instanceFields known init).map (·.name)).Nodup ↔ (known.map (·.name)).Nodup := by
  rw [instanceFields]
  induction init.walk.flatMap (assigned init) using List.reverseRecOn with
  | nil => rfl
  | append_singleton es e ih =>
    rw [List.foldl_append, List.foldl_cons, List.foldl_nil, names_assign, ← ih]
    split
    · rfl
    · rename_i new
      rw [List.nodup_append_comm, List.singleton_append, List.nodup_cons]
      exact and_iff_right new

end

/-! ## Bodies -/

section

variable (s : Source) (owner : String) (kind : TypeKind)

/-- What a statement does to the fields: `__init__` adds the attributes that it assigns, and anything
else adds the field that it declares. -/
theorem fields_add (m : Members) (t : Term) :
    (isFunction t ∧ nameOf t = "__init__" ∧ declaredNames kind t = [] ∧
        (m.add s owner kind t).fields = instanceFields m.fields t) ∨
      (assignedNames t = [] ∧
        (m.add s owner kind t).fields.map (·.name) = m.fields.map (·.name) ++ declaredNames kind t) := by
  rw [Members.add]
  by_cases function : isFunction t
  · have noName : annotatedNames kind t = [] := by
      simp [annotatedNames, annotatedField?_of_isFunction function]
    by_cases init : nameOf t = "__init__"
    · exact .inl (by simp [declaredNames, propertyNames, noName, function, init])
    · right
      cases secondary : isSecondary t <;> cases property : isProperty t <;>
        simp [assignedNames, declaredNames, propertyNames, noName, function, init, secondary,
          property, fieldOf]
  · right
    by_cases enum : kind = .enum <;>
      simp [assignedNames, declaredNames, annotatedNames, propertyNames, function, enum]

/-- A member of a class adds the fields that it declares and those that it assigns. -/
theorem mem_fields_add (m : Members) (t : Term) {n : String} :
    n ∈ (m.add s owner kind t).fields.map (·.name) ↔
      n ∈ m.fields.map (·.name) ∨ n ∈ declaredNames kind t ∨ n ∈ assignedNames t := by
  rcases fields_add s owner kind m t with ⟨function, init, nothing, fields⟩ | ⟨nothing, names⟩
  · rw [fields, mem_instanceFields, nothing, assignedNames, function, init]
    simp
  · rw [names, nothing, List.mem_append]
    simp

/-- A field is repeated only by a statement that declares it. -/
theorem nodup_fields_add (m : Members) (t : Term) :
    ((m.add s owner kind t).fields.map (·.name)).Nodup ↔
      (m.fields.map (·.name)).Nodup ∧ (m.fields.map (·.name)).Disjoint (declaredNames kind t) := by
  rcases fields_add s owner kind m t with ⟨-, -, nothing, fields⟩ | ⟨-, names⟩
  · rw [fields, nodup_instanceFields, nothing]
    simp
  · rw [names, List.nodup_append']
    exact and_congr_right fun _ => and_iff_right (nodup_declaredNames kind t)

/-- **A body gives a field to every name that it declares or assigns.** -/
theorem mem_fields_foldl_add (body : List Term) {n : String} :
    n ∈ (body.foldl (Members.add s owner kind) {}).fields.map (·.name) ↔
      n ∈ body.flatMap (declaredNames kind) ∨ n ∈ body.flatMap assignedNames := by
  induction body using List.reverseRecOn with
  | nil => simp
  | append_singleton body t ih =>
    rw [List.foldl_append, List.foldl_cons, List.foldl_nil, mem_fields_add, ih]
    simp only [List.flatMap_append, List.flatMap_singleton, List.mem_append]
    exact or_or_or_comm

/-- **A body repeats no field exactly if it declares none twice, and none behind an `__init__` that
assigns it.** -/
theorem nodup_fields_foldl_add (body : List Term) :
    ((body.foldl (Members.add s owner kind) {}).fields.map (·.name)).Nodup ↔
      (body.flatMap (declaredNames kind)).Nodup ∧
        body.Pairwise fun earlier later =>
          (assignedNames earlier).Disjoint (declaredNames kind later) := by
  induction body using List.reverseRecOn with
  | nil => simp
  | append_singleton body t ih =>
    have apart : ((body.foldl (Members.add s owner kind) {}).fields.map (·.name)).Disjoint
          (declaredNames kind t) ↔
        (body.flatMap (declaredNames kind)).Disjoint (declaredNames kind t) ∧
          ∀ earlier ∈ body, (assignedNames earlier).Disjoint (declaredNames kind t) := by
      simp only [List.disjoint_left, mem_fields_foldl_add, List.mem_flatMap]
      grind
    have own := nodup_declaredNames kind t
    rw [List.foldl_append, List.foldl_cons, List.foldl_nil, nodup_fields_add, ih, apart,
      List.flatMap_append, List.flatMap_singleton, List.nodup_append', List.pairwise_append]
    simp only [List.pairwise_singleton, List.mem_singleton, forall_eq, own, true_and]
    exact and_and_and_comm

end

/-! ## Classes -/

/-- The annotated names in the body of a class, in order. -/
def annotatedIn (t : Term) : List String := (t.nodesIn "body").flatMap (annotatedNames (kindOf t))

/-- The properties of a class, in order. -/
def propertiesIn (t : Term) : List String := (t.nodesIn "body").flatMap propertyNames

/-- The attributes of `self` that `__init__` assigns, in order. -/
def assignedIn (t : Term) : List String := (t.nodesIn "body").flatMap assignedNames

/-- Whether no annotation and no property stands behind an `__init__` that assigns its name. -/
def DeclaresFirst (t : Term) : Prop :=
  (t.nodesIn "body").Pairwise fun earlier later =>
    (assignedNames earlier).Disjoint (declaredNames (kindOf t) later)

/-- Whether a type has the fields of the class that a statement declares: one of each name that is
annotated, a property or assigned, in whatever order these stand, and exactly one if the names are
declared once and in front of their assignments. -/
structure HasFieldsOf (t : Term) (c : TypeDecl) : Prop where
  name : c.name = nameOf t
  mem_iff : ∀ n, n ∈ c.fields.map (·.name) ↔
    n ∈ annotatedIn t ∨ n ∈ propertiesIn t ∨ n ∈ assignedIn t
  nodup_iff : (c.fields.map (·.name)).Nodup ↔
    (annotatedIn t).Nodup ∧ (propertiesIn t).Nodup ∧ (annotatedIn t).Disjoint (propertiesIn t) ∧
      DeclaresFirst t

theorem perm_declared (t : Term) :
    ((t.nodesIn "body").flatMap (declaredNames (kindOf t))).Perm (annotatedIn t ++ propertiesIn t) :=
  (List.flatMap_append_perm _ _ _).symm

/-- A class that is read has the fields of its statement. -/
theorem IsClass.hasFieldsOf {s : Source} {t : Term} {c : TypeDecl} (h : IsClass s t c) :
    HasFieldsOf t c := by
  have fields : c.fields =
      ((t.nodesIn "body").foldl (Members.add s (nameOf t) (kindOf t)) {}).fields := by
    have first := h.isFirst
    rw [readClass, List.head?_cons, Option.some.injEq, Declaration.type.injEq] at first
    rw [← first]
  refine ⟨h.name, fun n => ?_, ?_⟩
  · rw [fields, mem_fields_foldl_add, (perm_declared t).mem_iff, List.mem_append, or_assoc]
    rfl
  · rw [fields, nodup_fields_foldl_add, (perm_declared t).nodup_iff, List.nodup_append']
    simp only [and_assoc]
    rfl

/-- **The classes of a file have the fields of their bodies.**  No two fields of a class share a name
exactly if its annotated names differ, each property is defined once and under no annotated name, and
all of them stand in front of an `__init__` that assigns their names. -/
theorem read_hasFieldsOf (path : String) (bytes : List UInt8) (root : Term) :
    List.Forall₂ HasFieldsOf ((root.reached blocks).filter (·.kind == "ClassDef"))
      ((Reader.read .python path bytes (.abstract root)).types.filter (·.kind != .synonym)) :=
  (declares_reached path bytes root).classes.imp fun _ _ => IsClass.hasFieldsOf

/-- An expression that is a name. -/
def nameTerm (role name : String) : Term := .node role "Name" 0 0 name [.word "id" name]

/-- An `__init__` that keeps its argument in an attribute of the same name. -/
def keepingInit (field : String) : Term :=
  .node "body" "FunctionDef" 2 3 ""
    [.word "name" "__init__",
      .node "args" "arguments" 0 0 ("self, " ++ field ++ ": int")
        [.node "args" "arg" 0 0 "" [.word "arg" "self", .absent "annotation"],
          .node "args" "arg" 0 0 "" [.word "arg" field, nameTerm "annotation" "int"]],
      .node "body" "Assign" 3 3 ""
        [.node "targets" "Attribute" 0 0 "" [nameTerm "value" "self", .word "attr" field],
          nameTerm "value" field]]

/-- A class with an annotated attribute behind the `__init__` that assigns it. -/
def lateField : Term :=
  .node "body" "ClassDef" 1 4 ""
    [.word "name" "A", keepingInit "x",
      .node "body" "AnnAssign" 4 4 ""
        [nameTerm "target" "x", nameTerm "annotation" "int", .absent "value"]]

/-- The text of the file. -/
def lateFieldText : List UInt8 :=
  Text.Utf8.encode
    "class A:\n    def __init__(self, x: int):\n        self.x = x\n    x: int\n".toList

/-- **An annotation behind `__init__` repeats a field.**  The class annotates one name and defines no
property, and it has two fields of that name. -/
theorem late_annotation_repeats_field :
    let o := Reader.read .python "app.py" lateFieldText
      (.abstract (.node "" "Module" 0 0 "" [lateField]))
    annotatedIn lateField = ["x"] ∧ propertiesIn lateField = [] ∧
      o.types.map (fun c => (c.name, c.fields.map (·.name))) = [("A", ["x", "x"])] := by
  decide +kernel

end Concord.Reader.Python
