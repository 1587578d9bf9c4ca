import Mathlib.Data.List.Forall2
import Concord.Proofs.Reader.Kinds

/-!
# Concord.Proofs.Reader.Python

What a Python file declares, told by its syntax tree alone.  An occurrence of a node in a tree comes
with the kinds of all nodes above it (`Term.occurrences`); a file declares what those statements
declare above which there is nothing but the module and blocks (`blocks`), in the order of the text.

* `readStatement_eq_flatMap` — the reader goes through exactly these;
* `members_foldl_add` — of a class it takes the methods, one after the other;
* `read_declares` — so imports, functions and classes of a file are those of its reached statements.

A handler of exceptions is part of a block in the text and a node of its own in the tree.  It is no
block, so what stands in a handler is overlooked (`fallback_import_is_overlooked`); where nothing
there declares anything, handlers make no difference.
-/

namespace Concord

/-! ## Occurrences -/

/-- A node in a tree, with the kinds of the nodes above it, the nearest first. -/
structure Occurrence where
  term : Term
  above : List String

namespace Term

mutual

/-- The nodes of a tree that are no literals, a node before those below it and these in order. -/
def occurrences (above : List String) : Term → List Occurrence
  | node role kind first last text parts =>
    ⟨node role kind first last text parts, above⟩ :: occurrencesAmong (kind :: above) parts
  | _ => []

/-- The same for several trees, one tree after the other. -/
def occurrencesAmong (above : List String) : List Term → List Occurrence
  | [] => []
  | t :: ts => occurrences above t ++ occurrencesAmong above ts

end

/-- The nodes of a tree above which there are only nodes of these kinds. -/
def reached (kinds : List String) (t : Term) : List Term :=
  ((t.occurrences []).filter (·.above.all kinds.contains)).map (·.term)

end Term

namespace Reader.Python

/-! ## Statements -/

/-- The kinds of nodes that are read through. -/
def blocks : List String := ["Module", "If", "Try", "TryStar"]

/-- A block declares nothing itself. -/
theorem readPlain_of_block {s : Source} {t : Term} (h : blocks.contains t.kind) :
    readPlain s t = [] := by
  have kinds : t.kind = "Module" ∨ t.kind = "If" ∨ t.kind = "Try" ∨ t.kind = "TryStar" := by
    simpa [blocks] using h
  rcases kinds with kind | kind | kind | kind <;> simp [readPlain, kind]

mutual

/-- A term below a form that is no block holds no statement that is reached. -/
theorem not_reached (above : List String) (h : above.all blocks.contains = false) :
    ∀ t : Term, (t.occurrences above).filter (·.above.all blocks.contains) = []
  | .node role kind first last text parts => by
    have below : (kind :: above).all blocks.contains = false := by simp [h]
    rw [Term.occurrences, List.filter_cons_of_neg (by simp [h]), not_reachedAmong _ below parts]
  | .literal .. | .word .. | .number .. | .absent .. => rfl

/-- Neither does a row of such terms. -/
theorem not_reachedAmong (above : List String) (h : above.all blocks.contains = false) :
    ∀ ts : List Term, (Term.occurrencesAmong above ts).filter (·.above.all blocks.contains) = []
  | [] => rfl
  | t :: ts => by
    rw [Term.occurrencesAmong, List.filter_append, not_reached above h t,
      not_reachedAmong above h ts, List.nil_append]

end

mutual

/-- A statement declares what the statements declare that are reached in it, in order. -/
theorem readStatement_eq (s : Source) (above : List String) (h : above.all blocks.contains) :
    ∀ t : Term, readStatement s t =
      ((t.occurrences above).filter (·.above.all blocks.contains)).flatMap (readPlain s ·.term)
  | .node role kind first last text parts => by
    rw [Term.occurrences, List.filter_cons_of_pos (by exact h), List.flatMap_cons]
    cases block : blocks.contains kind with
    | true =>
      have below : (kind :: above).all blocks.contains := by rw [List.all_cons, block, h]; rfl
      have own : readPlain s (.node role kind first last text parts) = [] :=
        readPlain_of_block block
      rw [own, List.nil_append, readStatement]
      exact (if_pos block).trans (readStatements_eq s (kind :: above) below parts)
    | false =>
      have below : (kind :: above).all blocks.contains = false := by
        rw [List.all_cons, block, Bool.false_and]
      rw [not_reachedAmong (kind :: above) below parts, List.flatMap_nil, List.append_nil,
        readStatement]
      exact if_neg (ne_true_of_eq_false block)
  | .literal .. | .word .. | .number .. | .absent .. => rfl

/-- A row of statements declares what those of its members declare. -/
theorem readStatements_eq (s : Source) (above : List String) (h : above.all blocks.contains) :
    ∀ ts : List Term, readStatements s ts =
      ((Term.occurrencesAmong above ts).filter (·.above.all blocks.contains)).flatMap
        (readPlain s ·.term)
  | [] => rfl
  | t :: ts => by
    rw [readStatements, Term.occurrencesAmong, List.filter_append, List.flatMap_append,
      readStatement_eq s above h t, readStatements_eq s above h ts]

end

/-- **The reader goes through the nodes below blocks only.** -/
theorem readStatement_eq_flatMap (s : Source) (root : Term) :
    readStatement s root = (root.reached blocks).flatMap (readPlain s) := by
  rw [Term.reached, List.flatMap_map]
  exact readStatement_eq s [] rfl root

/-! ## Declarations -/

/-- The imports that a statement declares. -/
def importsOf (t : Term) : List Import :=
  match t.kind with
  | "Import" => (t.nodesIn "names").map fun a => { path := nameOf a, alias? := a.word? "asname" }
  | "ImportFrom" => [readImportFrom t]
  | _ => []

/-- Whether a statement in the body of a class declares a method: `__init__`, a property and a
further half of a function are none. -/
def isMethod (t : Term) : Bool :=
  isFunction t && nameOf t != "__init__" && !isSecondary t && !isProperty t

/-- The functions that a statement declares: itself, or the methods in the body of a class. -/
def functionsOf (s : Source) (t : Term) : List FunctionDecl :=
  match t.kind with
  | "FunctionDef" | "AsyncFunctionDef" => if isSecondary t then [] else [readFunction s none t]
  | "ClassDef" => ((t.nodesIn "body").filter isMethod).map (readFunction s (some (nameOf t)))
  | _ => []

/-- Whether a type is the class that a statement declares. -/
structure IsClass (s : Source) (t : Term) (c : TypeDecl) : Prop where
  isFirst : (readClass s t).head? = some (.type c)
  name : c.name = nameOf t
  kind : c.kind = kindOf t
  methods : c.methods = ((t.nodesIn "body").filter isMethod).map nameOf
  location : c.location? = some (locationOf s t)

/-- A method adds a function and its name to the members of a class, any other member neither. -/
theorem members_add (s : Source) (owner : String) (kind : TypeKind) (m : Members) (t : Term) :
    (m.add s owner kind t).functions =
        m.functions ++ ([t].filter isMethod).map (readFunction s (some owner)) ∧
      (m.add s owner kind t).methods = m.methods ++ ([t].filter isMethod).map nameOf := by
  rw [Members.add]
  by_cases function : isFunction t
  · by_cases init : nameOf t = "__init__"
    · simp [isMethod, function, init]
    · cases secondary : isSecondary t <;> cases property : isProperty t <;>
        simp [isMethod, function, init, secondary, property]
  · by_cases enum : kind = .enum <;> simp [isMethod, function, enum]

/-- **The methods of a class are the functions in its body that are no exception, in order.** -/
theorem members_foldl_add (s : Source) (owner : String) (kind : TypeKind) (m : Members)
    (body : List Term) :
    (body.foldl (Members.add s owner kind) m).functions =
        m.functions ++ (body.filter isMethod).map (readFunction s (some owner)) ∧
      (body.foldl (Members.add s owner kind) m).methods =
        m.methods ++ (body.filter isMethod).map nameOf := by
  induction body generalizing m with
  | nil => simp
  | cons t body ih =>
    have step := members_add s owner kind m t
    have rest := ih (m.add s owner kind t)
    rw [List.foldl_cons, rest.1, rest.2, step.1, step.2, List.append_assoc, List.append_assoc,
      ← List.map_append, ← List.map_append, ← List.filter_append, List.singleton_append]
    exact ⟨rfl, rfl⟩

theorem functions_readClass (s : Source) (t : Term) :
    (readClass s t).filterMap (·.function?) =
      ((t.nodesIn "body").filter isMethod).map (readFunction s (some (nameOf t))) := by
  have methods := (members_foldl_add s (nameOf t) (kindOf t) {} (t.nodesIn "body")).1
  simp [readClass, methods, Declaration.function?, List.filterMap_map, Function.comp_def]

/-- The first declaration of a class is the class. -/
theorem isClass_of_mem_readClass {s : Source} {t : Term} {c : TypeDecl}
    (h : (readClass s t).head? = some (.type c)) : IsClass s t c := by
  have methods := (members_foldl_add s (nameOf t) (kindOf t) {} (t.nodesIn "body")).2
  have isFirst := h
  rw [readClass, List.head?_cons, Option.some.injEq, Declaration.type.injEq] at h
  subst h
  exact ⟨isFirst, rfl, rfl, methods.trans (List.nil_append _), rfl⟩

theorem types_readClass (s : Source) (t : Term) :
    ∃ c, IsClass s t c ∧ (readClass s t).filterMap (·.type?) = [c] := by
  refine ⟨_, isClass_of_mem_readClass rfl, ?_⟩
  simp [readClass, Declaration.type?, List.filterMap_map]

theorem imports_readClass (s : Source) (t : Term) :
    (readClass s t).filterMap (·.import?) = [] := by
  simp [readClass, Declaration.import?, List.filterMap_map]

/-- **An alias is a type and nothing else.** -/
theorem readAlias_eq (s : Source) (t : Term) :
    readAlias s t = [] ∨ ∃ c, c.kind = .synonym ∧ readAlias s t = [.type c] := by
  rw [readAlias]
  split
  · exact .inl rfl
  · exact .inr ⟨_, rfl, rfl⟩

/-- A statement imports what its form tells. -/
theorem imports_readPlain (s : Source) (t : Term) :
    (readPlain s t).filterMap (·.import?) = importsOf t := by
  have ofAlias : (readAlias s t).filterMap (·.import?) = [] := by
    rcases readAlias_eq s t with none | ⟨c, -, one⟩
    · simp [none]
    · simp [one, Declaration.import?]
  rw [readPlain]
  split <;> rename_i kind
  · simp [importsOf, kind, readImport, Declaration.import?]
  · simp [importsOf, kind, Declaration.import?]
  · cases secondary : isSecondary t <;> simp [importsOf, kind, Declaration.import?]
  · cases secondary : isSecondary t <;> simp [importsOf, kind, Declaration.import?]
  · simp [importsOf, kind, imports_readClass]
  · simp [importsOf, kind, ofAlias]
  · simp [importsOf, kind, ofAlias]
  · simp [importsOf, kind, ofAlias]
  · simp [importsOf]

/-- A statement declares the functions that its form tells. -/
theorem functions_readPlain (s : Source) (t : Term) :
    (readPlain s t).filterMap (·.function?) = functionsOf s t := by
  have ofAlias : (readAlias s t).filterMap (·.function?) = [] := by
    rcases readAlias_eq s t with none | ⟨c, -, one⟩
    · simp [none]
    · simp [one, Declaration.function?]
  rw [readPlain]
  split <;> rename_i kind
  · simp [functionsOf, kind, readImport, Declaration.function?]
  · simp [functionsOf, kind, Declaration.function?]
  · cases secondary : isSecondary t <;> simp [functionsOf, kind, secondary, Declaration.function?]
  · cases secondary : isSecondary t <;> simp [functionsOf, kind, secondary, Declaration.function?]
  · simp [functionsOf, kind, functions_readClass]
  · simp [functionsOf, kind, ofAlias]
  · simp [functionsOf, kind, ofAlias]
  · simp [functionsOf, kind, ofAlias]
  · simp [functionsOf]

/-- The types among declarations that are no aliases. -/
def classesAmong (ds : List Declaration) : List TypeDecl :=
  (ds.filterMap (·.type?)).filter (·.kind != .synonym)

/-- Among the types of a statement the classes are those of its form. -/
theorem classes_readPlain (s : Source) (t : Term) :
    List.Forall₂ (IsClass s) ([t].filter (·.kind == "ClassDef"))
      (classesAmong (readPlain s t)) := by
  have ofAlias : classesAmong (readAlias s t) = [] := by
    rcases readAlias_eq s t with none | ⟨c, synonym, one⟩
    · simp [classesAmong, none]
    · simp [classesAmong, one, Declaration.type?, synonym]
  rw [readPlain]
  split <;> rename_i kind
  · simp [classesAmong, kind, readImport, Declaration.type?]
  · simp [classesAmong, kind, Declaration.type?]
  · cases secondary : isSecondary t <;> simp [classesAmong, kind, Declaration.type?]
  · cases secondary : isSecondary t <;> simp [classesAmong, kind, Declaration.type?]
  · obtain ⟨c, isClass, types⟩ := types_readClass s t
    have plain : c.kind ≠ .synonym := isClass.kind ▸ kindOf_ne_synonym t
    simp [classesAmong, kind, types, plain, isClass]
  · simp [kind, ofAlias]
  · simp [kind, ofAlias]
  · simp [kind, ofAlias]
  · simp_all [classesAmong]

/-! ## Files -/

/-- Whether an outline holds the imports, functions and classes of these statements, in order. -/
structure Declares (s : Source) (statements : List Term) (o : FileOutline) : Prop where
  imports : o.imports = statements.flatMap importsOf
  functions : o.functions = statements.flatMap (functionsOf s)
  classes : List.Forall₂ (IsClass s) (statements.filter (·.kind == "ClassDef"))
    (o.types.filter (·.kind != .synonym))

/-- Whether a statement declares no import, function or class. -/
structure IsSilent (s : Source) (t : Term) : Prop where
  imports : importsOf t = []
  functions : functionsOf s t = []
  kind : t.kind ≠ "ClassDef"

/-- The classes among the types of many statements are those of their forms, in order. -/
theorem classes_flatMap (s : Source) (statements : List Term) :
    List.Forall₂ (IsClass s) (statements.filter (·.kind == "ClassDef"))
      (classesAmong (statements.flatMap (readPlain s))) := by
  induction statements with
  | nil => exact .nil
  | cons t ts ih =>
    have split : classesAmong ((t :: ts).flatMap (readPlain s)) =
        classesAmong (readPlain s t) ++ classesAmong (ts.flatMap (readPlain s)) := by
      simp [classesAmong, List.filterMap_append]
    rw [split, ← List.singleton_append, List.filter_append]
    exact List.rel_append (classes_readPlain s t) ih

/-- The reader declares what the reached statements of a file declare. -/
theorem declares_reached (path : String) (bytes : List UInt8) (root : Term) :
    Declares (source path bytes) (root.reached blocks)
      (Reader.read .python path bytes (.abstract root)) where
  imports := by
    rw [Reader.read, Python.read, readStatement_eq_flatMap]
    simp only [FileOutline.ofDeclarations, List.filterMap_flatMap, imports_readPlain]
  functions := by
    rw [Reader.read, Python.read, readStatement_eq_flatMap]
    simp only [FileOutline.ofDeclarations, List.filterMap_flatMap, functions_readPlain]
  classes := by
    rw [Reader.read, Python.read, readStatement_eq_flatMap]
    exact classes_flatMap (source path bytes) (root.reached blocks)

/-! ## Handlers -/

/-- The kinds of nodes that blocks are made of in the text. -/
def blocksAndHandlers : List String := "ExceptHandler" :: blocks

/-- The nodes below blocks and handlers, below at least one handler. -/
def handled (root : Term) : List Term :=
  (((root.occurrences []).filter (·.above.all blocksAndHandlers.contains)).filter
    (!·.above.all blocks.contains)).map (·.term)

/-- Below blocks alone less is reached than below blocks and handlers. -/
theorem reached_filter (root : Term) :
    root.reached blocks =
      (((root.occurrences []).filter (·.above.all blocksAndHandlers.contains)).filter
        (·.above.all blocks.contains)).map (·.term) := by
  have wider (o : Occurrence) :
      (o.above.all blocks.contains && o.above.all blocksAndHandlers.contains) =
        o.above.all blocks.contains := by
    simp [blocksAndHandlers]
    grind
  rw [List.filter_filter, Term.reached]
  simp only [wider]

theorem perm_handled (root : Term) :
    (root.reached blocks ++ handled root).Perm (root.reached blocksAndHandlers) := by
  rw [reached_filter, handled, ← List.map_append]
  exact (List.filter_append_perm _ _).map _

/-- Statements that give nothing may be left out. -/
theorem flatMap_filter {α β : Type} {p : α → Bool} {f : α → List β} {l : List α}
    (h : ∀ a ∈ l, p a = false → f a = []) : (l.filter p).flatMap f = l.flatMap f := by
  induction l with
  | nil => rfl
  | cons a l ih =>
    have rest := ih fun b hb => h b (List.mem_cons_of_mem a hb)
    cases pa : p a with
    | true => rw [List.filter_cons_of_pos pa, List.flatMap_cons, List.flatMap_cons, rest]
    | false =>
      rw [List.filter_cons_of_neg (by simp [pa]), List.flatMap_cons, rest,
        h a List.mem_cons_self pa, List.nil_append]

section

variable {s : Source} {root : Term} {o : FileOutline}

/-- Where handlers yield nothing, both ways of reading yield the same. -/
theorem flatMap_reached {β : Type} {f : Term → List β} (h : ∀ t ∈ handled root, f t = []) :
    (root.reached blocks).flatMap f = (root.reached blocksAndHandlers).flatMap f := by
  rw [reached_filter, Term.reached, List.flatMap_map, List.flatMap_map]
  refine flatMap_filter fun occurrence there above => h _ (List.mem_map.2 ⟨occurrence, ?_, rfl⟩)
  exact List.mem_filter.2 ⟨there, by rw [above]; rfl⟩

/-- Where both ways yield equally much, handlers yield nothing. -/
theorem eq_nil_of_flatMap_reached {β : Type} {f : Term → List β}
    (h : ((root.reached blocks).flatMap f).length =
      ((root.reached blocksAndHandlers).flatMap f).length) : ∀ t ∈ handled root, f t = [] := by
  have lengths := ((perm_handled root).flatMap_right f).length_eq
  rw [List.flatMap_append, List.length_append, h, Nat.add_eq_left,
    List.length_eq_zero_iff] at lengths
  exact List.flatMap_eq_nil_iff.1 lengths

/-- The classes among statements are taken one statement after the other. -/
theorem filter_eq_flatMap (statements : List Term) :
    statements.filter (·.kind == "ClassDef") =
      statements.flatMap fun t => if t.kind = "ClassDef" then [t] else [] := by
  induction statements with
  | nil => rfl
  | cons t ts ih => by_cases kind : t.kind = "ClassDef" <;> simp [kind, ih]

/-- **Reading handlers too makes a difference exactly if something there declares anything.** -/
theorem declares_handled_iff (h : Declares s (root.reached blocks) o) :
    Declares s (root.reached blocksAndHandlers) o ↔ ∀ t ∈ handled root, IsSilent s t := by
  constructor
  · intro all t ht
    refine ⟨eq_nil_of_flatMap_reached ?_ t ht, eq_nil_of_flatMap_reached ?_ t ht, fun kind => ?_⟩
    · rw [← h.imports, ← all.imports]
    · rw [← h.functions, ← all.functions]
    · have same := h.classes.length_eq.trans all.classes.length_eq.symm
      rw [filter_eq_flatMap, filter_eq_flatMap] at same
      have none := eq_nil_of_flatMap_reached same t ht
      simp [kind] at none
  · intro silent
    refine ⟨?_, ?_, ?_⟩
    · rw [h.imports, flatMap_reached fun t ht => (silent t ht).imports]
    · rw [h.functions, flatMap_reached fun t ht => (silent t ht).functions]
    · rw [filter_eq_flatMap, ← flatMap_reached fun t ht => if_neg (silent t ht).kind,
        ← filter_eq_flatMap]
      exact h.classes

end

/-- **A file declares what the statements below its blocks declare, in order.**  What stands below a
handler is overlooked: the file declares what the statements below blocks and handlers declare
exactly if none below a handler declares anything. -/
theorem read_declares (path : String) (bytes : List UInt8) (root : Term) :
    let s := source path bytes
    let o := Reader.read .python path bytes (.abstract root)
    Declares s (root.reached blocks) o ∧
      (Declares s (root.reached blocksAndHandlers) o ↔ ∀ t ∈ handled root, IsSilent s t) :=
  have reached := declares_reached path bytes root
  ⟨reached, declares_handled_iff reached⟩

/-- The statement that imports a module. -/
def importStatement (name : String) (line : Nat) : Term :=
  .node "body" "Import" line line "" [.node "names" "alias" 0 0 "" [.word "name" name]]

/-- An import that a second one stands in for where the first module is missing. -/
def fallbackImport : Term :=
  .node "" "Module" 0 0 ""
    [.node "body" "Try" 1 4 ""
      [importStatement "tomllib" 2,
        .node "handlers" "ExceptHandler" 0 0 "" [importStatement "tomli" 4]]]

/-- The text of the file. -/
def fallbackText : List UInt8 :=
  Text.Utf8.encode
    "try:\n    import tomllib\nexcept ImportError:\n    import tomli\n".toList

/-- **A fallback import is overlooked.**  Both imports stand below blocks and handlers only, and the
second is not recorded. -/
theorem fallback_import_is_overlooked :
    let o := Reader.read .python "app.py" fallbackText (.abstract fallbackImport)
    (fallbackImport.reached blocksAndHandlers).flatMap importsOf =
        [{ path := "tomllib" }, { path := "tomli" }] ∧
      o.imports = [{ path := "tomllib" }] ∧
      ¬ Declares (source "app.py" fallbackText) (fallbackImport.reached blocksAndHandlers) o := by
  intro o
  have stated : (fallbackImport.reached blocksAndHandlers).flatMap importsOf =
      [{ path := "tomllib" }, { path := "tomli" }] := by decide
  have recorded : o.imports = [{ path := "tomllib" }] := rfl
  refine ⟨stated, recorded, fun declares => ?_⟩
  have same := recorded.symm.trans (declares.imports.trans stated)
  simp at same

end Reader.Python
end Concord
