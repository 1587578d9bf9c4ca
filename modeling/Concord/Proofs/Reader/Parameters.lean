import Mathlib.Data.List.Basic
import Concord.Reader.Python

/-!
# Concord.Proofs.Reader.Parameters

The parameters that are recorded of a Python function, told by its arguments.

```
def f(self, a, /, b=1, *rest, c, d=2, **more)
          a       b=1  rest   c  d=2  more
```

* `exists_positionalPairs` — the defaults belong to the last of the positional arguments, one to
  each, and those in front of them have none;
* `dropReceiver_eq_drop` — the object or the class of a bound method is dropped behind that, so that
  no default moves;
* `areParametersOf_parameters` — so the parameters stand in the order of the arguments, each with its
  own default, and only those that take any number of arguments are variadic.

`areParametersOf_readFunction` says it of a function in a file.
-/

namespace Concord.Reader.Python

namespace Arguments

/-! ## Parameters of single arguments -/

/-- The parameter of an argument that has to be given. -/
def required (x : Argument) : Parameter := { name := x.name, type := text? x.hint? }

/-- The parameter of an argument with a default. -/
def optional (x : Argument) (default : Term) : Parameter :=
  { name := x.name, type := text? x.hint?, isOptional := true, default? := some default.text }

/-- The parameter of an argument that has to be given by name. -/
def byName (x : Argument) (default? : Option Term) : Parameter :=
  default?.elim (required x) (optional x)

theorem parameter_eq_byName (x : Argument) (default? : Option Term) :
    parameter (x, default?) = byName x default? := by
  cases default? <;> rfl

/-- The parameter for further arguments by position. -/
def further (x : Argument) : Parameter :=
  let type := text? x.hint?
  { name := x.name, type := if type = "" then "" else "list[" ++ type ++ "]", isVariadic := true }

/-- The parameter for further arguments by name. -/
def furtherByName (x : Argument) : Parameter :=
  let type := text? x.hint?
  { name := x.name, type := if type = "" then "" else "dict[str, " ++ type ++ "]"
    isVariadic := true }

theorem restParameter_list (x : Argument) : restParameter "list[" "]" x = further x := by
  simp [restParameter, further]

theorem restParameter_dict (x : Argument) : restParameter "dict[str, " "]" x = furtherByName x := by
  simp [restParameter, furtherByName]

/-! ## Parameters of a function -/

/-- How many arguments in front are not recorded: of a bound method the first, if it is called like
the object or the class that the method belongs to. -/
def dropped (a : Arguments) (isBound : Bool) : Nat :=
  if isBound && (a.positionalOnly ++ a.ordinary).head?.any isReceiver then 1 else 0

/-- Whether parameters are those of arguments, without the first `dropped`. -/
structure AreParametersOf (a : Arguments) (dropped : Nat) (ps : List Parameter) : Prop where
  names : ps.map (·.name) =
    ((a.positionalOnly ++ a.ordinary).drop dropped ++ a.rest?.toList ++ a.keywordOnly ++
      a.keywordRest?.toList).map (·.name)
  defaults : ∃ front back, a.positionalOnly ++ a.ordinary = front ++ back ∧
    back.length = a.defaults.length ∧
    ps = (front.map required ++ List.zipWith optional back a.defaults).drop dropped ++
      a.rest?.toList.map further ++ List.zipWith byName a.keywordOnly a.keywordDefaults ++
      a.keywordRest?.toList.map furtherByName
  variadic : ps.filter (·.isVariadic) =
    a.rest?.toList.map further ++ a.keywordRest?.toList.map furtherByName

/-- A row padded with nothing has nothing beside each member. -/
theorem zip_replicate_none {α β : Type} (l : List α) :
    l.zip (List.replicate l.length (none : Option β)) = l.map (·, none) := by
  induction l with
  | nil => rfl
  | cons x l ih => rw [List.length_cons, List.replicate_succ, List.zip_cons_cons, ih, List.map_cons]

variable {a : Arguments}

/-- **The defaults belong to the last positional arguments.** -/
theorem exists_positionalPairs (h : a.defaults.length ≤ a.positional.length) :
    ∃ front back, a.positional = front ++ back ∧ back.length = a.defaults.length ∧
      a.positionalPairs =
        front.map (·, none) ++ List.zipWith (fun x default => (x, some default)) back a.defaults := by
  obtain ⟨front, back, split, same⟩ :
      ∃ front back, a.positional = front ++ back ∧ back.length = a.defaults.length := by
    refine ⟨_, _, (List.take_append_drop (a.positional.length - a.defaults.length) _).symm, ?_⟩
    rw [List.length_drop]
    omega
  have padding : (front ++ back).length - a.defaults.length = front.length := by
    rw [List.length_append, same, Nat.add_sub_cancel]
  refine ⟨front, back, split, same, ?_⟩
  rw [positionalPairs, split, padding, List.zip_append List.length_replicate.symm,
    zip_replicate_none, List.zip_eq_zipWith, List.zipWith_map_right]

/-- The positional arguments stand in order, whatever their defaults. -/
theorem map_fst_positionalPairs : a.positionalPairs.map (·.1) = a.positional := by
  rw [positionalPairs, List.map_fst_zip]
  simp only [List.length_append, List.length_replicate, List.length_map]
  omega

/-- A bound function drops its receiver, the first positional argument. -/
theorem dropReceiver_eq_drop (isBound : Bool) :
    (if isBound then dropReceiver a.positionalPairs else a.positionalPairs) =
      a.positionalPairs.drop (a.dropped isBound) := by
  have first : (a.positionalOnly ++ a.ordinary).head? = a.positionalPairs.head?.map (·.1) := by
    rw [← List.head?_map, map_fst_positionalPairs, positional]
  rw [dropped, first]
  cases isBound with
  | false => rfl
  | true =>
    cases a.positionalPairs with
    | nil => rfl
    | cons p ps => cases receiver : isReceiver p.1 <;> simp [dropReceiver, receiver]

/-- The parameters in one row. -/
theorem exists_parameters (h : a.defaults.length ≤ a.positional.length) (isBound : Bool) :
    ∃ front back, a.positional = front ++ back ∧ back.length = a.defaults.length ∧
      a.parameters isBound =
        (front.map required ++ List.zipWith optional back a.defaults).drop (a.dropped isBound) ++
          a.rest?.toList.map further ++ List.zipWith byName a.keywordOnly a.keywordDefaults ++
          a.keywordRest?.toList.map furtherByName := by
  obtain ⟨front, back, split, same, pairs⟩ := exists_positionalPairs h
  have positional : a.positionalPairs.map parameter =
      front.map required ++ List.zipWith optional back a.defaults := by
    rw [pairs, List.map_append, List.map_map, List.map_zipWith]
    rfl
  have keyword : (a.keywordOnly.zip a.keywordDefaults).map parameter =
      List.zipWith byName a.keywordOnly a.keywordDefaults := by
    rw [List.zip_eq_zipWith, List.map_zipWith]
    simp only [parameter_eq_byName]
  refine ⟨front, back, split, same, ?_⟩
  rw [parameters, dropReceiver_eq_drop, List.map_drop, positional, keyword]
  cases a.rest? <;> cases a.keywordRest? <;> simp [restParameter_list, restParameter_dict]

section Members

variable {β : Type} {make : Argument → β → Parameter} {xs : List Argument} {ys : List β}

/-- Parameters that are made of arguments keep their names. -/
theorem map_name_zipWith (named : ∀ x y, (make x y).name = x.name) (same : xs.length = ys.length) :
    (List.zipWith make xs ys).map (·.name) = xs.map (·.name) := by
  have each : (·.name) ∘ Function.uncurry make = (·.name) ∘ Prod.fst :=
    funext fun p => named p.1 p.2
  rw [← List.map_uncurry_zip_eq_zipWith, List.map_map, each, ← List.map_map,
    List.map_fst_zip (Nat.le_of_eq same)]

/-- Single parameters have no variadic one among them. -/
theorem filter_isVariadic_zipWith (single : ∀ x y, (make x y).isVariadic = false) :
    (List.zipWith make xs ys).filter (·.isVariadic) = [] := by
  rw [← List.map_uncurry_zip_eq_zipWith, List.filter_eq_nil_iff, List.forall_mem_map]
  intro p _
  exact ne_true_of_eq_false (single p.1 p.2)

end Members

theorem name_byName (x : Argument) (default? : Option Term) : (byName x default?).name = x.name := by
  cases default? <;> rfl

theorem isVariadic_byName (x : Argument) (default? : Option Term) :
    (byName x default?).isVariadic = false := by
  cases default? <;> rfl

/-- **Parameters stand in the order of the arguments, each with its own default.** -/
theorem areParametersOf_parameters (positional : a.defaults.length ≤ a.positional.length)
    (keyword : a.keywordDefaults.length = a.keywordOnly.length) (isBound : Bool) :
    AreParametersOf a (a.dropped isBound) (a.parameters isBound) := by
  obtain ⟨front, back, split, same, row⟩ := exists_parameters positional isBound
  have own : a.positionalOnly ++ a.ordinary = front ++ back := split
  have names : (front.map required ++ List.zipWith optional back a.defaults).map (·.name) =
      (front ++ back).map (·.name) := by
    rw [List.map_append, List.map_append, map_name_zipWith (fun _ _ => rfl) same, List.map_map]
    rfl
  have single : ((front.map required ++ List.zipWith optional back a.defaults).drop
      (a.dropped isBound)).filter (·.isVariadic) = [] := by
    have all : (front.map required ++ List.zipWith optional back a.defaults).filter
        (·.isVariadic) = [] := by
      rw [List.filter_append, filter_isVariadic_zipWith fun _ _ => rfl, List.append_nil,
        List.filter_eq_nil_iff, List.forall_mem_map]
      exact fun x _ => Bool.false_ne_true
    exact List.sublist_nil.1 (all ▸ (List.drop_sublist _ _).filter _)
  refine ⟨?_, ⟨front, back, own, same, row⟩, ?_⟩
  · rw [row, own, List.map_append, List.map_append, List.map_append, List.map_drop, names,
      ← List.map_drop, map_name_zipWith name_byName keyword.symm]
    simp only [List.map_append, List.map_map]
    rfl
  · rw [row, List.filter_append, List.filter_append, List.filter_append, single,
      filter_isVariadic_zipWith isVariadic_byName]
    cases a.rest? <;> cases a.keywordRest? <;> rfl

end Arguments

/-! ## Functions in a file -/

/-- **The parameters that are recorded of a function are those of its arguments.**  They stand in
order: the positional arguments, of which a method that is not static leaves out a first one for its
object or class, those given by name, and behind either the one that takes all further ones.  The
defaults belong to the last positional arguments, counted before any is left out. -/
theorem areParametersOf_readFunction (s : Source) (receiver? : Option String) {t arguments : Term}
    (own : t.node? "args" = some arguments)
    (positional : (arguments.nodesIn "defaults").length ≤
      (arguments.nodesIn "posonlyargs").length + (arguments.nodesIn "args").length)
    (keyword : (arguments.placesIn "kw_defaults").length =
      (arguments.nodesIn "kwonlyargs").length) :
    let f := readFunction s receiver? t
    let a := Arguments.ofTerm arguments
    a.AreParametersOf (a.dropped (f.isMethod && !(decorators t).contains "staticmethod"))
      f.parameters := by
  intro f a
  have recorded : f.parameters =
      a.parameters (f.isMethod && !(decorators t).contains "staticmethod") := by
    simp only [f, readFunction, own, Option.map_some, Option.getD_some]
    rfl
  rw [recorded]
  refine Arguments.areParametersOf_parameters ?_ ?_ _
  · simpa [a, Arguments.ofTerm, Arguments.positional] using positional
  · simpa [a, Arguments.ofTerm] using keyword

/-- An argument in a role, with a name for its annotation. -/
def argumentTerm (role name : String) (hint : Term) : Term :=
  .node role "arg" 0 0 "" [.word "arg" name, hint]

/-- The arguments `self, a, /, b=1, *rest: int, c, d=2, **more`. -/
def argumentsTerm : Term :=
  let bare : Term := .absent "annotation"
  .node "args" "arguments" 0 0 "self, a, /, b=1, *rest: int, c, d=2, **more"
    [argumentTerm "posonlyargs" "self" bare, argumentTerm "posonlyargs" "a" bare,
     argumentTerm "args" "b" bare,
     argumentTerm "vararg" "rest" (.node "annotation" "Name" 0 0 "int" [.word "id" "int"]),
     argumentTerm "kwonlyargs" "c" bare, argumentTerm "kwonlyargs" "d" bare,
     .absent "kw_defaults", .literal "kw_defaults" "2" .other, argumentTerm "kwarg" "more" bare,
     .literal "defaults" "1" .other]

/-- The object of a method is left out, and the default of `b` stays with `b`. -/
theorem areParametersOf_readFunction_method :
    let t : Term := .node "body" "FunctionDef" 2 2 ""
      [.word "name" "f", argumentsTerm, .node "body" "Pass" 2 2 "" [], .absent "returns"]
    let f := readFunction (source "app.py" []) (some "A") t
    f.parameters =
        [{ name := "a" }, { name := "b", isOptional := true, default? := some "1" },
         { name := "rest", type := "list[int]", isVariadic := true }, { name := "c" },
         { name := "d", isOptional := true, default? := some "2" },
         { name := "more", isVariadic := true }] ∧
      (Arguments.ofTerm argumentsTerm).AreParametersOf 1 f.parameters := by
  intro t f
  have own : t.node? "args" = some argumentsTerm := rfl
  have law := areParametersOf_readFunction (source "app.py" []) (some "A") own (by decide)
    (by decide)
  exact ⟨by decide, law⟩

end Concord.Reader.Python
