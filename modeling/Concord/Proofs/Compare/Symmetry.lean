import Mathlib.Data.List.Zip
import Concord.Proofs.Compare.Match

/-!
# Concord.Proofs.Compare.Symmetry

Two functions match or differ, whichever of them is the reference.

* `anonymous_functionDifferences_comm` — the other way round the differences are the same, in the
  same order, except that parameters are called by the names of the other function;
* `matching_isSymmetric` — so the verdict and the number of differences are the same, no function
  differs from itself, and the verdict is told position by position.

The relation is no equivalence: `number` is compatible with `integer` and with `float`, which are
not compatible with each other.
-/

namespace Concord.Compare

theorem compatible_comm (a b : String) : compatible a b = compatible b a := by
  grind [compatible]

/-- A difference without the name of the parameter it is about. -/
def FunctionDifference.anonymous : FunctionDifference → FunctionDifference
  | parameterType _ => parameterType ""
  | parameterPointer _ => parameterPointer ""
  | d => d

/-- Two parameters differ in the same ways in both directions, the sides unnamed. -/
theorem anonymous_parameterDifferences_comm (isStrict : Bool) (p q : NeutralParameter) :
    (parameterDifferences isStrict p q).map (·.anonymous) =
      (parameterDifferences isStrict q p).map (·.anonymous) := by
  have type := compatible_comm p.type.base q.type.base
  have pointer : (p.type.isPointer != q.type.isPointer) = (q.type.isPointer != p.type.isPointer) :=
    bne_comm
  simp only [parameterDifferences, type, pointer, List.map_append]
  split_ifs <;> rfl

/-- Parameters by position differ in the same ways in both directions, the sides unnamed. -/
theorem anonymous_positions_comm (isStrict : Bool) (ps qs : List NeutralParameter) :
    ((ps.zip qs).flatMap fun (p, q) => parameterDifferences isStrict p q).map (·.anonymous) =
      ((qs.zip ps).flatMap fun (q, p) => parameterDifferences isStrict q p).map (·.anonymous) := by
  rw [← List.zip_swap ps qs]
  simp only [List.map_flatMap, List.flatMap_map, Prod.fst_swap, Prod.snd_swap,
    anonymous_parameterDifferences_comm isStrict (Prod.fst _) (Prod.snd _)]

/-- Returned values differ in the same ways in both directions. -/
theorem returnDifferences_comm (a b : List String) :
    returnDifferences a b = returnDifferences b a := by
  rw [returnDifferences, returnDifferences, ← List.zip_swap a b, List.filterMap_map]
  simp only [Function.comp_def, Prod.fst_swap, Prod.snd_swap, compatible_comm, ne_eq,
    eq_comm (a := a.length)]

/-- **The other way round two functions differ in the same points**, parameters being called by the
names of the other function. -/
theorem anonymous_functionDifferences_comm (isStrict : Bool) (a b : NeutralFunction) :
    (functionDifferences isStrict a b).map (·.anonymous) =
      (functionDifferences isStrict b a).map (·.anonymous) := by
  have async : (a.isAsync != b.isAsync) = (b.isAsync != a.isAsync) := bne_comm
  by_cases name : a.name = b.name
  · have count : a.parameters.length ≠ b.parameters.length ↔
        b.parameters.length ≠ a.parameters.length := ne_comm
    simp only [functionDifferences, name, ne_eq, not_true, if_false, List.map_append,
      anonymous_positions_comm isStrict a.parameters b.parameters,
      returnDifferences_comm a.returns b.returns, async, count]
  · rw [functionDifferences, functionDifferences, if_pos name, if_pos (Ne.symm name)]

/-- **Matching is reflexive and symmetric, and decided position by position.**  Two functions match
exactly if their names are equal, their parameters and what they return are as many and compatible
in each position, and in strict mode the pointers of the parameters and the asynchrony agree. -/
theorem matching_isSymmetric (isStrict : Bool) (a b : NeutralFunction) :
    functionDifferences isStrict a a = [] ∧
      (functionDifferences isStrict a b = [] ↔ functionDifferences isStrict b a = []) ∧
      (functionDifferences isStrict a b).length = (functionDifferences isStrict b a).length ∧
      (functionDifferences isStrict a b = [] ↔ FunctionsMatch isStrict a b) := by
  have length : (functionDifferences isStrict a b).length =
      (functionDifferences isStrict b a).length := by
    simpa using congrArg List.length (anonymous_functionDifferences_comm isStrict a b)
  have verdict : functionDifferences isStrict a b = [] ↔ functionDifferences isStrict b a = [] := by
    rw [← List.length_eq_zero_iff, length, List.length_eq_zero_iff]
  exact ⟨(functionDifferences_eq_nil_iff isStrict a a).2 (.refl isStrict a), verdict, length,
    functionDifferences_eq_nil_iff isStrict a b⟩

end Concord.Compare
