import Mathlib.Data.List.Nodup
import Concord.Outline.Files
import Concord.Proofs.Outline.Whole
import Concord.Proofs.Syntax.Tree

/-!
# Concord.Proofs.Outline.PathOrder

The order in which files come makes no difference to the outline of a project, although the outline
depends on the order in which they are merged: they are merged by their paths.

* `IsPathOrder.eligible_eq` — files with different paths stand in one order only;
* `exists_isWinner` — of several types with one name, the one in the file with the least path counts;
* `ofFiles_eq_of_perm` — so all orders of the files give one outline.
-/

namespace Concord.Outline

/-- What a file declares. -/
def outlineOf (language : Language) (f : SourceFile) : FileOutline :=
  Reader.read language f.path f.bytes f.parsed

/-- Whether some files are those of the others that count in a project, by their paths. -/
structure IsPathOrder (language : Language) (includeTests : Bool)
    (ordered files : List SourceFile) : Prop where
  perm : ordered.Perm (files.filter fun f => isEligible language includeTests f.path)
  increasing : ordered.Pairwise (·.path < ·.path)

/-- Whether a type is the one that counts under its name, and is declared by this file: the file is
the first by path that declares such a type, and the type is the first one in it. -/
structure IsWinner (language : Language) (functions : List FunctionDecl) (ordered : List SourceFile)
    (t : TypeDecl) (f : SourceFile) : Prop where
  mem : f ∈ ordered
  declared : ∃ d, (outlineOf language f).types.find? (·.name == t.name) = some d ∧
    IsCompletionOf functions d t
  least : ∀ g ∈ ordered, t.name ∈ (outlineOf language g).types.map (·.name) → f.path ≤ g.path

variable {language : Language} {includeTests : Bool} {ordered files files' : List SourceFile}

theorem ofFiles_eq_merge (name : Document.Value) (root : String) (localPrefixes : List String) :
    ofFiles language includeTests files name root localPrefixes =
      merge language ((eligible language includeTests files).map (outlineOf language)) name root
        localPrefixes := rfl

/-! ## The order of files -/

/-- Eligible files stand by their paths. -/
theorem pairwise_eligible : (eligible language includeTests files).Pairwise (·.path ≤ ·.path) := by
  have sorted : (files.mergeSort fun a b => a.path ≤ b.path).Pairwise
      fun a b => decide (a.path ≤ b.path) = true :=
    List.pairwise_mergeSort (fun a b c => by simpa using String.le_trans)
      (fun a b => by simpa using String.le_total a.path b.path) _
  exact (sorted.imp fun hab => of_decide_eq_true hab).filter _

theorem eligible_perm : (eligible language includeTests files).Perm
    (files.filter fun f => isEligible language includeTests f.path) :=
  (List.mergeSort_perm files _).filter _

/-- Files with different paths are put into the order of their paths. -/
theorem isPathOrder_eligible (distinct : (files.map (·.path)).Nodup) :
    IsPathOrder language includeTests (eligible language includeTests files) files where
  perm := eligible_perm
  increasing := by
    have different : ((eligible language includeTests files).map (·.path)).Nodup :=
      ((eligible_perm.map _).nodup_iff).2 (distinct.sublist (List.filter_sublist.map _))
    rw [List.Nodup, List.pairwise_map] at different
    refine (pairwise_eligible.and different).imp fun {a b} hab => ?_
    exact String.not_le.1 fun hba => hab.2 (String.le_antisymm hab.1 hba)

/-- **There is only one such order.** -/
theorem IsPathOrder.eligible_eq (h : IsPathOrder language includeTests ordered files) :
    eligible language includeTests files = ordered := by
  have different : (ordered.map (·.path)).Nodup := by
    rw [List.Nodup, List.pairwise_map]
    refine h.increasing.imp fun {a b} before (same : a.path = b.path) => ?_
    exact String.lt_irrefl _ (same ▸ before)
  have perm := eligible_perm.trans h.perm.symm
  have weak : ordered.Pairwise (·.path ≤ ·.path) :=
    h.increasing.imp fun before => String.not_lt.1 (String.lt_asymm before)
  refine List.Perm.eq_of_pairwise (fun a b ha hb hab hba => ?_) pairwise_eligible weak perm
  exact List.inj_on_of_nodup_map different (perm.mem_iff.1 ha) hb (String.le_antisymm hab hba)

/-- It does not depend on the order in which the files come. -/
theorem IsPathOrder.of_perm (h : IsPathOrder language includeTests ordered files)
    (perm : files.Perm files') : IsPathOrder language includeTests ordered files' :=
  ⟨h.perm.trans (perm.filter _), h.increasing⟩

/-! ## Types of one name -/

/-- **Of several types with one name, the one in the file with the least path counts.** -/
theorem exists_isWinner (increasing : ordered.Pairwise (·.path < ·.path)) {t : TypeDecl}
    (h : t ∈ mergedTypes (ordered.map (outlineOf language))) :
    ∃ f, IsWinner language ((ordered.map (outlineOf language)).flatMap (·.functions)) ordered t f := by
  obtain ⟨d, first, completion⟩ := exists_declared_of_mem_mergedTypes h
  rw [List.find?_flatMap, List.findSome?_map, List.findSome?_eq_some_iff] at first
  obtain ⟨ahead, f, behind, rfl, found, passed⟩ := first
  refine ⟨f, by simp, ⟨d, found, completion⟩, fun g hg declares => ?_⟩
  rw [List.pairwise_append, List.pairwise_cons] at increasing
  rcases List.mem_append.1 hg with before | after
  · -- files in front of it declare no such type
    obtain ⟨e, he, name⟩ := List.mem_map.1 declares
    have other := List.find?_eq_none.1 (passed g before) e he
    simp [name] at other
  · rcases List.mem_cons.1 after with rfl | after
    · exact String.le_refl _
    · exact String.not_lt.1 (String.lt_asymm (increasing.2.1.1 g after))

/-- **All orders of the files of a project give one outline, and the same warnings**: that of the
files that count, merged by their paths.  In it, of several types with one name, the one in the file
with the least path counts. -/
theorem ofFiles_eq_of_perm (perm : files.Perm files') (distinct : (files.map (·.path)).Nodup)
    (language : Language) (includeTests : Bool) (name : Document.Value) (root : String)
    (localPrefixes : List String) :
    let o := ofFiles language includeTests files name root localPrefixes
    ofFiles language includeTests files' name root localPrefixes = o ∧
      warnings language includeTests files' = warnings language includeTests files ∧
      ∃ ordered, IsPathOrder language includeTests ordered files ∧
        o = merge language (ordered.map (outlineOf language)) name root localPrefixes ∧
        ∀ t ∈ o.types, ∃ f, IsWinner language o.functions ordered t f := by
  intro o
  have order : IsPathOrder language includeTests (eligible language includeTests files) files :=
    isPathOrder_eligible distinct
  have same := (order.of_perm perm).eligible_eq
  refine ⟨?_, ?_, _, order, rfl, fun t ht => exists_isWinner order.increasing ht⟩
  · rw [ofFiles_eq_merge, same]
    rfl
  · rw [warnings, same, warnings]

/-- Two files that declare types of one name, in either order. -/
theorem ofFiles_eq_of_perm_collision :
    let leaf (role : String) (start : Nat) : Node :=
      .mk "type_identifier" true false start (start + 1) role []
    let node (kind : String) (start : Nat) : List Node → Node := .mk kind true false start 8 ""
    let declaring (path text : String) : SourceFile :=
      .onText path text <| node "source_file" 0
        [node "type_declaration" 0 [node "type_spec" 5 [leaf "name" 5, leaf "type" 7]]]
    let a := declaring "a.go" "type T U"
    let b := declaring "b.go" "type T V"
    [b, a].Perm [a, b] ∧ ([b, a].map (·.path)).Nodup ∧
      ofFiles .go false [a, b] = ofFiles .go false [b, a] ∧
      (ofFiles .go false [b, a]).types.map (·.aliasOf?) = [some "U"] := by
  intro leaf node declaring a b
  have perm : [b, a].Perm [a, b] := .swap a b []
  have distinct : ([b, a].map (·.path)).Nodup := by decide
  obtain ⟨same, -⟩ := ofFiles_eq_of_perm perm distinct .go false (.text "") "" []
  have counting : [b, a].filter (fun f => isEligible .go false f.path) = [b, a] :=
    List.filter_eq_self.2 (by decide +kernel)
  have order : IsPathOrder .go false [a, b] [b, a] :=
    ⟨by rw [counting]; exact perm.symm, List.pairwise_pair.2 (by decide +kernel)⟩
  refine ⟨perm, distinct, same, ?_⟩
  rw [ofFiles_eq_merge, order.eligible_eq]
  decide +kernel

end Concord.Outline
