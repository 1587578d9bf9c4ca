import Concord.Outline.Merge

/-!
# Concord.Proofs.Outline.First

The first declaration of each type name.  Types are gone through from the front, and those that
count are kept; `firstDeclarations_cons` says this from the front as well: the first type counts,
and of the others those that count among themselves and have another name.
-/

namespace Concord.Outline

/-- Kept are the types that were kept before, and the first declarations of all other names. -/
theorem foldl_firstDeclarations (kept types : List TypeDecl) :
    types.foldl (fun kept t => if kept.any (·.name == t.name) then kept else kept ++ [t]) kept =
      kept ++ (firstDeclarations types).filter fun t => !kept.any (·.name == t.name) := by
  induction types generalizing kept with
  | nil => simp [firstDeclarations]
  | cons t ts ih =>
    -- the law for `[t]` tells what the first declarations of `t :: ts` are
    have cons : firstDeclarations (t :: ts) =
        t :: (firstDeclarations ts).filter fun u => !(t.name == u.name) := by
      simpa [firstDeclarations] using ih [t]
    rw [List.foldl_cons, ih, cons, List.filter_cons, List.filter_filter]
    by_cases known : kept.any (·.name == t.name) = true
    · have covered (u : TypeDecl) : (!kept.any (·.name == u.name) && !(t.name == u.name)) =
          !kept.any (·.name == u.name) := by
        by_cases same : t.name = u.name
        · rw [← same, known]
          rfl
        · simp [same]
      simp only [known, covered, if_true, Bool.not_true, Bool.false_eq_true, if_false]
    · simp only [known, Bool.not_false, Bool.false_eq_true, if_true, if_false, List.any_append,
        List.any_cons, List.any_nil, Bool.or_false, Bool.not_or, List.append_assoc,
        List.cons_append, List.nil_append]

/-- **The first type counts, and the first ones of all other names.** -/
theorem firstDeclarations_cons (t : TypeDecl) (ts : List TypeDecl) :
    firstDeclarations (t :: ts) = t :: (firstDeclarations ts).filter (t.name != ·.name) := by
  have kept := foldl_firstDeclarations [t] ts
  simpa [firstDeclarations, bne] using kept

/-- A first declaration is a declaration. -/
theorem mem_of_mem_firstDeclarations {types : List TypeDecl} {t : TypeDecl}
    (h : t ∈ firstDeclarations types) : t ∈ types := by
  induction types with
  | nil => exact h
  | cons u ts ih =>
    rw [firstDeclarations_cons] at h
    rcases List.mem_cons.1 h with rfl | h
    · exact List.mem_cons_self
    · exact List.mem_cons_of_mem _ (ih (List.mem_filter.1 h).1)

/-- Leaving a name out and taking first declarations can be done in either order. -/
theorem filter_firstDeclarations (name : String) (types : List TypeDecl) :
    (firstDeclarations types).filter (·.name != name) =
      firstDeclarations (types.filter (·.name != name)) := by
  induction types with
  | nil => rfl
  | cons t ts ih =>
    rw [firstDeclarations_cons, List.filter_cons, List.filter_cons, List.filter_filter]
    by_cases same : t.name = name
    · subst same
      have twice (u : TypeDecl) : (u.name != t.name && t.name != u.name) = (u.name != t.name) := by
        rw [bne_comm (a := t.name), Bool.and_self]
      simp only [bne_self_eq_false, Bool.false_eq_true, if_false, twice]
      exact ih
    · have kept : (t.name != name) = true := bne_iff_ne.2 same
      rw [if_pos kept, if_pos kept, firstDeclarations_cons, ← ih, List.filter_filter]
      simp only [Bool.and_comm]

end Concord.Outline
