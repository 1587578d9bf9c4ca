import Concord.Language.Library
import Concord.Symbol

/-!
# Concord.Outline.Dependencies

What a project depends on: every import path once, in the order of first occurrence, with the
paths of the project itself and of the standard library told from all others.
-/

namespace Concord.Outline

/-- The beginnings of paths that lead to the project itself in any language. -/
def localMarks : List String := [".", "crate::", "self::", "super::"]

/-- Whether a path leads to the project itself, by one of the general marks or one of the
project's own. -/
def isLocalImport (localPrefixes : List String) (path : String) : Bool :=
  (localMarks ++ localPrefixes).any (Text.begins · path.toList)

/-- What is known of an import path. -/
def dependency (language : Language) (localPrefixes : List String) (path : String) : Dependency :=
  let isLocal := isLocalImport localPrefixes path
  { path, isLocal, isStandard := !isLocal && language.isStandardImport path }

/-- The dependencies of a project. -/
def dependenciesOf (language : Language) (localPrefixes : List String) (files : List FileOutline) :
    List Dependency :=
  (addNames [] ((files.flatMap (·.imports)).map (·.path))).map (dependency language localPrefixes)

end Concord.Outline
