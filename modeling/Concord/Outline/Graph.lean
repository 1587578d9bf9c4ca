import Concord.Symbol

/-!
# Concord.Outline.Graph

The two graphs over the names of a project: which names the functions call, and which types each
type implements.  Where a language has structural interfaces, a type implements every interface all
of whose methods it has.
-/

namespace Concord.Outline

/-- The names called by the functions of each name.  Functions that share a name share an entry. -/
def callGraph (functions : List FunctionDecl) : NameTable :=
  functions.foldl (fun graph f => graph.update f.name (addNames · f.calls)) []

/-- The types that are declared to be implemented, for each type that implements one. -/
def declaredGraph (types : List TypeDecl) : NameTable :=
  types.foldl
    (fun graph t => if t.implements.isEmpty then graph else graph.update t.name fun _ => t.implements)
    []

/-- Whether `t` has every method of the interface `i`, which has at least one. -/
def satisfies (t i : TypeDecl) : Bool :=
  i.kind == .interface && !i.methods.isEmpty && i.methods.all t.methods.contains

/-- Adds to a graph every interface that a type satisfies and that is not declared for it. -/
def addSatisfied (interfaces : List TypeDecl) (graph : NameTable) (t : TypeDecl) : NameTable :=
  if t.kind == .interface then graph
  else
    (interfaces.filter (satisfies t)).foldl
      (fun graph i => graph.update t.name (addName · i.name)) graph

/-- The types that each type implements; `isStructural` tells whether having the methods of an
interface is enough. -/
def typeGraph (isStructural : Bool) (types : List TypeDecl) : NameTable :=
  if isStructural then types.foldl (addSatisfied types) (declaredGraph types)
  else declaredGraph types

end Concord.Outline
