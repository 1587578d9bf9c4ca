import Mathlib.Data.List.Basic
import Mathlib.Data.Set.Card
import Concord.Proofs.Syntax.Tree
import Concord.Proofs.Table

/-!
# Concord.Proofs.Syntax.Walk

The walk through a concrete tree, which keeps what is left to visit on a stack, told by recursion on
the tree.  A node is addressed by the numbers of the children that lead down to it:

```
[]        source_file
[0]       ├── function_declaration
[0, 0]    │   └── identifier
[1]       └── comment
```

Addresses are ordered as lists of numbers, so that a node comes before those below it and these come
from left to right.

* `visit_eq_preorderAll` — what is visited from a stack are its trees, the top first, each in
  preorder;
* `enumerates_preorder` — the preorder holds the node at every address of the tree, in the order of
  addresses, so that it holds every node once;
* `walk_enumerates` — so what is counted, collected and found on a walk is told by the tree.
-/

namespace Concord

namespace Node

/-! ## Preorder -/

mutual

/-- The node, and those below it child by child. -/
def preorder : Node → List Node
  | mk kind isNamed isMissing start stop role children =>
    mk kind isNamed isMissing start stop role children :: preorderAll children

/-- The same for several trees, one after the other. -/
def preorderAll : List Node → List Node
  | [] => []
  | n :: ns => preorder n ++ preorderAll ns

end

theorem preorder_eq (n : Node) : n.preorder = n :: preorderAll n.children := by
  cases n
  rfl

/-- The preorder of appended rows is appended. -/
theorem preorderAll_append (ns ms : List Node) :
    preorderAll (ns ++ ms) = preorderAll ns ++ preorderAll ms := by
  induction ns with
  | nil => rfl
  | cons n ns ih => rw [List.cons_append, preorderAll, preorderAll, ih, List.append_assoc]

/-- **What is visited from a stack are its trees in preorder, the top first.** -/
theorem visit_eq_preorderAll (stack : List Node) : visit stack = preorderAll stack := by
  fun_induction visit stack with
  | case1 => rfl
  | case2 n stack ih =>
    rw [ih, pushAll_reverse, preorderAll_append, preorderAll, preorder_eq, List.cons_append]

/-- **The walk over a stack visits the nodes in preorder.** -/
theorem walk_eq_preorder (n : Node) : n.walk = n.preorder := by
  rw [walk, visit_eq_preorderAll, preorderAll, preorderAll, List.append_nil]

/-! ## Addresses -/

/-- The node that is reached by going down to the children with these numbers. -/
def below? (n : Node) : List Nat → Option Node
  | [] => some n
  | i :: p => n.children[i]?.bind fun c => c.below? p

mutual

/-- The addresses in a tree, in preorder. -/
def addresses : Node → List (List Nat)
  | mk _ _ _ _ _ _ children => [] :: addressesFrom 0 children

/-- The addresses in trees side by side, which are numbered from `i` on. -/
def addressesFrom (i : Nat) : List Node → List (List Nat)
  | [] => []
  | n :: ns => (addresses n).map (i :: ·) ++ addressesFrom (i + 1) ns

end

theorem addresses_eq (n : Node) : n.addresses = [] :: addressesFrom 0 n.children := by
  cases n
  rfl

/-- An address through a row names one of its members and goes on below it. -/
theorem mem_addressesFrom {i : Nat} {ns : List Node} {p : List Nat} :
    p ∈ addressesFrom i ns ↔ ∃ j q n, p = (i + j) :: q ∧ ns[j]? = some n ∧ q ∈ n.addresses := by
  induction ns generalizing i with
  | nil => simp [addressesFrom]
  | cons n ns ih =>
    rw [addressesFrom, List.mem_append, List.mem_map, ih]
    constructor
    · rintro (⟨q, hq, rfl⟩ | ⟨j, q, m, rfl, hm, hq⟩)
      · exact ⟨0, q, n, rfl, rfl, hq⟩
      · exact ⟨j + 1, q, m, by rw [Nat.add_right_comm, Nat.add_assoc], hm, hq⟩
    · rintro ⟨_ | j, q, m, rfl, hm, hq⟩
      · exact .inl ⟨q, Option.some.inj hm ▸ hq, rfl⟩
      · exact .inr ⟨j, q, m, by rw [Nat.add_right_comm, Nat.add_assoc], hm, hq⟩

/-- The addresses of a tree are those at which there is a node. -/
theorem mem_addresses_iff {n : Node} {p : List Nat} : p ∈ n.addresses ↔ (n.below? p).isSome := by
  induction p generalizing n with
  | nil => simp [addresses_eq, below?]
  | cons i p ih =>
    rw [addresses_eq, List.mem_cons, mem_addressesFrom, below?]
    cases child : n.children[i]? with
    | none =>
      refine iff_of_false ?_ (by simp)
      rintro (none | ⟨j, q, c, same, found, -⟩)
      · cases none
      · obtain ⟨rfl, rfl⟩ := List.cons.inj same
        rw [Nat.zero_add, found] at child
        cases child
    | some c =>
      rw [Option.bind_some, ← ih]
      constructor
      · rintro (none | ⟨j, q, d, same, found, below⟩)
        · cases none
        · obtain ⟨rfl, rfl⟩ := List.cons.inj same
          rw [Nat.zero_add, found] at child
          exact Option.some.inj child ▸ below
      · intro below
        exact .inr ⟨i, p, c, by rw [Nat.zero_add], child, below⟩

mutual

/-- The addresses of a node increase, so no address stands twice. -/
theorem pairwise_addresses : ∀ n : Node, n.addresses.Pairwise (· < ·)
  | mk _ _ _ _ _ _ children => by
    rw [addresses, List.pairwise_cons]
    refine ⟨fun p hp => ?_, pairwise_addressesFrom 0 children⟩
    obtain ⟨j, q, -, rfl, -⟩ := mem_addressesFrom.1 hp
    exact List.nil_lt_cons _ _

/-- So do those through a row. -/
theorem pairwise_addressesFrom (i : Nat) : ∀ ns : List Node,
    (addressesFrom i ns).Pairwise (· < ·)
  | [] => .nil
  | n :: ns => by
    rw [addressesFrom, List.pairwise_append, List.pairwise_map]
    refine ⟨?_, pairwise_addressesFrom (i + 1) ns, fun p hp q hq => ?_⟩
    · exact (pairwise_addresses n).imp fun before => List.cons_lt_cons_iff.2 (.inr ⟨rfl, before⟩)
    · obtain ⟨p, -, rfl⟩ := List.mem_map.1 hp
      obtain ⟨j, q, -, rfl, -⟩ := mem_addressesFrom.1 hq
      exact List.cons_lt_cons_iff.2 (.inl (by omega))

end

mutual

/-- The nodes at the addresses are the nodes in preorder. -/
theorem map_below?_addresses : ∀ n : Node, n.addresses.map n.below? = n.preorder.map some
  | mk kind isNamed isMissing start stop role children => by
    rw [addresses, preorder, List.map_cons, List.map_cons]
    exact congrArg _ (map_below?_addressesFrom (mk kind isNamed isMissing start stop role children)
      0 children rfl)

/-- Below a node, for the children from number `i` on. -/
theorem map_below?_addressesFrom (parent : Node) (i : Nat) : ∀ ns : List Node,
    parent.children.drop i = ns →
      (addressesFrom i ns).map parent.below? = (preorderAll ns).map some
  | [], _ => rfl
  | n :: ns, rest => by
    have first : parent.children[i]? = some n := by
      rw [← List.head?_drop, rest, List.head?_cons]
    have next : parent.children.drop (i + 1) = ns := by
      rw [← List.tail_drop, rest, List.tail_cons]
    have down : parent.below? ∘ (i :: ·) = n.below? := by
      funext p
      rw [Function.comp_apply, below?, first, Option.bind_some]
    rw [addressesFrom, preorderAll, List.map_append, List.map_append, List.map_map, down,
      map_below?_addresses n, map_below?_addressesFrom parent (i + 1) ns next]

end

/-- Whether nodes are those of a tree: the node at each address, in the order of addresses. -/
def Enumerates (t : Node) (nodes : List Node) : Prop :=
  ∃ places : List (List Nat), places.Pairwise (· < ·) ∧
    (∀ p, p ∈ places ↔ (t.below? p).isSome) ∧ nodes.map some = places.map t.below?

/-- **The preorder holds every node once.** -/
theorem enumerates_preorder (t : Node) : t.Enumerates t.preorder :=
  ⟨t.addresses, pairwise_addresses t, fun _ => mem_addresses_iff, (map_below?_addresses t).symm⟩

/-! ## Nodes with a property -/

/-- Whether a node is the first of a tree, in the order of addresses, that passes a test. -/
def IsFirst (t : Node) (test : Node → Bool) (n : Node) : Prop :=
  ∃ p, t.below? p = some n ∧ test n = true ∧
    ∀ q m, q < p → t.below? q = some m → test m = false

namespace Enumerates

variable {t : Node} {nodes : List Node} {test : Node → Bool}

/-- The enumerated nodes are those that stand at some address. -/
theorem mem_iff (h : t.Enumerates nodes) (n : Node) : n ∈ nodes ↔ ∃ p, t.below? p = some n := by
  obtain ⟨places, -, inside, same⟩ := h
  have listed : n ∈ nodes ↔ some n ∈ places.map t.below? := by
    rw [← same, List.mem_map_of_injective (Option.some_injective _)]
  rw [listed, List.mem_map]
  constructor
  · rintro ⟨p, -, found⟩
    exact ⟨p, found⟩
  · rintro ⟨p, found⟩
    exact ⟨p, (inside p).2 (found ▸ rfl), found⟩

/-- Counted in the list is how many addresses there are of nodes that pass. -/
theorem countP_eq_ncard (h : t.Enumerates nodes) :
    nodes.countP test = {p | ∃ n, t.below? p = some n ∧ test n = true}.ncard := by
  obtain ⟨places, sorted, inside, same⟩ := h
  let passes (p : List Nat) : Bool := (t.below? p).any test
  have distinct : places.Nodup := sorted.imp fun {p q} before (equal : p = q) =>
    List.lt_irrefl q (equal ▸ before)
  have counted : nodes.countP test = (places.filter passes).length := by
    calc nodes.countP test = (nodes.map some).countP (·.any test) := by rw [List.countP_map]; rfl
      _ = (places.map t.below?).countP (·.any test) := by rw [same]
      _ = (places.filter passes).length := by rw [List.countP_map, List.countP_eq_length_filter]; rfl
  have members : {p | ∃ n, t.below? p = some n ∧ test n = true} =
      ((places.filter passes).toFinset : Set (List Nat)) := by
    ext p
    simp only [Set.mem_ofPred_eq, Finset.mem_coe, List.mem_toFinset, List.mem_filter, inside, passes,
      Option.any_eq_true]
    exact ⟨fun ⟨n, found, pass⟩ => ⟨found ▸ rfl, n, found, pass⟩, fun ⟨_, found⟩ => found⟩
  rw [counted, members, Set.ncard_coe_finset, List.toFinset_card_of_nodup (distinct.filter _)]

/-- What is found in the list is the first node of the tree that passes. -/
theorem isFirst_of_find? (h : t.Enumerates nodes) {n : Node} (found : nodes.find? test = some n) :
    t.IsFirst test n := by
  obtain ⟨places, sorted, inside, same⟩ := h
  obtain ⟨pass, before, behind, rfl, fail⟩ := List.find?_eq_some_iff_append.1 found
  rw [List.map_append, List.map_cons] at same
  obtain ⟨front, rest, rfl, frontSame, restSame⟩ := List.append_eq_map_iff.1 same
  obtain ⟨p, back, rfl, here, -⟩ := List.map_eq_cons_iff.1 restSame
  refine ⟨p, here, pass, fun q m earlier there => ?_⟩
  -- an address in front of this one is not behind it in the list, so that its node was passed over
  have listed : q ∈ front := by
    rcases List.mem_append.1 ((inside q).2 (there ▸ rfl)) with hq | hq
    · exact hq
    · rw [List.pairwise_append, List.pairwise_cons] at sorted
      rcases List.mem_cons.1 hq with rfl | hq
      · exact absurd earlier (List.lt_irrefl q)
      · exact absurd earlier (List.lt_asymm (sorted.2.1.1 q hq))
  have passed : m ∈ before := by
    have := List.mem_map_of_mem (f := t.below?) listed
    rwa [frontSame, there, List.mem_map_of_injective (Option.some_injective _)] at this
  simpa using fail m passed

end Enumerates
end Node

namespace Source

open Text

/-! ## Branches -/

/-- Whether a node is a branch of one of the kinds, or else a binary expression with one of the
operators between its operands. -/
def IsBranching (kinds operators : List String) (n : Node) : Prop :=
  n.kind ∈ kinds ∨ (n.kind = "binary_expression" ∧ ∃ c ∈ n.children, c.kind ∈ operators)

theorem isBranch_iff {kinds operators : List String} {n : Node} :
    isBranch kinds operators n = true ↔ IsBranching kinds operators n := by
  simp [isBranch, IsBranching, Node.hasKind]

/-- **A body is more complex by one for each place of a branch in it.** -/
theorem complexity_eq_ncard (kinds operators : List String) (body : Node) :
    complexity kinds operators (some body) =
      1 + {p | ∃ n, body.below? p = some n ∧ IsBranching kinds operators n}.ncard := by
  rw [complexity, Option.map_some, Option.getD_some, Node.walk_eq_preorder,
    body.enumerates_preorder.countP_eq_ncard]
  simp only [isBranch_iff]

/-! ## Calls -/

/-- The name that a node calls: it is of one of the kinds, and what stands in the first of the roles
that is filled is named by an identifier. -/
def calledName? (s : Source) (kinds roles : List String) (n : Node) : Option String :=
  if n.kind ∈ kinds then
    (((n.childIn? roles).map fun c => Syntax.calleeName (s.chars c)).filter isIdentifier).map
      String.ofList
  else none

/-- A called name is not empty. -/
theorem ne_empty_of_calledName? {s : Source} {kinds roles : List String} {n : Node} {name : String}
    (h : s.calledName? kinds roles n = some name) : name ≠ "" := by
  rw [calledName?] at h
  split at h
  · obtain ⟨chars, kept, rfl⟩ := Option.map_eq_some_iff.1 h
    have identifier := (Option.filter_eq_some_iff.1 kept).2
    intro empty
    rw [String.ofList_injective empty] at identifier
    cases identifier
  · cases h

/-- **The calls of a body are the names called in it, each once.** -/
theorem firstSeen_calls (s : Source) (kinds roles : List String) (body : Node) :
    FirstSeen (body.preorder.filterMap (s.calledName? kinds roles))
      (s.calls kinds roles (some body)) := by
  have names : ((body.preorder.filterMap fun n =>
        if kinds.contains n.kind then (n.childIn? roles).map fun c => Syntax.calleeName (s.chars c)
        else none).filter isIdentifier).map String.ofList =
      body.preorder.filterMap (s.calledName? kinds roles) := by
    rw [List.filter_filterMap, List.map_filterMap]
    refine List.filterMap_congr fun n _ => ?_
    by_cases call : n.kind ∈ kinds <;> simp [calledName?, call]
  have filled : (body.preorder.filterMap (s.calledName? kinds roles)).filter (· ≠ "") =
      body.preorder.filterMap (s.calledName? kinds roles) := by
    rw [List.filter_eq_self]
    intro name hname
    obtain ⟨n, -, called⟩ := List.mem_filterMap.1 hname
    exact decide_eq_true (ne_empty_of_calledName? called)
  have seen := FirstSeen.nil.addNames (body.preorder.filterMap (s.calledName? kinds roles))
  rw [List.nil_append, filled] at seen
  rwa [calls, Option.map_some, Option.getD_some, Node.walk_eq_preorder, names]

/-! ## Errors -/

end Source

/-- Whether a parser tells of an error in a tree exactly if some node of the tree marks one: so it is
documented. -/
def Tree.TellsErrors (tree : Tree) : Prop :=
  tree.hasError = true ↔ ∃ p n, tree.root.below? p = some n ∧ Source.isError n = true

/-- The parser of such a tree tells of errors as it is documented to. -/
theorem Tree.onText_tellsErrors (bytes : List UInt8) (root : Node) :
    (Tree.onText bytes root).TellsErrors := by
  have nodes := root.enumerates_preorder
  rw [Tree.TellsErrors, Tree.onText, Node.walk_eq_preorder, List.any_eq_true]
  constructor
  · rintro ⟨n, there, error⟩
    obtain ⟨p, found⟩ := (nodes.mem_iff n).1 there
    exact ⟨p, n, found, error⟩
  · rintro ⟨p, n, found, error⟩
    exact ⟨n, (nodes.mem_iff n).2 ⟨p, found⟩, error⟩

namespace Source

/-- Whether notices tell of the first place in a tree that could not be parsed, and of nothing
else. -/
structure TellFirstError (s : Source) (t : Node) (notices : List Notice) : Prop where
  silent : (∀ p n, t.below? p = some n → isError n = false) → notices = []
  told : (∃ p n, t.below? p = some n ∧ isError n = true) →
    ∃ n, t.IsFirst isError n ∧ notices = [s.errorNotice n]

/-- **There is one notice about the first error, and none if there is no error.** -/
theorem tellFirstError_syntaxNotices (s : Source) {tree : Tree} (tells : tree.TellsErrors) :
    TellFirstError s tree.root (s.syntaxNotices tree) := by
  have nodes := tree.root.enumerates_preorder
  rw [syntaxNotices, Node.walk_eq_preorder]
  constructor
  · intro none
    have quiet : tree.hasError = false := by
      refine Bool.eq_false_iff.2 fun told => ?_
      obtain ⟨p, n, found, error⟩ := tells.1 told
      rw [none p n found] at error
      contradiction
    rw [quiet]
    rfl
  · rintro ⟨p, m, found, error⟩
    rw [if_pos (tells.2 ⟨p, m, found, error⟩)]
    cases first : tree.root.preorder.find? isError with
    | none => exact absurd error (List.find?_eq_none.1 first m ((nodes.mem_iff m).2 ⟨p, found⟩))
    | some n => exact ⟨n, nodes.isFirst_of_find? first, rfl⟩

end Source

/-! ## Walks -/

/-- **A walk visits every node of a tree once, in preorder.**  So a body is more complex by one for
each branch in it, and its calls are the identifiers called in it in the order of first occurrence;
and a file whose parser tells of the errors in its tree has one notice, about the first of them, or
none if there is no error. -/
theorem Node.walk_enumerates (t : Node) :
    t.walk = t.preorder ∧ t.Enumerates t.walk ∧
      (∀ kinds operators, Source.complexity kinds operators (some t) =
        1 + {p | ∃ n, t.below? p = some n ∧ Source.IsBranching kinds operators n}.ncard) ∧
      (∀ s kinds roles, FirstSeen (t.preorder.filterMap (Source.calledName? s kinds roles))
        (s.calls kinds roles (some t))) ∧
      ∀ tree : Tree, tree.root = t → tree.TellsErrors → ∀ language path bytes,
        Source.TellFirstError (.ofTree path bytes tree) t
          (Reader.read language path bytes (.concrete tree)).notices := by
  have walked := t.walk_eq_preorder
  refine ⟨walked, walked ▸ t.enumerates_preorder, fun _ _ => Source.complexity_eq_ncard _ _ t,
    fun s _ _ => s.firstSeen_calls _ _ t, ?_⟩
  rintro tree rfl tells language path bytes
  exact Source.tellFirstError_syntaxNotices _ tells

/-- A function below a comment, without a closing bracket, and with a brace too many behind it. -/
def brokenFunction : Node :=
  .mk "source_file" true false 0 24 ""
    [.mk "comment" true false 0 3 "" [],
     .mk "function_declaration" true false 4 23 ""
      [.mk "identifier" true false 9 10 "name" [],
       .mk "parameter_list" true false 10 11 "parameters"
        [.mk "(" false false 10 11 "" [], .mk ")" false true 11 11 "" []],
       .mk "block" true false 12 23 "body"
        [.mk "if_statement" true false 13 22 ""
          [.mk "call_expression" true false 16 19 "condition"
            [.mk "identifier" true false 16 17 "function" [],
             .mk "argument_list" true false 17 19 "arguments" []],
           .mk "block" true false 20 22 "consequence" []]]],
     .mk "ERROR" true false 23 24 "" []]

/-- Of the two errors the first is told, which is on the second line. -/
theorem Node.walk_enumerates_brokenFunction :
    let bytes := "//x\nfunc f( \x7bif g() \x7b\x7d\x7d\x7d".toUTF8.toList
    let s := Source.ofTree "a.go" bytes (.onText bytes brokenFunction)
    (Tree.onText bytes brokenFunction).TellsErrors ∧
      (∃ n, brokenFunction.IsFirst Source.isError n ∧
        (Reader.read .go "a.go" bytes (.concrete (.onText bytes brokenFunction))).notices =
          [s.errorNotice n]) ∧
      (Reader.read .go "a.go" bytes (.concrete (.onText bytes brokenFunction))).notices =
        [{ file := "a.go", message := "syntax error near line 2", line := 2 }] ∧
      Source.complexity ["if_statement"] [] (some brokenFunction) = 2 ∧
      s.calls ["call_expression"] ["function"] (some brokenFunction) = ["g"] := by
  intro bytes s
  have tells : (Tree.onText bytes brokenFunction).TellsErrors := Tree.onText_tellsErrors _ _
  obtain ⟨-, -, -, -, notices⟩ := walk_enumerates brokenFunction
  have law := notices (.onText bytes brokenFunction) rfl tells .go "a.go" bytes
  exact ⟨tells, law.told ⟨[2], _, rfl, by decide⟩, by decide +kernel, by decide +kernel,
    by decide +kernel⟩

end Concord
