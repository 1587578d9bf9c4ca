import Concord.Reader.File

/-!
# Concord.Proofs.Reader.Declared

What a reader can declare.  For each language it is said once of which forms the types and the
functions are that its reader declares (`Go.IsType`, `Go.IsFunction` and so on); what holds of these
forms holds of every declaration in every file (`isType_of_mem_read`, `isFunction_of_mem_read`).

Concrete trees are read through nested types, modules and namespaces by mutual recursion; the
theorems about such a reader follow its recursion, one for each of its functions.
-/

namespace Concord

/-- Whether a declaration declares a type or a function of some forms, if it declares either. -/
def Declaration.Of (IsType : TypeDecl → Prop) (IsFunction : FunctionDecl → Prop) :
    Declaration → Prop
  | .type t => IsType t
  | .function f => IsFunction f
  | _ => True

namespace Reader

/-! ## Go -/

namespace Go

/-- The form of types. -/
def IsType (s : Source) (t : TypeDecl) : Prop := ∃ anchor spec, t = readType s anchor spec

/-- The form of functions. -/
def IsFunction (s : Source) (f : FunctionDecl) : Prop :=
  ∃ site receiver?, f = readFunction s site receiver?

/-- What a top-level form of Go declares is a type or a function of the language's kinds. -/
theorem of_mem_readTop {s : Source} {site : Site} {d : Declaration} (h : d ∈ readTop s site) :
    d.Of (IsType s) (IsFunction s) := by
  rw [readTop] at h
  dsimp only at h
  split at h
  · rw [List.mem_singleton.1 h]; trivial
  · obtain ⟨spec, -, rfl⟩ := List.mem_map.1 h; trivial
  · rw [List.mem_singleton.1 h]; exact ⟨site, none, rfl⟩
  · rw [List.mem_singleton.1 h]; exact ⟨site, _, rfl⟩
  · obtain ⟨spec, -, rfl⟩ := List.mem_map.1 h; exact ⟨_, _, rfl⟩
  · obtain ⟨constant, -, rfl⟩ := List.mem_map.1 h; trivial
  · cases h

theorem of_mem_read {s : Source} {root : Node} {d : Declaration} (h : d ∈ read s root) :
    d.Of (IsType s) (IsFunction s) := by
  obtain ⟨site, -, h⟩ := List.mem_flatMap.1 h
  exact of_mem_readTop h

end Go

/-! ## Rust -/

namespace Rust

/-- The forms of types. -/
inductive IsType (s : Source) : TypeDecl → Prop where
  | struct (site : Site) :
      IsType s { typeBase s .struct site with fields := structFields s site.node }
  | enum (site : Site) : IsType s { typeBase s .enum site with variants := variants s site.node }
  | interface (site : Site) :
      IsType s
        { typeBase s .interface site with
          methods := traitMethods s site.node
          implements := supertraits s site.node }
  | synonym (site : Site) :
      IsType s
        { typeBase s .synonym site with aliasOf? := some (s.text? (site.node.child? "type")) }

/-- The form of functions. -/
def IsFunction (s : Source) (f : FunctionDecl) : Prop :=
  ∃ receiver? isOfTrait site, f = readFunction s receiver? isOfTrait site

/-- What a Rust form without an inside of its own declares is of the language's kinds. -/
theorem of_mem_readLeaf {s : Source} {site : Site} {d : Declaration} (h : d ∈ readLeaf s site) :
    d.Of (IsType s) (IsFunction s) := by
  rw [readLeaf] at h
  dsimp only at h
  split at h
  · rw [List.mem_singleton.1 h]; exact ⟨none, false, site, rfl⟩
  · rw [List.mem_singleton.1 h]; exact .struct site
  · rw [List.mem_singleton.1 h]; exact .enum site
  · rw [List.mem_singleton.1 h]; exact .interface site
  · rw [List.mem_singleton.1 h]; exact .synonym site
  · rcases List.mem_append.1 h with h | h
    · obtain ⟨trait, -, rfl⟩ := Option.map_eq_some_iff.1 (Option.mem_toList.1 h)
      trivial
    · obtain ⟨method, -, rfl⟩ := List.mem_map.1 h
      exact ⟨_, _, method, rfl⟩
  · obtain ⟨use, -, rfl⟩ := List.mem_map.1 h; trivial
  · cases h

mutual

/-- An item of Rust declares by the kinds of the language, and so does what its body holds. -/
theorem of_mem_readItem {s : Source} : ∀ (n : Node) (before : List Node) {d : Declaration},
    d ∈ readItem s before n → d.Of (IsType s) (IsFunction s)
  | .mk kind isNamed isMissing start stop role children, before, d, h => by
    rw [readItem] at h
    split at h
    · exact of_mem_readBody children h
    · exact of_mem_readLeaf h

/-- A row of Rust items declares what its members declare. -/
theorem of_mem_readItems {s : Source} : ∀ (ns before : List Node) {d : Declaration},
    d ∈ readItems s before ns → d.Of (IsType s) (IsFunction s)
  | [], _, _, h => by cases h
  | n :: ns, before, d, h => by
    rw [readItems] at h
    rcases List.mem_append.1 h with h | h
    · split at h
      · exact of_mem_readItem n before h
      · cases h
    · exact of_mem_readItems ns (n :: before) h

theorem of_mem_readBody {s : Source} : ∀ (ns : List Node) {d : Declaration},
    d ∈ readBody s ns → d.Of (IsType s) (IsFunction s)
  | [], _, h => by cases h
  | n :: ns, d, h => by
    rw [readBody] at h
    split at h
    · exact of_mem_readWithin n h
    · exact of_mem_readBody ns h

theorem of_mem_readWithin {s : Source} : ∀ (n : Node) {d : Declaration},
    d ∈ readWithin s n → d.Of (IsType s) (IsFunction s)
  | .mk _ _ _ _ _ _ children, _, h => by
    rw [readWithin] at h
    exact of_mem_readItems children [] h

end

theorem of_mem_read {s : Source} {root : Node} {d : Declaration} (h : d ∈ read s root) :
    d.Of (IsType s) (IsFunction s) := of_mem_readWithin root h

end Rust

/-! ## TypeScript -/

namespace TypeScript

/-- The forms of types. -/
inductive IsType (s : Source) : TypeDecl → Prop where
  | classType (anchor : Site) (isExported : Bool) (n : Node) (fields : List Field)
      (methods : List String) :
      IsType s
        { typeBase s .classType anchor isExported n with
          fields, methods, implements := heritage s n }
  | interface (anchor : Site) (isExported : Bool) (n : Node) :
      IsType s (readInterface s anchor isExported n)
  | enum (anchor : Site) (isExported : Bool) (n : Node) : IsType s (readEnum s anchor isExported n)
  | synonym (anchor : Site) (isExported : Bool) (n : Node) :
      IsType s (readAlias s anchor isExported n)

/-- The form of functions. -/
def IsFunction (s : Source) (f : FunctionDecl) : Prop :=
  ∃ declaration value anchor isExported receiver?,
    f = functionOf s declaration value anchor isExported receiver?

/-- Variables of TypeScript are declared as functions only where they hold one. -/
theorem of_mem_readVariables {s : Source} {anchor : Site} {isExported : Bool} {n : Node}
    {d : Declaration} (h : d ∈ readVariables s anchor isExported n) :
    d.Of (IsType s) (IsFunction s) := by
  obtain ⟨declarator, -, h⟩ := List.mem_filterMap.1 h
  split at h
  · cases h
  · split at h
    · cases h; exact ⟨_, _, _, _, _, rfl⟩
    · cases h

/-- A class of TypeScript declares itself and its methods, each by the kinds of the language. -/
theorem of_mem_readClass {s : Source} {anchor : Site} {isExported : Bool} {n : Node}
    {d : Declaration} (h : d ∈ readClass s anchor isExported n) : d.Of (IsType s) (IsFunction s) := by
  rcases List.mem_cons.1 h with rfl | h
  · exact .classType anchor isExported n _ _
  · obtain ⟨method, -, rfl⟩ := List.mem_map.1 h
    exact ⟨_, _, _, _, _, rfl⟩

/-- A plain statement of TypeScript declares by the kinds of the language. -/
theorem of_mem_readPlain {s : Source} {anchor : Site} {isExported : Bool} {n : Node}
    {d : Declaration} (h : d ∈ readPlain s anchor isExported n) : d.Of (IsType s) (IsFunction s) := by
  rw [readPlain] at h
  split at h
  · rw [List.mem_singleton.1 h]; exact ⟨_, _, _, _, _, rfl⟩
  · rw [List.mem_singleton.1 h]; exact ⟨_, _, _, _, _, rfl⟩
  · rw [List.mem_singleton.1 h]; exact ⟨_, _, _, _, _, rfl⟩
  · exact of_mem_readClass h
  · exact of_mem_readClass h
  · rw [List.mem_singleton.1 h]; exact .interface anchor isExported n
  · rw [List.mem_singleton.1 h]; exact .enum anchor isExported n
  · rw [List.mem_singleton.1 h]; exact .synonym anchor isExported n
  · exact of_mem_readVariables h
  · exact of_mem_readVariables h
  · cases h

mutual

/-- A statement of TypeScript declares by the kinds of the language, within exports too. -/
theorem of_mem_readStatement {s : Source} {anchor : Site} {isExported : Bool} :
    ∀ (n : Node) {d : Declaration}, d ∈ readStatement s anchor isExported n →
      d.Of (IsType s) (IsFunction s)
  | .mk kind isNamed isMissing start stop role children, d, h => by
    rw [readStatement] at h
    split at h
    · exact of_mem_readStatements children h
    · exact of_mem_readPlain h

theorem of_mem_readStatements {s : Source} {anchor : Site} {isExported : Bool} :
    ∀ (ns : List Node) {d : Declaration}, d ∈ readStatements s anchor isExported ns →
      d.Of (IsType s) (IsFunction s)
  | [], _, h => by cases h
  | n :: ns, d, h => by
    rw [readStatements] at h
    rcases List.mem_append.1 h with h | h
    · split at h
      · exact of_mem_readStatement n h
      · cases h
    · exact of_mem_readStatements ns h

end

theorem of_mem_readTop {s : Source} {site : Site} {d : Declaration} (h : d ∈ readTop s site) :
    d.Of (IsType s) (IsFunction s) := by
  rw [readTop] at h
  split at h
  · rw [List.mem_singleton.1 h]; trivial
  · cases declaration : site.node.child? "declaration" with
    | none => rw [declaration] at h; cases h
    | some n => rw [declaration] at h; exact of_mem_readStatement n h
  · exact of_mem_readStatement site.node h

theorem of_mem_read {s : Source} {root : Node} {d : Declaration} (h : d ∈ read s root) :
    d.Of (IsType s) (IsFunction s) := by
  obtain ⟨site, -, h⟩ := List.mem_flatMap.1 h
  exact of_mem_readTop h

end TypeScript

/-! ## Java -/

namespace Java

/-- The form of types, whose kind their node tells. -/
def IsType (s : Source) (t : TypeDecl) : Prop :=
  ∃ inInterface kind site, typeKind? site.node = some kind ∧ t = readType s inInterface kind site

/-- The form of functions. -/
def IsFunction (s : Source) (f : FunctionDecl) : Prop := ∃ owner site, f = readMethod s owner site

/-- A method of Java is read with the visibility of its owner, which leaves its kind alone. -/
theorem of_mem_memberFunction {s : Source} {owner : Owner} {site : Site} {d : Declaration}
    (h : d ∈ memberFunction s owner site) : d.Of (IsType s) (IsFunction s) := by
  rw [memberFunction] at h
  split at h
  · rw [List.mem_singleton.1 h]; exact ⟨owner, site, rfl⟩
  · cases h

mutual

/-- A type of Java declares itself, its methods and the types nested in it. -/
theorem of_mem_readTypes {s : Source} : ∀ (n : Node) {inInterface : Bool} {kind : TypeKind}
    {before : List Node} {d : Declaration}, typeKind? n = some kind →
      d ∈ readTypes s inInterface kind before n → d.Of (IsType s) (IsFunction s)
  | .mk word isNamed isMissing start stop role children, inInterface, kind, before, d, isKind, h => by
    rw [readTypes] at h
    rcases List.mem_cons.1 h with rfl | h
    · exact ⟨inInterface, kind, _, isKind, rfl⟩
    · exact of_mem_readBody children h

theorem of_mem_readBody {s : Source} : ∀ (ns : List Node) {owner : Owner} {d : Declaration},
    d ∈ readBody s owner ns → d.Of (IsType s) (IsFunction s)
  | [], _, _, h => by cases h
  | n :: ns, owner, d, h => by
    rw [readBody] at h
    split at h
    · exact of_mem_readMembersBelow n h
    · exact of_mem_readBody ns h

theorem of_mem_readMembersBelow {s : Source} : ∀ (n : Node) {owner : Owner} {d : Declaration},
    d ∈ readMembersBelow s owner n → d.Of (IsType s) (IsFunction s)
  | .mk _ _ _ _ _ _ children, owner, d, h => by
    rw [readMembersBelow] at h
    rcases List.mem_append.1 h with h | h
    · exact of_mem_readMembers children h
    · split at h
      · exact of_mem_readLists children h
      · cases h

/-- Members of a Java type are methods, or types of their own. -/
theorem of_mem_readMembers {s : Source} : ∀ (ns : List Node) {owner : Owner} {before : List Node}
    {d : Declaration}, d ∈ readMembers s owner before ns → d.Of (IsType s) (IsFunction s)
  | [], _, _, _, h => by cases h
  | n :: ns, owner, before, d, h => by
    rw [readMembers] at h
    rcases List.mem_append.1 h with h | h
    · split at h
      · cases isKind : typeKind? n with
        | none => rw [isKind] at h; exact of_mem_memberFunction h
        | some kind => rw [isKind] at h; exact of_mem_readTypes n isKind h
      · cases h
    · exact of_mem_readMembers ns h

theorem of_mem_readLists {s : Source} : ∀ (ns : List Node) {owner : Owner} {d : Declaration},
    d ∈ readLists s owner ns → d.Of (IsType s) (IsFunction s)
  | [], _, _, h => by cases h
  | n :: ns, owner, d, h => by
    rw [readLists] at h
    rcases List.mem_append.1 h with h | h
    · split at h
      · exact of_mem_readList n h
      · cases h
    · exact of_mem_readLists ns h

theorem of_mem_readList {s : Source} : ∀ (n : Node) {owner : Owner} {d : Declaration},
    d ∈ readList s owner n → d.Of (IsType s) (IsFunction s)
  | .mk _ _ _ _ _ _ children, _, _, h => by
    rw [readList] at h
    exact of_mem_readMembers children h

end

theorem of_mem_readTop {s : Source} {site : Site} {d : Declaration} (h : d ∈ readTop s site) :
    d.Of (IsType s) (IsFunction s) := by
  rw [readTop] at h
  split at h
  next isKind => exact of_mem_readTypes site.node isKind h
  next => rw [List.mem_singleton.1 h]; trivial
  next => rw [List.mem_singleton.1 h]; trivial
  next => cases h

theorem of_mem_read {s : Source} {root : Node} {d : Declaration} (h : d ∈ read s root) :
    d.Of (IsType s) (IsFunction s) := by
  obtain ⟨site, -, h⟩ := List.mem_flatMap.1 h
  exact of_mem_readTop h

end Java

/-! ## C# -/

namespace CSharp

/-- The form of types, whose kind their node tells. -/
def IsType (s : Source) (t : TypeDecl) : Prop :=
  ∃ inInterface kind site, typeKind? site.node = some kind ∧ t = readType s inInterface kind site

/-- The form of functions. -/
def IsFunction (s : Source) (f : FunctionDecl) : Prop := ∃ owner site, f = readMethod s owner site

/-- A method of C# is read with the visibility of its owner, which leaves its kind alone. -/
theorem of_mem_memberFunction {s : Source} {owner : Owner} {site : Site} {d : Declaration}
    (h : d ∈ memberFunction s owner site) : d.Of (IsType s) (IsFunction s) := by
  rw [memberFunction] at h
  split at h
  · rw [List.mem_singleton.1 h]; exact ⟨owner, site, rfl⟩
  · cases h

mutual

/-- A type of C# declares itself, its methods and the types nested in it. -/
theorem of_mem_readTypes {s : Source} : ∀ (n : Node) {inInterface : Bool} {kind : TypeKind}
    {before : List Node} {d : Declaration}, typeKind? n = some kind →
      d ∈ readTypes s inInterface kind before n → d.Of (IsType s) (IsFunction s)
  | .mk word isNamed isMissing start stop role children, inInterface, kind, before, d, isKind, h => by
    rw [readTypes] at h
    rcases List.mem_cons.1 h with rfl | h
    · exact ⟨inInterface, kind, _, isKind, rfl⟩
    · split at h
      · cases h
      · exact of_mem_readBody children h

theorem of_mem_readBody {s : Source} : ∀ (ns : List Node) {owner : Owner} {d : Declaration},
    d ∈ readBody s owner ns → d.Of (IsType s) (IsFunction s)
  | [], _, _, h => by cases h
  | n :: ns, owner, d, h => by
    rw [readBody] at h
    split at h
    · exact of_mem_readMembersBelow n h
    · exact of_mem_readBody ns h

theorem of_mem_readMembersBelow {s : Source} : ∀ (n : Node) {owner : Owner} {d : Declaration},
    d ∈ readMembersBelow s owner n → d.Of (IsType s) (IsFunction s)
  | .mk _ _ _ _ _ _ children, _, _, h => by
    rw [readMembersBelow] at h
    exact of_mem_readMembers children h

/-- Members of a C# type are methods, or types of their own. -/
theorem of_mem_readMembers {s : Source} : ∀ (ns : List Node) {owner : Owner} {before : List Node}
    {d : Declaration}, d ∈ readMembers s owner before ns → d.Of (IsType s) (IsFunction s)
  | [], _, _, _, h => by cases h
  | n :: ns, owner, before, d, h => by
    rw [readMembers] at h
    rcases List.mem_append.1 h with h | h
    · split at h
      · cases isKind : typeKind? n with
        | none => rw [isKind] at h; exact of_mem_memberFunction h
        | some kind => rw [isKind] at h; exact of_mem_readTypes n isKind h
      · cases h
    · exact of_mem_readMembers ns h

end

/-- The name of a namespace is neither a type nor a function. -/
theorem of_mem_namespaceOf {s : Source} {n : Node} {d : Declaration} (h : d ∈ namespaceOf s n) :
    d.Of (IsType s) (IsFunction s) := by
  rw [namespaceOf] at h
  split at h
  · cases h
  · rw [List.mem_singleton.1 h]; trivial

mutual

/-- An item of C# declares itself or what it holds, by the kinds of the language. -/
theorem of_mem_readItem {s : Source} : ∀ (n : Node) {before : List Node} {d : Declaration},
    d ∈ readItem s before n → d.Of (IsType s) (IsFunction s)
  | .mk word isNamed isMissing start stop role children, before, d, h => by
    rw [readItem] at h
    split at h
    · rw [List.mem_singleton.1 h]; trivial
    · split at h
      · rcases List.mem_append.1 h with h | h
        · exact of_mem_namespaceOf h
        · split at h
          · exact of_mem_readSpace children h
          · exact of_mem_readItems children h
      · split at h
        · exact of_mem_readItems children h
        · split at h
          next isKind => exact of_mem_readTypes _ isKind h
          next => cases h

theorem of_mem_readItems {s : Source} : ∀ (ns : List Node) {before : List Node} {d : Declaration},
    d ∈ readItems s before ns → d.Of (IsType s) (IsFunction s)
  | [], _, _, h => by cases h
  | n :: ns, before, d, h => by
    rw [readItems] at h
    rcases List.mem_append.1 h with h | h
    · split at h
      · exact of_mem_readItem n h
      · cases h
    · exact of_mem_readItems ns h

theorem of_mem_readSpace {s : Source} : ∀ (ns : List Node) {d : Declaration},
    d ∈ readSpace s ns → d.Of (IsType s) (IsFunction s)
  | [], _, h => by cases h
  | n :: ns, d, h => by
    rw [readSpace] at h
    split at h
    · exact of_mem_readWithin n h
    · exact of_mem_readSpace ns h

theorem of_mem_readWithin {s : Source} : ∀ (n : Node) {d : Declaration},
    d ∈ readWithin s n → d.Of (IsType s) (IsFunction s)
  | .mk _ _ _ _ _ _ children, _, h => by
    rw [readWithin] at h
    exact of_mem_readItems children h

end

theorem of_mem_read {s : Source} {root : Node} {d : Declaration} (h : d ∈ read s root) :
    d.Of (IsType s) (IsFunction s) := of_mem_readWithin root h

end CSharp

/-! ## Python -/

namespace Python

/-- The forms of types: what the statement of a class declares first, and what an alias declares. -/
inductive IsType (s : Source) : TypeDecl → Prop where
  | classType (statement : Term) {t : TypeDecl}
      (first : (readClass s statement).head? = some (.type t)) : IsType s t
  | synonym (statement : Term) {t : TypeDecl} (only : readAlias s statement = [.type t]) :
      IsType s t

/-- The form of functions. -/
def IsFunction (s : Source) (f : FunctionDecl) : Prop :=
  ∃ receiver? statement, f = readFunction s receiver? statement

/-- A statement in the body of a class adds at most one function, a method of the class. -/
theorem functions_add (s : Source) (owner : String) (kind : TypeKind) (m : Members) (t : Term) :
    (m.add s owner kind t).functions = m.functions ∨
      (m.add s owner kind t).functions = m.functions ++ [readFunction s (some owner) t] := by
  rw [Members.add]
  split
  · split
    · exact .inl rfl
    · split
      · exact .inl rfl
      · split
        · exact .inl rfl
        · exact .inr rfl
  · split <;> exact .inl rfl

/-- Reading one member of a class after another only ever adds functions of the language's kinds.
-/
theorem isFunction_of_mem_foldl {s : Source} {owner : String} {kind : TypeKind} {ts : List Term}
    {m : Members} (h : ∀ f ∈ m.functions, IsFunction s f) :
    ∀ f ∈ (ts.foldl (Members.add s owner kind) m).functions, IsFunction s f := by
  induction ts generalizing m with
  | nil => exact h
  | cons t ts ih =>
    refine ih fun f hf => ?_
    rcases functions_add s owner kind m t with same | added
    · exact h f (same ▸ hf)
    · rw [added] at hf
      rcases List.mem_append.1 hf with hf | hf
      · exact h f hf
      · exact ⟨some owner, t, List.mem_singleton.1 hf⟩

/-- A class of Python declares itself and its methods. -/
theorem of_mem_readClass {s : Source} {t : Term} {d : Declaration} (h : d ∈ readClass s t) :
    d.Of (IsType s) (IsFunction s) := by
  rcases List.mem_cons.1 h with rfl | h
  · exact .classType t rfl
  · obtain ⟨f, hf, rfl⟩ := List.mem_map.1 h
    exact isFunction_of_mem_foldl (fun f hf => by cases hf) f hf

/-- An alias of Python declares a type of the alias kind. -/
theorem of_mem_readAlias {s : Source} {t : Term} {d : Declaration} (h : d ∈ readAlias s t) :
    d.Of (IsType s) (IsFunction s) := by
  cases named : alias? t with
  | none => rw [readAlias, named] at h; cases h
  | some found =>
    have only : readAlias s t = [d] := by
      rw [readAlias, named] at h ⊢
      rw [List.mem_singleton.1 h]
    obtain ⟨name, target⟩ := found
    rw [readAlias, named] at h
    obtain rfl := List.mem_singleton.1 h
    exact .synonym t only

/-- A plain statement of Python declares by the kinds of the language. -/
theorem of_mem_readPlain {s : Source} {t : Term} {d : Declaration} (h : d ∈ readPlain s t) :
    d.Of (IsType s) (IsFunction s) := by
  rw [readPlain] at h
  split at h
  · obtain ⟨name, -, rfl⟩ := List.mem_map.1 h; trivial
  · rw [List.mem_singleton.1 h]; trivial
  · split at h
    · cases h
    · rw [List.mem_singleton.1 h]; exact ⟨none, t, rfl⟩
  · split at h
    · cases h
    · rw [List.mem_singleton.1 h]; exact ⟨none, t, rfl⟩
  · exact of_mem_readClass h
  · exact of_mem_readAlias h
  · exact of_mem_readAlias h
  · exact of_mem_readAlias h
  · cases h

mutual

/-- A statement of Python declares by the kinds of the language, within blocks too. -/
theorem of_mem_readStatement {s : Source} : ∀ (t : Term) {d : Declaration},
    d ∈ readStatement s t → d.Of (IsType s) (IsFunction s)
  | .node role kind first last text parts, d, h => by
    rw [readStatement] at h
    split at h
    · exact of_mem_readStatements parts h
    · exact of_mem_readPlain h
  | .literal .., _, h => by cases h
  | .word .., _, h => by cases h
  | .number .., _, h => by cases h
  | .absent .., _, h => by cases h

theorem of_mem_readStatements {s : Source} : ∀ (ts : List Term) {d : Declaration},
    d ∈ readStatements s ts → d.Of (IsType s) (IsFunction s)
  | [], _, h => by cases h
  | t :: ts, d, h => by
    rw [readStatements] at h
    rcases List.mem_append.1 h with h | h
    · exact of_mem_readStatement t h
    · exact of_mem_readStatements ts h

end

theorem of_mem_read {s : Source} {root : Term} {d : Declaration} (h : d ∈ read s root) :
    d.Of (IsType s) (IsFunction s) := of_mem_readStatement root h

end Python

/-! ## All languages -/

/-- The forms of types in concrete trees.  Python is read from abstract ones. -/
def IsType : Language → Source → TypeDecl → Prop
  | .go => Go.IsType
  | .rust => Rust.IsType
  | .java => Java.IsType
  | .csharp => CSharp.IsType
  | .typescript => TypeScript.IsType
  | .python => fun _ _ => False

/-- The forms of functions in concrete trees. -/
def IsFunction : Language → Source → FunctionDecl → Prop
  | .go => Go.IsFunction
  | .rust => Rust.IsFunction
  | .java => Java.IsFunction
  | .csharp => CSharp.IsFunction
  | .typescript => TypeScript.IsFunction
  | .python => fun _ _ => False

/-- **Every declaration of a file is of the kinds that its language has.** -/
theorem of_mem_declarations {language : Language} {s : Source} {root : Node} {d : Declaration}
    (h : d ∈ declarations language s root) :
    d.Of (IsType language s) (IsFunction language s) := by
  cases language with
  | go => exact Go.of_mem_read h
  | rust => exact Rust.of_mem_read h
  | java => exact Java.of_mem_read h
  | csharp => exact CSharp.of_mem_read h
  | typescript => exact TypeScript.of_mem_read h
  | python => cases h

/-- The types of an outline are the types that were declared. -/
theorem mem_types_ofDeclarations {path : String} {language : Language} {notices : List Notice}
    {ds : List Declaration} {t : TypeDecl} :
    t ∈ (FileOutline.ofDeclarations path language notices ds).types ↔ .type t ∈ ds := by
  rw [FileOutline.ofDeclarations, List.mem_filterMap]
  constructor
  · rintro ⟨d, hd, hdt⟩
    cases d with
    | type u => cases hdt; exact hd
    | _ => cases hdt
  · exact fun h => ⟨_, h, rfl⟩

/-- The functions of an outline are the functions that were declared. -/
theorem mem_functions_ofDeclarations {path : String} {language : Language} {notices : List Notice}
    {ds : List Declaration} {f : FunctionDecl} :
    f ∈ (FileOutline.ofDeclarations path language notices ds).functions ↔ .function f ∈ ds := by
  rw [FileOutline.ofDeclarations, List.mem_filterMap]
  constructor
  · rintro ⟨d, hd, hdf⟩
    cases d with
    | function g => cases hdf; exact hd
    | _ => cases hdf
  · exact fun h => ⟨_, h, rfl⟩

variable {language : Language} {path : String} {bytes : List UInt8} {parsed : Parsed}

/-- **Every type in a file has a form that a reader gives to types.** -/
theorem isType_of_mem_read {t : TypeDecl} (h : t ∈ (read language path bytes parsed).types) :
    (∃ tree, IsType language (.ofTree path bytes tree) t) ∨
      Python.IsType (Python.source path bytes) t := by
  cases parsed with
  | concrete tree => exact .inl ⟨tree, of_mem_declarations (mem_types_ofDeclarations.1 h)⟩
  | abstract root => exact .inr (Python.of_mem_read (mem_types_ofDeclarations.1 h))
  | malformed | refused | data => cases h

/-- **Every function in a file has a form that a reader gives to functions.** -/
theorem isFunction_of_mem_read {f : FunctionDecl}
    (h : f ∈ (read language path bytes parsed).functions) :
    (∃ tree, IsFunction language (.ofTree path bytes tree) f) ∨
      Python.IsFunction (Python.source path bytes) f := by
  cases parsed with
  | concrete tree => exact .inl ⟨tree, of_mem_declarations (mem_functions_ofDeclarations.1 h)⟩
  | abstract root => exact .inr (Python.of_mem_read (mem_functions_ofDeclarations.1 h))
  | malformed | refused | data => cases h

end Reader
end Concord
