import Concord.Proofs.Spelling.Generic
import Concord.Syntax.Source

/-!
# Concord.Proofs.Syntax.Callee

Names of generic callees, such as `new` in `std::vec::Vec::new::<K, V>`.  Type arguments are dropped
in one pass that takes off the angle brackets which hold no others.

* `dropAngles_text` — what the pass leaves of type arguments (`TypeArguments.pruned`);
* `calleeName_of_isFlat` — without further lists in the arguments the name is read;
* `mem_calleeName_of_nested` — with a list in the arguments an angle bracket stays behind in the name;
* `calls_generic` — so a call of a generic function is listed exactly if its arguments hold no lists of
  their own.

`nested_arguments_hide_callee` is a call that is lost.
-/

namespace Concord.Syntax

open Text Spelling

/-! ## Generic callees -/

/-- What stands between two names of a path. -/
inductive Joint where
  | dot
  | colons
deriving DecidableEq, Repr

/-- A joint as it is written. -/
def Joint.text : Joint → List Char
  | dot => ['.']
  | colons => [':', ':']

/-- A path: the names that lead to the last one, each with the joint behind it. -/
structure CalleePath where
  way : List (List Char × Joint)
  name : List Char

/-- A path as it is written. -/
def CalleePath.text (p : CalleePath) : List Char :=
  p.way.flatMap (fun step => step.1 ++ step.2.text) ++ p.name

/-- The names of a path are identifiers. -/
structure CalleePath.IsProper (p : CalleePath) : Prop where
  way : ∀ step ∈ p.way, isIdentifier step.1 = true
  name : isIdentifier p.name = true

/-- What type arguments are made of, further lists apart. -/
inductive Piece where
  | word (name : List Char)
  | colons
  | comma
  | blank
deriving DecidableEq, Repr

/-- A piece as it is written. -/
def Piece.text : Piece → List Char
  | word name => name
  | colons => [':', ':']
  | comma => [',']
  | blank => [' ']

/-- The words among the pieces are identifiers. -/
def Piece.IsProper : Piece → Prop
  | word name => isIdentifier name = true
  | _ => True

/-- The content of a list of type arguments: pieces and further lists in a row. -/
inductive TypeArguments where
  | none
  | piece (first : Piece) (rest : TypeArguments)
  | list (inner rest : TypeArguments)
deriving DecidableEq, Repr

namespace TypeArguments

/-- Type arguments as they are written. -/
def text : TypeArguments → List Char
  | none => []
  | piece first rest => first.text ++ rest.text
  | list inner rest => '<' :: (inner.text ++ '>' :: rest.text)

/-- The words in all lists are identifiers. -/
def IsProper : TypeArguments → Prop
  | none => True
  | piece first rest => first.IsProper ∧ rest.IsProper
  | list inner rest => inner.IsProper ∧ rest.IsProper

/-- Whether type arguments hold no further list. -/
def isFlat : TypeArguments → Bool
  | none => true
  | piece _ rest => rest.isFlat
  | list _ _ => false

/-- Type arguments without the lists that hold no others. -/
def pruned : TypeArguments → TypeArguments
  | none => none
  | piece first rest => piece first rest.pruned
  | list inner rest => if inner.isFlat then rest.pruned else list inner.pruned rest.pruned

end TypeArguments

/-- A path with type arguments, behind `::` or directly behind the last name. -/
structure GenericCallee where
  path : CalleePath
  hasColons : Bool
  arguments : TypeArguments

namespace GenericCallee

/-- What stands in front of the type arguments. -/
def front (c : GenericCallee) : List Char := c.path.text ++ if c.hasColons then [':', ':'] else []

/-- A generic callee as it is written. -/
def text (c : GenericCallee) : List Char := c.front ++ '<' :: (c.arguments.text ++ ['>'])

/-- All names in it are identifiers. -/
structure IsProper (c : GenericCallee) : Prop where
  path : c.path.IsProper
  arguments : c.arguments.IsProper

end GenericCallee

/-! ## Characters -/

/-- Marks around names and between them. -/
def nameMarks : List Char := ['<', '>', '(', ':', '.', '-', '?']

theorem nameMarks_all : nameMarks.all (fun c => !isIdentifierChar c) = true := by
  decide +kernel

theorem nameMarks_notIdentifier {c : Char} (hc : c ∈ nameMarks) : isIdentifierChar c = false := by
  simpa using List.all_eq_true.1 nameMarks_all c hc

/-- The characters in front of the type arguments are those of names and joints. -/
theorem mem_front {c : GenericCallee} (h : c.IsProper) {d : Char} (hd : d ∈ c.front) :
    isIdentifierChar d = true ∨ d = ':' ∨ d = '.' := by
  rw [GenericCallee.front, CalleePath.text, List.mem_append, List.mem_append, List.mem_flatMap] at hd
  rcases hd with (⟨step, mem, hd⟩ | hd) | hd
  · rcases List.mem_append.1 hd with hd | hd
    · exact .inl (isIdentifierChar_of_mem (h.path.way step mem) hd)
    · right
      cases joint : step.2 <;> simp_all [Joint.text]
  · exact .inl (isIdentifierChar_of_mem h.path.name hd)
  · split at hd <;> simp_all

/-- The characters of a type argument without brackets are those of names, colons, commas and
blanks. -/
theorem Piece.mem_text {first : Piece} (h : first.IsProper) {d : Char} (hd : d ∈ first.text) :
    isIdentifierChar d = true ∨ d ∈ [':', ',', ' '] := by
  cases first with
  | word name => exact .inl (isIdentifierChar_of_mem h hd)
  | colons | comma | blank => simp_all [Piece.text]

/-- The characters of type arguments are those of their pieces, and angle brackets. -/
theorem TypeArguments.mem_text {g : TypeArguments} (h : g.IsProper) {d : Char} (hd : d ∈ g.text) :
    isIdentifierChar d = true ∨ d ∈ ['<', '>', ':', ',', ' '] := by
  induction g with
  | none => cases hd
  | piece first rest ih =>
    rcases List.mem_append.1 hd with hd | hd
    · exact (first.mem_text h.1 hd).imp_right fun mark => by simp_all
    · exact ih h.2 hd
  | list inner rest innerIH restIH =>
    rw [TypeArguments.text, List.mem_cons, List.mem_append, List.mem_cons] at hd
    rcases hd with rfl | hd | rfl | hd
    · simp
    · exact innerIH h.1 hd
    · simp
    · exact restIH h.2 hd

/-- Characters that neither names nor joints nor type arguments hold. -/
theorem notMem_of_mark {d : Char} (mark : isIdentifierChar d = false)
    (other : d ∉ ['<', '>', ':', ',', ' ', '.']) {c : GenericCallee} (h : c.IsProper) :
    d ∉ c.front ∧ d ∉ c.arguments.text := by
  simp only [List.mem_cons, List.not_mem_nil, or_false, not_or] at other
  refine ⟨fun hd => ?_, fun hd => ?_⟩
  · rcases mem_front h hd with name | colon | dot
    · simp [mark] at name
    · exact other.2.2.1 colon
    · exact other.2.2.2.2.2 dot
  · rcases TypeArguments.mem_text h.arguments hd with name | listed
    · simp [mark] at name
    · simp only [List.mem_cons, List.not_mem_nil, or_false] at listed
      tauto

/-! ## One pass over angle brackets -/

/-- A text without an opening bracket is passed over. -/
theorem dropAngles_of_notMem {u : List Char} (h : '<' ∉ u) (rest : List Char) :
    dropAngles (u ++ rest) = u ++ dropAngles rest := by
  induction u with
  | nil => rfl
  | cons c u ih =>
    rw [List.mem_cons, not_or] at h
    rw [List.cons_append, dropAngles, if_neg (Ne.symm h.1), ih h.2, List.cons_append]

theorem dropAngles_closer (rest : List Char) : dropAngles ('>' :: rest) = '>' :: dropAngles rest :=
  dropAngles_of_notMem (u := ['>']) (by decide) rest

/-- A list without brackets inside is taken off. -/
theorem dropAngles_flat {u : List Char} (h : ∀ c ∈ u, isAngle c = false) (rest : List Char) :
    dropAngles ('<' :: (u ++ '>' :: rest)) = dropAngles rest := by
  have content : (u ++ '>' :: rest).dropWhile (fun c => !isAngle c) = '>' :: rest := by
    rw [List.dropWhile_append_of_pos fun c hc => by simp [h c hc]]
    rfl
  rw [dropAngles, if_pos rfl]
  split
  · rename_i closed
    rw [content, List.cons_eq_cons] at closed
    rw [closed.2]
  · rename_i other
    exact absurd content (other rest)

/-- A bracket in front of another opening one stays. -/
theorem dropAngles_nested {u : List Char} (h : ∀ c ∈ u, isAngle c = false) (rest : List Char) :
    dropAngles ('<' :: (u ++ '<' :: rest)) = '<' :: dropAngles (u ++ '<' :: rest) := by
  have content : (u ++ '<' :: rest).dropWhile (fun c => !isAngle c) = '<' :: rest := by
    rw [List.dropWhile_append_of_pos fun c hc => by simp [h c hc]]
    rfl
  rw [dropAngles, if_pos rfl]
  split
  · rename_i closed
    rw [content, List.cons_eq_cons] at closed
    exact absurd closed.1 (by decide)
  · rfl

/-- The characters of identifiers are no angle brackets. -/
theorem isAngle_of_isIdentifierChar {c : Char} (h : isIdentifierChar c = true) :
    isAngle c = false := by
  rw [isAngle, Bool.or_eq_false_iff, decide_eq_false_iff_not, decide_eq_false_iff_not]
  have apart : c ∉ nameMarks := fun mark => by simp [nameMarks_notIdentifier mark] at h
  simp only [nameMarks, List.mem_cons, not_or] at apart
  exact ⟨apart.1, apart.2.1⟩

/-- A piece holds no angle bracket. -/
theorem Piece.notAngle {first : Piece} (h : first.IsProper) {c : Char} (hc : c ∈ first.text) :
    isAngle c = false := by
  rcases first.mem_text h hc with name | mark
  · exact isAngle_of_isIdentifierChar name
  · simp only [List.mem_cons, List.not_mem_nil, or_false] at mark
    rcases mark with rfl | rfl | rfl <;> rfl

namespace TypeArguments

/-- Type arguments without lists hold no angle bracket; in others the first one opens a list. -/
theorem text_cases {g : TypeArguments} (h : g.IsProper) :
    (g.isFlat = true ∧ ∀ c ∈ g.text, isAngle c = false) ∨
      (g.isFlat = false ∧ ∃ u r, g.text = u ++ '<' :: r ∧ ∀ c ∈ u, isAngle c = false) := by
  induction g with
  | none => exact .inl ⟨rfl, by simp [text]⟩
  | piece first rest ih =>
    rcases ih h.2 with ⟨flat, none⟩ | ⟨nested, u, r, split, none⟩
    · refine .inl ⟨flat, fun c hc => ?_⟩
      exact (List.mem_append.1 hc).elim (first.notAngle h.1) (none c)
    · refine .inr ⟨nested, first.text ++ u, r, by rw [text, split, List.append_assoc], fun c hc => ?_⟩
      exact (List.mem_append.1 hc).elim (first.notAngle h.1) (none c)
  | list inner rest => exact .inr ⟨rfl, [], _, rfl, by simp⟩

/-- **One pass takes off the lists that hold no others, and nothing else.** -/
theorem dropAngles_text {g : TypeArguments} (h : g.IsProper) (behind : List Char) :
    dropAngles (g.text ++ behind) = g.pruned.text ++ dropAngles behind := by
  induction g generalizing behind with
  | none => rfl
  | piece first rest ih =>
    have noAngle : '<' ∉ first.text := fun hc => by simpa [isAngle] using first.notAngle h.1 hc
    rw [text, pruned, text, List.append_assoc, dropAngles_of_notMem noAngle, ih h.2, List.append_assoc]
  | list inner rest innerIH restIH =>
    rw [text, List.cons_append, List.append_assoc, List.cons_append, pruned]
    rcases text_cases h.1 with ⟨flat, none⟩ | ⟨nested, u, r, split, none⟩
    · rw [if_pos flat, dropAngles_flat none, restIH h.2]
    · have stays : dropAngles ('<' :: (inner.text ++ '>' :: (rest.text ++ behind))) =
          '<' :: dropAngles (inner.text ++ '>' :: (rest.text ++ behind)) := by
        rw [split, List.append_assoc, List.cons_append, dropAngles_nested none]
      rw [if_neg (by simp [nested]), stays, innerIH h.1, dropAngles_closer, restIH h.2, text,
        List.cons_append, List.append_assoc, List.cons_append]

/-- Pruned type arguments are proper. -/
theorem isProper_pruned {g : TypeArguments} (h : g.IsProper) : g.pruned.IsProper := by
  induction g with
  | none => exact h
  | piece first rest ih => exact ⟨h.1, ih h.2⟩
  | list inner rest innerIH restIH =>
    rw [pruned]
    split
    · exact restIH h.2
    · exact ⟨innerIH h.1, restIH h.2⟩

end TypeArguments

/-! ## Segments of a path -/

/-- The marks that stand between segments. -/
def jointMarks : List Char := [':', '.', '-', '?']

/-- A text without joints goes on the segment behind it. -/
theorem pathSegments_word {w : List Char} (h : ∀ c ∈ w, c ∉ jointMarks) (rest : List Char) :
    pathSegments (w ++ rest) = w.foldr consFirst (pathSegments rest) := by
  induction w with
  | nil => rfl
  | cons c w ih =>
    have plain := h c List.mem_cons_self
    simp only [jointMarks, List.mem_cons, List.not_mem_nil, or_false, not_or] at plain
    rw [List.cons_append, pathSegments, ih fun d hd => h d (List.mem_cons_of_mem _ hd),
      List.foldr_cons]
    all_goals simp [plain]

theorem pathSegments_joint (j : Joint) (rest : List Char) :
    pathSegments (j.text ++ rest) = [] :: pathSegments rest := by
  cases j <;> rfl

theorem notMem_jointMarks {w : List Char} (h : isIdentifier w = true) {c : Char} (hc : c ∈ w) :
    c ∉ jointMarks := by
  have marks : jointMarks ⊆ nameMarks := by simp [jointMarks, nameMarks]
  exact fun mark => notMem_of_isIdentifier h (nameMarks_notIdentifier (marks mark)) hc

/-- The segments of a path are its names. -/
theorem pathSegments_text {p : CalleePath} (h : p.IsProper) (rest : List Char) :
    pathSegments (p.text ++ rest) =
      p.way.map (·.1) ++ p.name.foldr consFirst (pathSegments rest) := by
  obtain ⟨way, name⟩ := p
  have steps : ∀ step ∈ way, isIdentifier step.1 = true := h.way
  have own : isIdentifier name = true := h.name
  rw [CalleePath.text]
  clear h
  induction way with
  | nil => exact pathSegments_word (fun _ => notMem_jointMarks own) rest
  | cons step way ih =>
    have first := pathSegments_word
      (fun _ => notMem_jointMarks (steps step List.mem_cons_self))
      (step.2.text ++ (way.flatMap (fun step => step.1 ++ step.2.text) ++ name ++ rest))
    rw [pathSegments_joint, foldr_consFirst, List.append_nil,
      ih fun other mem => steps other (List.mem_cons_of_mem _ mem)] at first
    simpa using first

/-- An angle bracket at the end of a text stands in its last segment. -/
theorem getLast?_pathSegments {u : List Char} (h : '-' ∉ u) :
    ∃ ps q, pathSegments (u ++ ['>']) = ps ++ [q ++ ['>']] := by
  fun_induction pathSegments u with
  | case1 => exact ⟨[], [], rfl⟩
  | case2 r ih =>
    obtain ⟨ps, q, split⟩ := ih (by simp_all)
    exact ⟨[] :: ps, q, congrArg ([] :: ·) split⟩
  | case3 r ih =>
    obtain ⟨ps, q, split⟩ := ih (by simp_all)
    exact ⟨[] :: ps, q, congrArg ([] :: ·) split⟩
  | case4 r => simp at h
  | case5 r ih =>
    obtain ⟨ps, q, split⟩ := ih (by simp_all)
    exact ⟨[] :: ps, q, congrArg ([] :: ·) split⟩
  | case6 c r colons dot arrow question ih =>
    obtain ⟨ps, q, split⟩ := ih (by simp_all)
    have next : pathSegments (c :: (r ++ ['>'])) = consFirst c (pathSegments (r ++ ['>'])) := by
      -- What is behind the text makes no joint out of its last character.
      have minus : c ≠ '-' := by
        rintro rfl
        simp at h
      rw [pathSegments] <;> cases r <;> simp_all
    rw [List.cons_append, next, split]
    cases ps with
    | nil => exact ⟨[], c :: q, rfl⟩
    | cons p ps => exact ⟨(c :: p) :: ps, q, rfl⟩

/-! ## Names -/

/-- What stands in front of the type arguments holds no blank. -/
theorem isBlank_front {c : GenericCallee} (h : c.IsProper) : ∀ d ∈ c.front, isBlank d = false := by
  intro d hd
  rcases mem_front h hd with name | rfl | rfl
  · exact (isIdentifierChar_isFlat name).1
  · decide
  · decide

/-- A generic callee has nothing to trim. -/
theorem trim_text {c : GenericCallee} (h : c.IsProper) : trim c.text = c.text :=
  trim_group (by decide) (by decide)
    (trim_eq_self (fun _ hd => isBlank_front h _ (List.mem_of_head? hd))
      fun _ hd => isBlank_front h _ (List.mem_of_getLast? hd)) c.arguments.text

/-- A text without the character is taken whole. -/
theorem upTo_eq_self {d : Char} {u : List Char} (h : d ∉ u) : upTo d u = u := by
  rw [upTo, List.takeWhile_eq_self_iff]
  intro e he
  simpa using fun same : e = d => h (same ▸ he)

/-- What stands in front of the type arguments holds no angle bracket. -/
theorem angle_notMem_front {c : GenericCallee} (h : c.IsProper) : '<' ∉ c.front := fun hd => by
  rcases mem_front h hd with name | other | other
  · exact absurd (isAngle_of_isIdentifierChar name) (by decide)
  · cases other
  · cases other

/-- The name at the end of a path is read. -/
theorem getLastD_front {c : GenericCallee} (h : c.IsProper) :
    ((pathSegments c.front).filter (· ≠ [])).getLastD [] = c.path.name := by
  have name : c.path.name ≠ [] := (IsHead.of_isIdentifier h.path.name).nonempty
  rw [GenericCallee.front, pathSegments_text h.path]
  cases c.hasColons <;>
    simp [pathSegments, foldr_consFirst, name]

/-- **Without further lists in its arguments, the name of a generic callee is read.** -/
theorem calleeName_of_isFlat {c : GenericCallee} (h : c.IsProper) (flat : c.arguments.isFlat = true) :
    calleeName c.text = c.path.name := by
  have noAngle : ∀ d ∈ c.arguments.text, isAngle d = false := by
    rcases TypeArguments.text_cases h.arguments with ⟨-, none⟩ | ⟨nested, -⟩
    · exact none
    · rw [flat] at nested
      cases nested
  have left : dropAngles c.text = c.front := by
    rw [GenericCallee.text, dropAngles_of_notMem (angle_notMem_front h), dropAngles_flat noAngle,
      dropAngles, List.append_nil]
  have noCall : '(' ∉ c.front :=
    (notMem_of_mark (nameMarks_notIdentifier (by decide)) (by decide) h).1
  rw [calleeName, trim_text h, left, upTo_eq_self noCall, getLastD_front h,
    (IsHead.of_isIdentifier h.path.name).trimmed]

/-- **With a list in its arguments, the name that is read holds an angle bracket.** -/
theorem mem_calleeName_of_nested {c : GenericCallee} (h : c.IsProper)
    (nested : c.arguments.isFlat = false) : '>' ∈ calleeName c.text := by
  obtain ⟨u, r, split, none⟩ : ∃ u r, c.arguments.text = u ++ '<' :: r ∧
      ∀ d ∈ u, isAngle d = false := by
    rcases TypeArguments.text_cases h.arguments with ⟨flat, -⟩ | ⟨-, split⟩
    · rw [nested] at flat
      cases flat
    · exact split
  -- The outermost brackets stay, whatever the pass takes off between them.
  have left : dropAngles c.text = c.front ++ '<' :: (c.arguments.pruned.text ++ ['>']) := by
    have stays : dropAngles ('<' :: (c.arguments.text ++ ['>'])) =
        '<' :: dropAngles (c.arguments.text ++ ['>']) := by
      rw [split, List.append_assoc, List.cons_append, dropAngles_nested none]
    rw [GenericCallee.text, dropAngles_of_notMem (angle_notMem_front h), stays,
      TypeArguments.dropAngles_text h.arguments, dropAngles_closer, dropAngles]
  have pruned : GenericCallee.IsProper { c with arguments := c.arguments.pruned } :=
    ⟨h.path, TypeArguments.isProper_pruned h.arguments⟩
  have notMem {d : Char} (mark : isIdentifierChar d = false)
      (other : d ∉ ['<', '>', ':', ',', ' ', '.']) :
      d ∉ c.front ++ '<' :: c.arguments.pruned.text := by
    have apart := notMem_of_mark mark other pruned
    have angle : d ≠ '<' := fun same => by simp [same] at other
    rw [List.mem_append, List.mem_cons]
    exact fun hd => hd.elim apart.1 fun hd => hd.elim angle apart.2
  have noCall : '(' ∉ c.front ++ '<' :: (c.arguments.pruned.text ++ ['>']) := by
    have apart := notMem (d := '(') (nameMarks_notIdentifier (by decide)) (by decide)
    simpa using apart
  have noArrow := notMem (d := '-') (nameMarks_notIdentifier (by decide)) (by decide)
  obtain ⟨ps, q, segments⟩ := getLast?_pathSegments noArrow
  rw [List.append_assoc, List.cons_append] at segments
  have last : ((ps ++ [q ++ ['>']]).filter (· ≠ [])).getLastD [] = q ++ ['>'] := by simp
  rw [calleeName, trim_text h, left, upTo_eq_self noCall, segments, last]
  exact mem_trim (by simp) (by decide)

/-- **The callee's name is an identifier exactly if its type arguments are flat.** -/
theorem isIdentifier_calleeName {c : GenericCallee} (h : c.IsProper) :
    isIdentifier (calleeName c.text) = c.arguments.isFlat := by
  cases flat : c.arguments.isFlat with
  | true => rw [calleeName_of_isFlat h flat, h.path.name]
  | false =>
    rw [Bool.eq_false_iff]
    intro name
    exact notMem_of_isIdentifier name (nameMarks_notIdentifier (by decide))
      (mem_calleeName_of_nested h flat)

/-! ## Calls -/

/-- Whether a node of a call names a generic callee in one of the roles. -/
def IsCallOf (s : Source) (roles : List String) (call : Node) (c : GenericCallee) : Prop :=
  c.IsProper ∧ ∃ callee, call.childIn? roles = some callee ∧ s.chars callee = c.text

/-- Calls of generic callees are named by those with flat arguments. -/
theorem names_generic {s : Source} {roles : List String} {calls : List Node}
    {callees : List GenericCallee} (h : List.Forall₂ (IsCallOf s roles) calls callees) :
    (calls.filterMap fun n => (n.childIn? roles).map fun c => calleeName (s.chars c)).filter
        isIdentifier =
      (callees.filter (·.arguments.isFlat)).map (·.path.name) := by
  induction h with
  | nil => rfl
  | cons first rest ih =>
    obtain ⟨proper, callee, found, text⟩ := first
    rw [List.filterMap_cons, found, Option.map_some, text]
    dsimp only
    rw [List.filter_cons, ih, isIdentifier_calleeName proper, List.filter_cons]
    split
    · rename_i flat
      rw [calleeName_of_isFlat proper flat, List.map_cons]
    · rfl

/-- **Of the generic functions that a body calls, those are listed whose arguments hold no lists.** -/
theorem calls_generic {s : Source} {kinds roles : List String} {body : Node}
    {callees : List GenericCallee}
    (h : List.Forall₂ (IsCallOf s roles) (body.walk.filter (kinds.contains ·.kind)) callees) :
    s.calls kinds roles (some body) =
      addNames [] ((callees.filter (·.arguments.isFlat)).map (String.ofList ·.path.name)) := by
  have nodes : body.walk.filterMap (fun n =>
        if kinds.contains n.kind then (n.childIn? roles).map fun c => calleeName (s.chars c)
        else none) =
      (body.walk.filter (kinds.contains ·.kind)).filterMap fun n =>
        (n.childIn? roles).map fun c => calleeName (s.chars c) :=
    List.filterMap_filter.symm
  rw [Source.calls, Option.map_some, Option.getD_some]
  simp only [nodes, names_generic h, List.map_map]
  rfl

/-- **The name of a generic callee is read exactly if its arguments hold no lists of their own.**  A
body that calls nothing else lists the name then, and nothing otherwise. -/
theorem calleeName_generic {c : GenericCallee} (h : c.IsProper) :
    (calleeName c.text = c.path.name ↔ c.arguments.isFlat = true) ∧
      ∀ (s : Source) (kinds roles : List String) (body call callee : Node),
        body.walk.filter (kinds.contains ·.kind) = [call] → call.childIn? roles = some callee →
          s.chars callee = c.text →
            s.calls kinds roles (some body) =
              if c.arguments.isFlat then [String.ofList c.path.name] else [] := by
  refine ⟨⟨fun same => ?_, calleeName_of_isFlat h⟩, ?_⟩
  · rw [← isIdentifier_calleeName h, same, h.path.name]
  · intro s kinds roles body call callee only found text
    have calls : List.Forall₂ (IsCallOf s roles) (body.walk.filter (kinds.contains ·.kind)) [c] :=
      only ▸ .cons ⟨h, callee, found, text⟩ .nil
    have name : String.ofList c.path.name ≠ "" := fun empty =>
      (IsHead.of_isIdentifier h.path.name).nonempty (String.ofList_injective empty)
    rw [calls_generic calls]
    cases flat : c.arguments.isFlat <;> simp [addNames, addName, name, flat]

/-- The callee `Vec::new::<K, a::V>`. -/
def plainCallee : GenericCallee :=
  { path := ⟨[("Vec".toList, .colons)], "new".toList⟩
    hasColons := true
    arguments :=
      .piece (.word "K".toList) (.piece .comma (.piece .blank
        (.piece (.word "a".toList) (.piece .colons (.piece (.word "V".toList) .none))))) }

/-- A body that calls a constructor with plain arguments lists its name. -/
theorem calleeName_generic_plain :
    let s : Source :=
      { path := "a.rs", bytes := "Vec::new::<K, a::V>()".toUTF8.toList, lines := [] }
    let callee : Node := .mk "generic_function" true false 0 19 "function" []
    let call : Node := .mk "call_expression" true false 0 21 "" [callee]
    plainCallee.text = "Vec::new::<K, a::V>".toList ∧ plainCallee.IsProper ∧
      calleeName "Vec::new::<K, a::V>".toList = "new".toList ∧
        s.calls ["call_expression"] ["function"] (some call) = ["new"] := by
  intro s callee call
  have proper : plainCallee.IsProper :=
    ⟨⟨by decide +kernel, by decide +kernel⟩,
      by simp only [plainCallee, TypeArguments.IsProper, Piece.IsProper]; decide +kernel⟩
  have law := calleeName_generic proper
  exact ⟨by decide, proper, law.1.2 rfl,
    law.2 s ["call_expression"] ["function"] call call callee rfl rfl (by decide +kernel)⟩

/-- **A list in the arguments hides the callee.**  The inner brackets are taken off and the outer ones
stay, so that no identifier is left. -/
theorem nested_arguments_hide_callee :
    let c : GenericCallee :=
      { path := ⟨[], "foo".toList⟩
        hasColons := false
        arguments := .piece (.word "Vec".toList) (.list (.piece (.word "T".toList) .none) .none) }
    c.text = "foo<Vec<T>>".toList ∧ calleeName c.text = "foo<Vec>".toList ∧
      calleeName c.text ≠ c.path.name ∧ isIdentifier (calleeName c.text) = false := by
  decide +kernel

end Concord.Syntax
