import Concord.Proofs.Reader.Declared
import Concord.Proofs.Text.Rows

/-!
# Concord.Proofs.Reader.Digest

Which text the digest of a declaration covers.  A declaration has a span of lines, and its location
and its digest both tell of that span (`IsOfSpan`).  But a parser counts the rows of the text, and
the digest counts the lines that these rows break into.

* `isOfSpan_of_mem_types`, `isOfSpan_of_mem_functions` — every reader gives location and digest the
  same span;
* `digestLines_eq` — a span of lines is digested without blank lines and white space around lines;
* `read_isDigestOf` — so a digest covers the rows of the location, if no row up to there breaks.

A row that a form feed or another such character breaks shifts the digests of all declarations below
it, whose locations stay (`form_feed_shifts_digest`).
-/

namespace Concord

open Text

/-! ## Spans -/

/-- The digest of rows: of their text between white space, one row a line, without blank rows. -/
def digestOf (rows : List (List Char)) : String :=
  Digest.md5 (Utf8.encode (['\n'].intercalate (kept rows)))

/-- The digest of lines is that of their span, and empty where there is none. -/
theorem digestLines_eq (lines : List (List Char)) (first last : Nat) :
    digestLines lines first last =
      if lines = [] ∨ last < first then "" else digestOf (span lines first last) := by
  have nonneg : ¬ ((last : Int) < 0) := by omega
  have stop : (last : Int).toNat = last := Int.toNat_natCast last
  have skip : ((first : Int) - 1).toNat = first - 1 := by omega
  simp only [digestLines, digestOf, kept, span_eq, if_neg nonneg, stop, skip, Bool.or_eq_true,
    List.isEmpty_iff, decide_eq_true_eq, Int.ofNat_lt]

/-- Whether a location and a digest are those of one span of the lines of a source. -/
def IsOfSpan (s : Source) (location? : Option Location) (digest? : Option String) : Prop :=
  ∃ first last : Nat, location? = some ⟨s.path, first, last⟩ ∧
    digest? = some (digestLines s.lines first last)

namespace Reader

section

variable {s : Source} {t : TypeDecl} {f : FunctionDecl}

/-- A type of Go has the location and the digest of one span. -/
theorem Go.IsType.isOfSpan (h : Go.IsType s t) : IsOfSpan s t.location? t.digest? := by
  obtain ⟨anchor, spec, rfl⟩ := h
  rw [Go.readType]
  dsimp only
  split <;> exact ⟨_, _, rfl, rfl⟩

theorem Rust.IsType.isOfSpan (h : Rust.IsType s t) : IsOfSpan s t.location? t.digest? := by
  cases h <;> exact ⟨_, _, rfl, rfl⟩

/-- A type of TypeScript has the location and the digest of one span. -/
theorem TypeScript.IsType.isOfSpan (h : TypeScript.IsType s t) :
    IsOfSpan s t.location? t.digest? := by
  cases h with
  | classType | interface | enum => exact ⟨_, _, rfl, rfl⟩
  | synonym =>
    rw [TypeScript.readAlias]
    split
    · exact ⟨_, _, rfl, rfl⟩
    · split <;> exact ⟨_, _, rfl, rfl⟩

theorem Java.IsType.isOfSpan (h : Java.IsType s t) : IsOfSpan s t.location? t.digest? := by
  obtain ⟨inInterface, kind, site, -, rfl⟩ := h
  exact ⟨_, _, rfl, rfl⟩

theorem CSharp.IsType.isOfSpan (h : CSharp.IsType s t) : IsOfSpan s t.location? t.digest? := by
  obtain ⟨inInterface, kind, site, -, rfl⟩ := h
  exact ⟨_, _, rfl, rfl⟩

/-- A type of Python has the location and the digest of one span. -/
theorem Python.IsType.isOfSpan (h : Python.IsType s t) : IsOfSpan s t.location? t.digest? := by
  cases h with
  | classType statement first =>
    rw [Python.readClass, List.head?_cons] at first
    cases first
    exact ⟨_, _, rfl, rfl⟩
  | synonym statement only =>
    rw [Python.readAlias] at only
    split at only
    · cases only
    · cases only
      exact ⟨_, _, rfl, rfl⟩

/-- A type of a language with concrete trees has the location and the digest of one span. -/
theorem IsType.isOfSpan {language : Language} (h : IsType language s t) :
    IsOfSpan s t.location? t.digest? := by
  cases language with
  | go => exact Go.IsType.isOfSpan h
  | rust => exact Rust.IsType.isOfSpan h
  | java => exact Java.IsType.isOfSpan h
  | csharp => exact CSharp.IsType.isOfSpan h
  | typescript => exact TypeScript.IsType.isOfSpan h
  | python => exact h.elim

/-- A function of a language with concrete trees has the location and the digest of one span. -/
theorem IsFunction.isOfSpan {language : Language} (h : IsFunction language s f) :
    IsOfSpan s f.location? f.digest? := by
  cases language with
  | go => obtain ⟨site, receiver?, rfl⟩ := h; exact ⟨_, _, rfl, rfl⟩
  | rust => obtain ⟨receiver?, isOfTrait, site, rfl⟩ := h; exact ⟨_, _, rfl, rfl⟩
  | java => obtain ⟨owner, site, rfl⟩ := h; exact ⟨_, _, rfl, rfl⟩
  | csharp => obtain ⟨owner, site, rfl⟩ := h; exact ⟨_, _, rfl, rfl⟩
  | typescript =>
    obtain ⟨declaration, value, anchor, isExported, receiver?, rfl⟩ := h
    exact ⟨_, _, rfl, rfl⟩
  | python => exact h.elim

theorem Python.IsFunction.isOfSpan (h : Python.IsFunction s f) :
    IsOfSpan s f.location? f.digest? := by
  obtain ⟨receiver?, statement, rfl⟩ := h
  exact ⟨_, _, rfl, rfl⟩

end

/-! ## Files -/

/-- The source that a file is read as. -/
def sourceOf (path : String) (bytes : List UInt8) : Parsed → Source
  | .concrete tree => .ofTree path bytes tree
  | .abstract _ => Python.source path bytes
  | _ => { path, bytes, lines := lines (Utf8.decodeLossy bytes) }

/-- The text of a file, without a mark of the encoding if the parser skips that. -/
def textOf (bytes : List UInt8) : Parsed → List Char
  | .abstract _ => Utf8.decodeLossy (Utf8.dropMark bytes)
  | _ => Utf8.decodeLossy bytes

/-- The rows that a parser counts: concrete trees count line feeds in the bytes, abstract ones count
carriage returns as well. -/
def rowsOf (bytes : List UInt8) : Parsed → List (List Char)
  | .abstract root => unixLines (textOf bytes (.abstract root))
  | _ => (bytes.splitOn 10).map Utf8.decodeLossy

variable {language : Language} {path : String} {bytes : List UInt8} {parsed : Parsed}

/-- **Location and digest of a type tell of one span.** -/
theorem isOfSpan_of_mem_types {t : TypeDecl} (h : t ∈ (read language path bytes parsed).types) :
    IsOfSpan (sourceOf path bytes parsed) t.location? t.digest? := by
  cases parsed with
  | concrete tree =>
    have isType : IsType language (.ofTree path bytes tree) t :=
      of_mem_declarations (mem_types_ofDeclarations.1 h)
    exact isType.isOfSpan
  | abstract root =>
    have isType : Python.IsType (Python.source path bytes) t :=
      Python.of_mem_read (mem_types_ofDeclarations.1 h)
    exact isType.isOfSpan
  | malformed | refused | data => cases h

/-- **Location and digest of a function tell of one span.** -/
theorem isOfSpan_of_mem_functions {f : FunctionDecl}
    (h : f ∈ (read language path bytes parsed).functions) :
    IsOfSpan (sourceOf path bytes parsed) f.location? f.digest? := by
  cases parsed with
  | concrete tree =>
    have isFunction : IsFunction language (.ofTree path bytes tree) f :=
      of_mem_declarations (mem_functions_ofDeclarations.1 h)
    exact isFunction.isOfSpan
  | abstract root =>
    have isFunction : Python.IsFunction (Python.source path bytes) f :=
      Python.of_mem_read (mem_functions_ofDeclarations.1 h)
    exact isFunction.isOfSpan
  | malformed | refused | data => cases h

theorem lines_sourceOf : (sourceOf path bytes parsed).lines = lines (textOf bytes parsed) := by
  cases parsed <;> rfl

/-- What is kept of a span of lines is what is kept of the rows, broken at their other ends. -/
theorem kept_span_rowsOf (first last : Nat) :
    kept (span (lines (textOf bytes parsed)) first last) =
      kept (span ((rowsOf bytes parsed).flatMap broken) first last) := by
  cases parsed with
  | abstract root =>
    rw [← lines_unixLineEnds]
    exact kept_span_lines _ first last
  | concrete | malformed | refused | data =>
    refine (kept_span_lines _ first last).trans ?_
    rw [textOf, splitOn_decodeLossy]
    · rfl
    · nofun

/-! ## Digests -/

/-- Whether a digest is that of a location in a text with these rows.  In general it covers the
lines that the rows break into, under the numbers of the location; as long as no row up to there
breaks, these are the rows themselves. -/
structure IsDigestOf (text : List Char) (rows : List (List Char)) (l : Location) (d : String) :
    Prop where
  ofLines : d = if text = [] ∨ l.last < l.first then ""
    else digestOf (span (rows.flatMap broken) l.first l.last)
  ofRows : text ≠ [] → l.first ≤ l.last → (∀ row ∈ span rows 1 l.last, IsWhole row) →
    d = digestOf (span rows l.first l.last)

/-- The digest of a span is that of the rows it covers. -/
theorem isDigestOf_of_isOfSpan {location? : Option Location} {digest? : Option String}
    (h : IsOfSpan (sourceOf path bytes parsed) location? digest?) :
    ∃ l d, location? = some l ∧ digest? = some d ∧
      IsDigestOf (textOf bytes parsed) (rowsOf bytes parsed) l d := by
  obtain ⟨first, last, located, digested⟩ := h
  have noLines : lines (textOf bytes parsed) = [] ↔ textOf bytes parsed = [] :=
    ⟨fun none => Decidable.byContradiction fun some => lines_ne_nil some none,
      fun none => by rw [none]; rfl⟩
  have covered : digestLines (sourceOf path bytes parsed).lines first last =
      if textOf bytes parsed = [] ∨ last < first then ""
      else digestOf (span ((rowsOf bytes parsed).flatMap broken) first last) := by
    simp only [lines_sourceOf, digestLines_eq, noLines, digestOf, kept_span_rowsOf]
  refine ⟨_, _, located, digested, ?_, fun nonempty ordered whole => ?_⟩
  · simpa only [Int.ofNat_lt] using covered
  · have some : ¬ (textOf bytes parsed = [] ∨ last < first) :=
      not_or.2 ⟨nonempty, Nat.not_lt.2 (Int.ofNat_le.1 ordered)⟩
    rw [covered, if_neg some, digestOf, kept_span_flatMap whole, digestOf]

/-- What stands above a location does not matter to its digest, as long as no row breaks. -/
theorem IsDigestOf.eq_of_span_eq {text text' : List Char} {rows rows' : List (List Char)}
    {l : Location} {d d' : String} (h : IsDigestOf text rows l d)
    (h' : IsDigestOf text' rows' l d') (nonempty : text ≠ []) (nonempty' : text' ≠ [])
    (ordered : l.first ≤ l.last) (whole : ∀ row ∈ span rows 1 l.last, IsWhole row)
    (whole' : ∀ row ∈ span rows' 1 l.last, IsWhole row)
    (same : span rows l.first l.last = span rows' l.first l.last) : d = d' := by
  rw [h.ofRows nonempty ordered whole, h'.ofRows nonempty' ordered whole', same]

/-- **A digest covers the lines of its declaration.**  The digest of every type and every function
is that of the rows of its location, as long as no character up to the end of the location breaks a
row. -/
theorem read_isDigestOf (language : Language) (path : String) (bytes : List UInt8)
    (parsed : Parsed) :
    let o := read language path bytes parsed
    let text := textOf bytes parsed
    let rows := rowsOf bytes parsed
    (∀ t ∈ o.types, ∃ l d, t.location? = some l ∧ t.digest? = some d ∧ IsDigestOf text rows l d) ∧
      ∀ f ∈ o.functions,
        ∃ l d, f.location? = some l ∧ f.digest? = some d ∧ IsDigestOf text rows l d :=
  ⟨fun _ ht => isDigestOf_of_isOfSpan (isOfSpan_of_mem_types ht),
    fun _ hf => isDigestOf_of_isOfSpan (isOfSpan_of_mem_functions hf)⟩

/-- A class below a comment that holds a form feed. -/
def classBelowFormFeed : SourceFile where
  path := "app.py"
  bytes := Utf8.encode "# \x0c\nclass A: pass\n".toList
  parsed := .abstract <| .node "" "Module" 0 0 ""
    [.node "body" "ClassDef" 2 2 "" [.word "name" "A", .node "body" "Pass" 2 2 "" []]]

/-- **A form feed above a class shifts its digest.**  The class stands in the second row, and its
digest is that of no text at all: the form feed makes two lines of the first row. -/
theorem form_feed_shifts_digest :
    let file := classBelowFormFeed
    let o := read .python file.path file.bytes file.parsed
    span (rowsOf file.bytes file.parsed) 2 2 = ["class A: pass".toList] ∧
      o.types.map (fun t => (t.name, t.location?, t.digest?)) =
        [("A", some ⟨"app.py", 2, 2⟩, some (digestOf []))] ∧
      digestOf [] ≠ digestOf ["class A: pass".toList] := by
  intro file o
  refine ⟨by decide +kernel, by decide +kernel, by decide +kernel⟩

end Reader
end Concord
