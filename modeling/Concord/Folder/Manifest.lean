import Concord.Document.Json
import Concord.Folder.Basic
import Concord.Text.Line

/-!
# Concord.Folder.Manifest

The name of a project, from the manifests of its tools.  The manifest of the project's own language
is consulted first; the name of the directory stands in where no manifest gives a name.
-/

namespace Concord.Folder

open Text Document

/-- The text of a file; bytes that are no text are replaced. -/
def textOf (content : Content) : List Char := unixLineEnds (Utf8.decodeLossy content.bytes)

/-! ## Single manifests -/

/-- The module path in `go.mod`. -/
def goModule? (project : Folder) : Option String :=
  (project.file? "go.mod").bind fun content =>
    ((lines (textOf content)).map trim).findSome? fun line =>
      (after? "module " line).map fun path => String.ofList (trimBy (· = '"') (trim path))

/-- The last name in a module path. -/
def lastName (path : String) : String :=
  String.ofList (((trimEndBy (· = '/') path.toList).splitOn '/').getLastD [])

/-- Whether `c` is a quote. -/
def isQuote (c : Char) : Bool := c = '"' || c = '\''

/-- The name in an assignment `name = "…"` at the front of a text. -/
def assignedName? (s : List Char) : Option String := do
  let s ← after? "name" (trimStart s)
  let s ← after? "=" (trimStart s)
  match trimStart s with
  | [] => none
  | c :: r =>
    let name := r.takeWhile (!isQuote ·)
    if isQuote c && !name.isEmpty && (r.dropWhile (!isQuote ·)) ≠ [] then
      some (String.ofList name)
    else none

/-- The name in the first assignment `name = "…"` that begins a line. -/
def tomlName? (s : List Char) : Option String :=
  match assignedName? s with
  | some name => some name
  | none =>
    match _h : s.dropWhile (· ≠ '\n') with
    | [] => none
    | _ :: rest => tomlName? rest
termination_by s.length
decreasing_by
  have le := (List.dropWhile_sublist (l := s) fun c => decide (c ≠ '\n')).length_le
  rw [_h, List.length_cons] at le
  omega

/-- The name in a file of assignments. -/
def tomlNameIn? (file : String) (project : Folder) : Option Value :=
  ((project.file? file).bind fun content => tomlName? (textOf content)).map .text

/-- The document in `package.json`; nothing if it cannot be read. -/
def packageDocument? (content : Content) : Option Value :=
  (Utf8.decode? content.bytes).bind Json.read?

/-- The name of a file without its last ending. -/
def stem (name : String) : String :=
  let s := name.toList
  let ending := (s.reverse.takeWhile (· ≠ '.')).length
  if ending = 0 || s.length ≤ ending + 1 then name
  else String.ofList (s.take (s.length - ending - 1))

/-- The name of the first project file of .NET. -/
def projectFileName? (project : Folder) : Option String :=
  let names := (project.map (·.name)).filter fun name => ends ".csproj" name.toList
  (names.mergeSort fun a b => a ≤ b).head?.map stem

/-! ## All manifests -/

/-- A manifest: the language whose projects have it, the name that it gives, and whether it cannot
be read. -/
structure Manifest where
  language : Language
  name? : Option Value
  /-- The file that is there but cannot be read. -/
  unreadable? : Option String := none

/-- The manifest `package.json`. -/
def packageManifest (project : Folder) : Manifest :=
  match project.file? "package.json" with
  | none => ⟨.typescript, none, none⟩
  | some content =>
    match packageDocument? content with
    | none => ⟨.typescript, none, some "package.json"⟩
    | some document => ⟨.typescript, document.get? "name", none⟩

/-- The manifests of a project, in the order in which they are consulted where none is preferred. -/
def manifests (project : Folder) : List Manifest :=
  [{ language := .go, name? := (goModule? project).map fun path => .text (lastName path) },
   { language := .python, name? := tomlNameIn? "pyproject.toml" project },
   { language := .rust, name? := tomlNameIn? "Cargo.toml" project },
   packageManifest project,
   { language := .csharp, name? := (projectFileName? project).map .text }]

/-- The manifests with those of a language in front. -/
def preferring (language? : Option Language) (ms : List Manifest) : List Manifest :=
  ms.filter (some ·.language == language?) ++ ms.filter (some ·.language != language?)

/-- The first name that manifests give, and the files among those consulted that cannot be read. -/
def consult : List Manifest → Option Value × List String
  | [] => (none, [])
  | m :: ms =>
    match m.name?.filter (·.isTruthy) with
    | some name => (some name, m.unreadable?.toList)
    | none =>
      let (name?, unreadable) := consult ms
      (name?, m.unreadable?.toList ++ unreadable)

/-- The name of the project at a path, with the warnings about manifests that cannot be read. -/
def projectName (f : Folder) (root : String) (language? : Option Language) :
    Value × List String :=
  let project := ((f.project? root).map (·.2)).getD []
  let (name?, unreadable) := consult (preferring language? (manifests project))
  (name?.getD (.text ((Path.resolve [] root).getLastD "")),
    unreadable.map fun file => "Could not read " ++ Path.normalize (Path.normalize root ++ "/" ++ file))

end Concord.Folder
