import Concord.Folder.Basic
import Concord.Settings.Check

/-!
# Concord.Settings.Load

Settings from a file and from what overrides it.  What the overrides say counts most, then what the
file says, then the usual settings; sections are merged entry by entry at every depth.

Documents are trees: a section that a file holds at two places under an alias counts as two, each of
which is merged by itself.
-/

namespace Concord.Settings

open Document

/-- What stops the loading of settings. -/
inductive LoadFailure where
  /-- The file is not well-formed text. -/
  | malformedText
  /-- The document in the file, or a part of it that should be an entry, is no collection, or a key
  is no text. -/
  | noCollection
  /-- A part of the document that should be an entry does not have two members. -/
  | noPair
  | invalid (problems : List Problem)
deriving Repr

/-- The file that is read where no other is named. -/
def usualPath : String := "codeparity.config.yaml"

/-! ## Entries of a document -/

/-- The members of a value that is a collection: characters, items or keys. -/
def members? : Value → Option (List Value)
  | .text s => some (s.toList.map fun c => .text c.toString)
  | .list items => some items
  | .table entries => some (entries.map fun e => .text e.1)
  | _ => none

/-- Whether a value may be a key of a table. -/
def isKey : Value → Bool
  | .list _ => false
  | .table _ => false
  | _ => true

/-- The key and the value that a part of a document stands for. -/
def pair (part : Value) : Except LoadFailure (Value × Value) :=
  match members? part with
  | none => .error .noCollection
  | some [key, value] => if isKey key then .ok (key, value) else .error .noCollection
  | some _ => .error .noPair

/-- The text of a key. -/
def keyText (e : Value × Value) : Except LoadFailure (String × Value) :=
  match e.1 with
  | .text key => .ok (key, e.2)
  | _ => .error .noCollection

/-- The entries of a document: those of a table, or pairs of keys and values.  An empty document
has none. -/
def entriesOf (document : Value) : Except LoadFailure (List (String × Value)) :=
  if !document.isTruthy then .ok []
  else
    match document with
    | .table entries => .ok entries
    | _ =>
      match members? document with
      | none => .error .noCollection
      | some parts => do
        let pairs ← parts.mapM pair
        return (← pairs.mapM keyText).foldl (fun entries e => put e.1 e.2 entries) []

/-! ## Merging -/

mutual

/-- The value `new` in the place of `old?`; the entries of two tables are merged. -/
def mergeValue (old? : Option Value) : Value → Value
  | .table new =>
    match old? with
    | some (.table old) => .table (mergeEntries old new)
    | _ => .table new
  | new => new

/-- The entries `old` with those of another table put over them. -/
def mergeEntries (old : List (String × Value)) : List (String × Value) → List (String × Value)
  | [] => old
  | (key, new) :: rest => mergeEntries (put key (mergeValue (old.lookup key) new) old) rest

end

/-- Whether a value is null. -/
def isNull : Value → Bool
  | .null => true
  | _ => false

/-- The entries of a file with overrides put over them.  An override that is null says nothing. -/
def override (entries overrides : List (String × Value)) : List (String × Value) :=
  mergeEntries entries (overrides.filter fun e => !isNull e.2)

/-! ## Loading -/

/-- The entries in the settings file at a path, with the warnings on the way.  A file that cannot
be parsed is passed over, and so is one that is not there. -/
def fileEntries (f : Folder) (path? : Option String) :
    Except LoadFailure (List (String × Value) × List String) :=
  let named? := path?.filter (!·.isEmpty)
  let path := named?.getD usualPath
  match (f.place? path).bind f.fileAt? with
  | none =>
    .ok ([], (named?.map fun path => "Config file not found at explicit path: " ++ path).toList)
  | some content =>
    if (Text.Utf8.decode? content.bytes).isNone then .error .malformedText
    else
      match content.parsed with
      | .data document => (entriesOf document).map (·, [])
      | _ => .ok ([], ["Failed to load config file " ++ path])

/-- The settings in a file and in overrides, with the warnings about both. -/
def load (c : Coercions) (f : Folder) (path? : Option String) (overrides : List (String × Value)) :
    Except LoadFailure (Settings Float × List String) := do
  let (entries, notes) ← fileEntries f path?
  match check c (override entries overrides) with
  | .valid s => return (s, notes ++ warnings s)
  | .invalid problems => throw (.invalid problems)

end Concord.Settings
