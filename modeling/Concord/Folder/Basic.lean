import Concord.Path
import Concord.Reader.File

/-!
# Concord.Folder.Basic

Directory trees.  A folder is the list of its entries; paths in it are lists of names.  Entries of
one folder are told apart by their names, and `write` and `remove` keep them so.
-/

namespace Concord

/-- What a file holds: its bytes, and what a parser made of them. -/
structure Content where
  bytes : List UInt8
  parsed : Parsed

/-- An entry of a folder. -/
inductive Entry where
  | file (name : String) (content : Content)
  | folder (name : String) (entries : List Entry)

/-- The entries of a folder. -/
abbrev Folder := List Entry

/-- The name of an entry. -/
def Entry.name : Entry → String
  | file name _ => name
  | folder name _ => name

/-- Whether an entry is a folder. -/
def Entry.isFolder : Entry → Bool
  | file .. => false
  | folder .. => true

namespace Folder

/-! ## Looking up -/

/-- The entry of this name. -/
def entry? (f : Folder) (name : String) : Option Entry := f.find? (·.name == name)

/-- The folder of this name. -/
def folder? (f : Folder) (name : String) : Option Folder :=
  match f.entry? name with
  | some (.folder _ entries) => some entries
  | _ => none

/-- The folder at a path. -/
def at? (f : Folder) : List String → Option Folder
  | [] => some f
  | name :: path => (f.folder? name).bind (at? · path)

/-- The file of this name. -/
def file? (f : Folder) (name : String) : Option Content :=
  match f.entry? name with
  | some (.file _ content) => some content
  | _ => none

/-- The file at a path. -/
def fileAt? (f : Folder) (path : List String) : Option Content :=
  path.getLast?.bind fun name => (f.at? path.dropLast).bind (·.file? name)

/-- The place to which names lead from the folder at `place`, where `..` leads to the folder above.
All folders on the way have to be there. -/
def follow? (f : Folder) (place : List String) : List String → Option (List String)
  | [] => some place
  | [name] => some (if name = ".." then place.dropLast else place ++ [name])
  | name :: path =>
    if name = ".." then follow? f place.dropLast path
    else if (f.at? (place ++ [name])).isSome then follow? f (place ++ [name]) path
    else none

/-- The place to which a path leads from the outermost folder. -/
def place? (f : Folder) (path : String) : Option (List String) :=
  f.follow? [] ((Path.names path.toList).map String.ofList)

/-- The folder to which a path leads, with its place. -/
def project? (f : Folder) (path : String) : Option (List String × Folder) :=
  (f.place? path).bind fun place => (f.at? place).map (place, ·)

/-! ## Changing -/

/-- Puts an entry in the place of the one with its name, or behind all others. -/
def put (e : Entry) : Folder → Folder
  | [] => [e]
  | d :: f => if d.name == e.name then e :: f else d :: put e f

/-- Writes a file, or makes an empty folder where there is none, at a path; the folders on the way
are made. -/
def write (content? : Option Content) (f : Folder) : List String → Folder
  | [] => f
  | [name] =>
    match content? with
    | some content => put (.file name content) f
    | none => if (f.folder? name).isSome then f else put (.folder name []) f
  | name :: path => put (.folder name (write content? ((f.folder? name).getD []) path)) f

/-- Removes the file or the folder at a path. -/
def remove (f : Folder) : List String → Folder
  | [] => []
  | [name] => f.filter (·.name != name)
  | name :: path =>
    match f.folder? name with
    | some inner => put (.folder name (remove inner path)) f
    | none => f

/-! ## Listing -/

/-- A file with its path. -/
structure Found where
  path : List String
  content : Content

/-- The order of entries in a listing: files before folders, and each by name. -/
def before (a b : (Bool × String) × List Found) : Bool :=
  if a.1.1 = b.1.1 then a.1.2 ≤ b.1.2 else b.1.1

/-- What entries hold, put into the order of the entries. -/
def arrange (entries : List ((Bool × String) × List Found)) : List Found :=
  (entries.mergeSort before).flatMap (·.2)

mutual

/-- The files of an entry in the folder at `path`; a folder that is `closed` is not entered. -/
def filesOf (closed : List String → Bool) (path : List String) : Entry → List Found
  | .file name content => [⟨path ++ [name], content⟩]
  | .folder name entries =>
    if closed (path ++ [name]) then [] else arrange (filesOfAll closed (path ++ [name]) entries)

/-- The files of each of some entries in the folder at `path`, under what the entry is. -/
def filesOfAll (closed : List String → Bool) (path : List String) :
    List Entry → List ((Bool × String) × List Found)
  | [] => []
  | e :: es => ((e.isFolder, e.name), filesOf closed path e) :: filesOfAll closed path es

end

/-- All files of the folder at `path` and below it, but none below a folder that is `closed`.  In
every folder the files come first, by name, and then the folders, by name. -/
def walk (closed : List String → Bool) (path : List String) (f : Folder) : List Found :=
  arrange (filesOfAll closed path f)

/-- All files of a folder and below it. -/
def files (f : Folder) : List Found := walk (fun _ => false) [] f

end Folder
end Concord
