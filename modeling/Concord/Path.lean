import Concord.Text.Cut

/-!
# Concord.Path

Paths as lists of segments.  Slashes are passed over however many there are, and so is the segment
`.`; the segment `..` stays until a path is resolved.
-/

namespace Concord.Path

open Text

/-- The names between slashes, without empty ones and without `.`. -/
def names (s : List Char) : List (List Char) :=
  (s.splitOn '/').filter fun n => n ≠ [] && n ≠ ['.']

/-- The slashes that begin an absolute path; two of them are told from one, more are not. -/
def anchor (s : List Char) : List Char :=
  match s with
  | '/' :: '/' :: '/' :: _ => ['/']
  | '/' :: '/' :: _ => ['/', '/']
  | '/' :: _ => ['/']
  | _ => []

/-- The segments of a path, where a backslash separates like a slash.  The slashes of an absolute
path are its first segment. -/
def segments (path : String) : List String :=
  let s := path.toList.map fun c => if c = '\\' then '/' else c
  ((if (anchor s).isEmpty then [] else [anchor s]) ++ names s).map String.ofList

/-- A path in its shortest spelling with the same segments; the empty path is `.`. -/
def normalize (path : String) : String :=
  let s := path.toList
  let body := anchor s ++ ['/'].intercalate (names s)
  if body.isEmpty then "." else String.ofList body

/-- Follows the segments of a path from a directory: `..` leads to the directory above, and stays
where there is none. -/
def follow (start : List String) (segments : List String) : List String :=
  segments.foldl (fun dir s => if s = ".." then dir.dropLast else dir ++ [s]) start

/-- The segments of the directory or file that a path names, seen from the directory `start`. -/
def resolve (start : List String) (path : String) : List String :=
  let s := path.toList
  let body := (names s).map String.ofList
  if (anchor s).isEmpty then follow start body else follow [] body

/-- The segments of `path` below `dir`, if it is `dir` or below it. -/
def below? (dir path : List String) : Option (List String) :=
  if dir.isPrefixOf path then some (path.drop dir.length) else none

/-- Joins segments with slashes. -/
def join (segments : List String) : String := "/".intercalate segments

end Concord.Path
