/-!
# Concord.NameTable

Lists of names under keys, in the order in which the keys first occurred.  The names under a key
form a set that keeps the order of first occurrence, wherever they are added with `addNew`.
-/

namespace Concord

/-- Lists of names under keys, in the order in which the keys first occurred. -/
abbrev NameTable := List (String × List String)

/-- Adds a name behind the others, unless it is empty or among them. -/
def addName (names : List String) (name : String) : List String :=
  if name.isEmpty || names.contains name then names else names ++ [name]

/-- Adds the names that are neither empty nor present, one after the other. -/
def addNames (names new : List String) : List String := new.foldl addName names

namespace NameTable

/-- The names under a key; none if the key does not occur. -/
def names (table : NameTable) (key : String) : List String := (table.lookup key).getD []

/-- Changes the names under a key, which is added behind the others if it does not occur. -/
def update (table : NameTable) (key : String) (change : List String → List String) : NameTable :=
  match table with
  | [] => [(key, change [])]
  | (k, old) :: rest =>
    if k == key then (k, change old) :: rest else (k, old) :: update rest key change

/-- Appends the entries of another table, key by key. -/
def append (table other : NameTable) : NameTable :=
  other.foldl (fun t e => t.update e.1 (· ++ e.2)) table

end NameTable
end Concord
