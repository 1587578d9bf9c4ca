import Concord.Spelling.Shape

/-!
# Concord.Proofs.Spelling.Layered

Spellings made of layers around an atom: arrays, values that may be absent, pointers and values that
arrive later, each in the ways the languages write them.

```
array      []T   [3]T   T[]   [T]   List<T>   list[T]   Vec<T>
optional   T?   Optional[T]   Option<T>   T | None   None | T
pointer    Box<T>   *T   &T
deferred   Promise<T>   Task<T>
```

`Spelled` is such a spelling with the order of its layers, `Spelled.text` what is written, and
`Spelled.IsProper` says that the atom is a name and that no pointer mark stands in front of another.
-/

namespace Concord.Spelling

open Text

/-! ## Syntax -/

/-- What a layer says of the type inside it. -/
inductive Kind where
  | array
  | optional
  | pointer
  | deferred
deriving DecidableEq, Repr

/-- Layers written in front of a type: `[]T` and `[3]T`, `*T`, `&T`. -/
inductive Front where
  | indexed (digits : List Char)
  | star
  | ampersand
deriving DecidableEq, Repr

/-- Layers written behind a type: `T[]`, `T?`. -/
inductive Back where
  | brackets
  | question
deriving DecidableEq, Repr

/-- Heads with one argument. -/
inductive Wrapper where
  | list
  | pythonList
  | vec
  | optional
  | option
  | box
  | promise
  | task
deriving DecidableEq, Repr

/-- One layer around a type, and how it is written. -/
inductive Shell where
  | front (f : Front)
  | back (b : Back)
  | bracketed
  | wrapped (w : Wrapper)
  | orNone
  | noneOr
deriving DecidableEq, Repr

/-- A spelling made of layers around an atom. -/
inductive Spelled where
  | atom (name : List Char)
  | layer (shell : Shell) (inside : Spelled)
deriving DecidableEq, Repr

/-! ## What the layers say -/

/-- What a layer in front says. -/
def Front.kind : Front → Kind
  | indexed _ => .array
  | star | ampersand => .pointer

/-- What a layer behind says. -/
def Back.kind : Back → Kind
  | brackets => .array
  | question => .optional

/-- What a head says. -/
def Wrapper.kind : Wrapper → Kind
  | list | pythonList | vec => .array
  | optional | option => .optional
  | box => .pointer
  | promise | task => .deferred

/-- What a layer says. -/
def Shell.kind : Shell → Kind
  | front f => f.kind
  | back b => b.kind
  | bracketed => .array
  | wrapped w => w.kind
  | orNone | noneOr => .optional

/-- The atom inside all layers. -/
def Spelled.name : Spelled → List Char
  | atom name => name
  | layer _ inside => inside.name

/-- Whether a spelling has a layer of the given kind. -/
def Spelled.has (kind : Kind) : Spelled → Bool
  | atom _ => false
  | layer shell inside => shell.kind == kind || inside.has kind

/-! ## How they are written -/

/-- What stands in front of the type inside. -/
def Front.text : Front → List Char
  | indexed digits => '[' :: (digits ++ [']'])
  | star => ['*']
  | ampersand => ['&']

/-- What stands behind the type inside. -/
def Back.text : Back → List Char
  | brackets => ['[', ']']
  | question => ['?']

/-- The word of a head. -/
def Wrapper.word : Wrapper → String
  | list => "List"
  | pythonList => "list"
  | vec => "Vec"
  | optional => "Optional"
  | option => "Option"
  | box => "Box"
  | promise => "Promise"
  | task => "Task"

/-- The brackets around the argument of a head. -/
def Wrapper.brackets : Wrapper → Char × Char
  | pythonList | optional => ('[', ']')
  | list | vec | option | box | promise | task => ('<', '>')

/-- A layer written around the text of the type inside. -/
def Shell.write (s : List Char) : Shell → List Char
  | front f => f.text ++ s
  | back b => s ++ b.text
  | bracketed => '[' :: (s ++ [']'])
  | wrapped w => w.word.toList ++ w.brackets.1 :: (s ++ [w.brackets.2])
  | orNone => s ++ " | None".toList
  | noneOr => "None | ".toList ++ s

/-- The text of a spelling. -/
def Spelled.text : Spelled → List Char
  | atom name => name
  | layer shell inside => shell.write inside.text

/-! ## Which texts are meant -/

/-- The words in front of a type that are passed over. -/
def qualifierWords : List String :=
  Vocabulary.qualifiers.map fun q => String.ofList (trim q.toList)

/-- The words that a spelling reads as something else than the name of a type. -/
def reservedWords : List String :=
  Vocabulary.sequences ++ Vocabulary.maps ++ Vocabulary.optionals ++ Vocabulary.deferred ++
    Vocabulary.pointers ++ Vocabulary.functions ++ Vocabulary.nullish ++ qualifierWords ++
    ["Coroutine", "map", "byte", "u8"]

/-- An atom: letters and digits of ASCII with a letter in front, and no reserved word. -/
structure IsAtom (name : List Char) : Prop where
  letter : name.head?.any Char.isAlpha = true
  alphanumeric : name.all Char.isAlphanum = true
  free : String.ofList name ∉ reservedWords

instance (name : List Char) : Decidable (IsAtom name) :=
  decidable_of_iff
    (name.head?.any Char.isAlpha = true ∧ name.all Char.isAlphanum = true ∧
      String.ofList name ∉ reservedWords)
    ⟨fun h => ⟨h.1, h.2.1, h.2.2⟩, fun h => ⟨h.letter, h.alphanumeric, h.free⟩⟩

/-- Whether a text begins with a pointer mark. -/
def beginsWithMark (s : List Char) : Bool := s.head? == some '*' || s.head? == some '&'

/-- Whether a layer may stand in front of a text: the length of an array is decimal, and no pointer
mark stands in front of another. -/
def Front.fits (s : List Char) : Front → Bool
  | indexed digits => digits.all Char.isDigit
  | star | ampersand => !beginsWithMark s

/-- Whether a layer may be written around a text. -/
def Shell.fits (s : List Char) : Shell → Bool
  | front f => f.fits s
  | _ => true

/-- Whether the atom is one and every layer fits around what is inside it. -/
def Spelled.IsProper : Spelled → Prop
  | atom name => IsAtom name
  | layer shell inside => shell.fits inside.text = true ∧ inside.IsProper

instance Spelled.decidableIsProper : (t : Spelled) → Decidable t.IsProper
  | atom name => inferInstanceAs (Decidable (IsAtom name))
  | layer shell inside =>
    have := decidableIsProper inside
    inferInstanceAs (Decidable (shell.fits inside.text = true ∧ inside.IsProper))

end Concord.Spelling
