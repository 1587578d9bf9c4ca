import Concord.Failure
import Concord.Text.Blank
import Concord.Text.Case

/-!
# Concord.Language

The closed set of languages whose declarations are compared, their tags and the aliases under which
a user may name them.
-/

namespace Concord

/-- The languages that can be read. -/
inductive Language where
  | go
  | python
  | typescript
  | rust
  | java
  | csharp
deriving DecidableEq, Repr

namespace Language

/-- All languages, in the order in which ties between them are broken. -/
def all : List Language := [go, python, typescript, rust, java, csharp]

/-- The tag of a language. -/
def tag : Language → String
  | go => "go"
  | python => "python"
  | typescript => "typescript"
  | rust => "rust"
  | java => "java"
  | csharp => "csharp"

/-- The language with exactly this tag. -/
def ofTag? (t : String) : Option Language := all.find? (·.tag == t)

/-- Other names of languages. -/
def aliases : List (String × Language) :=
  [("golang", go), ("py", python), ("ts", typescript), ("tsx", typescript), ("rs", rust),
   ("c#", csharp), ("cs", csharp)]

/-- The language that a tag or an alias names, in any case and with any white space around it. -/
def resolve (name : String) : Except Failure Language :=
  let key := String.ofList (Text.lower (Text.trim name.toList))
  match aliases.lookup key <|> ofTag? key with
  | some language => .ok language
  | none => .error (.unsupportedLanguage name)

end Language
end Concord
