import Concord.Language
import Concord.Path

/-!
# Concord.Language.Files

Which files hold source text of a language, and which of these hold tests, both told by the path
alone.
-/

namespace Concord.Language

open Text

/-- The endings of source files. -/
def extensions : Language → List String
  | go => [".go"]
  | python => [".py", ".pyi"]
  | typescript => [".ts", ".tsx"]
  | rust => [".rs"]
  | java => [".java"]
  | csharp => [".cs"]

/-- Whether the path is that of a source file.  Declaration files of TypeScript are none. -/
def isSource (language : Language) (path : String) : Bool :=
  let s := path.toList
  language.extensions.any (ends · s) && !(language == typescript && ends ".d.ts" s)

/-- The language whose source file the path names. -/
def ofPath? (path : String) : Option Language := all.find? (·.isSource path)

/-- Whether a path with these segments, the directories and the file name, is that of a test. -/
def isTestSegments (language : Language) (path : String) (dirs : List String) (name : String) :
    Bool :=
  let s := path.toList
  match language with
  | go => ends "_test.go" s
  | python =>
    begins "test_" name.toList || ends "_test.py" name.toList || name = "conftest.py" ||
      dirs.any (fun d => d = "tests" || d = "test")
  | typescript =>
    holds ".test." name.toList || holds ".spec." name.toList || (dirs ++ [name]).contains "__tests__"
  | rust => ends "_test.rs" s || dirs.contains "tests"
  | java => ends "Test.java" s || ends "Tests.java" s || dirs.contains "test"
  | csharp =>
    ends "Tests.cs" s || ends "Test.cs" s || dirs.contains "Tests" ||
      dirs.any fun d => ends ".Tests" d.toList

/-- Whether the path is that of a test.  A path without segments names no file and is none. -/
def isTest (language : Language) (path : String) : Bool :=
  let segments := Path.segments path
  match segments.getLast? with
  | none => false
  | some name => language.isTestSegments path segments.dropLast name

/-- What a path says about the file that it names. -/
structure PathClass where
  /-- The language in which the file would be read. -/
  reader? : Option Language
  /-- For each language whether the file is a source file and whether it is a test. -/
  byLanguage : List (Language × Bool × Bool)

/-- What a path says about its file.  A path without segments names none. -/
def classify (path : String) : Except Failure PathClass :=
  if (Path.segments path).isEmpty then .error .emptyPath
  else .ok ⟨ofPath? path, all.map fun l => (l, l.isSource path, l.isTest path)⟩

end Concord.Language
