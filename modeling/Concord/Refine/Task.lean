import Concord.Compare.Agreement
import Concord.Folder.Analyze
import Concord.Refine.Loop

/-!
# Concord.Refine.Task

The refinement loop on directories.  What is read is kept in a cache: the reference for the whole
loop, the implementations for one round, after which they may have changed.  An implementation that
is not there counts as empty.
-/

namespace Concord.Refine

/-- What a refinement loop is about. -/
structure Task where
  /-- The directory of the reference. -/
  source : String
  /-- The languages of the implementations, by tag or alias. -/
  languages : List String
  /-- The directory that holds the implementations under the tags of their languages. -/
  outputs : String := ""
  sourceLanguage? : Option String := none
  spec? : Option String := none
  /-- The directories of implementations that are not among the outputs. -/
  places : List (String × String) := []

/-- A path below a directory, which may be empty or end in a slash. -/
def pathBelow (directory name : String) : String :=
  if directory.isEmpty || Text.ends "/" directory.toList then directory ++ name
  else directory ++ "/" ++ name

/-- The directory of the implementation in a language. -/
def Task.place (task : Task) (language : Language) : String :=
  (task.places.lookup language.tag).getD (pathBelow task.outputs language.tag)

/-- The languages that some names stand for, each once, in the order of first occurrence. -/
def distinct (languages : List Language) : List Language :=
  languages.foldl (fun seen l => if seen.contains l then seen else seen ++ [l]) []

/-- How projects are read under some settings. -/
def readOptions {α : Type} (settings : Settings α) : Folder.ReadOptions :=
  { ignoredNames := settings.ignoredNames
    respectsRules := true
    includesTests := settings.includesTests }

/-- The outline of an implementation that is not there. -/
def missingImplementation (path : String) (language : Language) : Outline :=
  { language, name := .text language.tag, root := path }

/-- The outline of the implementation at a path, with the warnings on the way.  One that is not
there or whose directory cannot be read counts as empty. -/
def readImplementation (options : Folder.ReadOptions) (f : Folder) (path : String)
    (language : Language) : Except Failure (Outline × List String) :=
  match f.project? path with
  | none =>
    .ok (missingImplementation path language,
      ["Generated " ++ language.tag ++ " project not found at " ++ path ++ ", treating as empty"])
  | some _ =>
    match f.analyze options path (some language.tag) none with
    | .error (.unreadableRoot root reason) =>
      .ok (missingImplementation path language,
        ["Cannot analyze " ++ root ++ ": " ++ reason ++ ", treating generated " ++ language.tag ++
          " project as empty"])
    | outcome => outcome

/-! ## Comparisons -/

/-- What has been read: the reference once and for all, and the implementations since the cache was
last cleared. -/
structure Cache where
  reference : Outline
  implementations : List (Language × Outline) := []

/-- Forgets the implementations, but not the reference. -/
def Cache.clear (c : Cache) : Cache := { c with implementations := [] }

/-- A pass over the implementations: their outlines under the tags of their languages so far, the
cache, and the warnings on the way. -/
structure Pass where
  outlines : List (String × Outline) := []
  cache : Cache
  warnings : List String := []

/-- Puts an outline under a tag, in the place of the one that is there or behind all others. -/
def putOutline (tag : String) (outline : Outline) :
    List (String × Outline) → List (String × Outline)
  | [] => [(tag, outline)]
  | entry :: rest =>
    if entry.1 == tag then (tag, outline) :: rest else entry :: putOutline tag outline rest

/-- Takes the implementation in a language from the cache, or reads it where the cache does not have
it. -/
def Pass.visit (options : Folder.ReadOptions) (f : Folder) (task : Task) (p : Pass)
    (language : Language) : Except Failure Pass :=
  match p.cache.implementations.lookup language with
  | some outline => .ok { p with outlines := putOutline language.tag outline p.outlines }
  | none => do
    let (outline, warnings) ← readImplementation options f (task.place language) language
    return { outlines := putOutline language.tag outline p.outlines
             cache := { p.cache with
               implementations := (language, outline) :: p.cache.implementations }
             warnings := p.warnings ++ warnings }

/-- Compares the implementations of a task, as they are in a folder, with the reference.  A language
that is named twice is read once. -/
def assessor {α : Type} [Scalar α] (settings : Settings α) (task : Task)
    (languages : List Language) : Assessor Folder Cache α where
  assess f cache := do
    let p ← languages.foldlM (Pass.visit (readOptions settings) f task) { cache }
    return (Compare.compare settings.comparison .full p.cache.reference p.outlines, p.warnings,
      p.cache)
  clear := Cache.clear

/-! ## The loop -/

/-- How a refinement loop went: its outcome, the instructions that were handed out with the numbers
of their rounds, and the warnings. -/
structure Report (α : Type) where
  outcome : Outcome α
  handedOut : List (Instructions × Nat)
  warnings : List String

/-- The language of the reference. -/
def sourceLanguage (f : Folder) (task : Task) : Except Failure Language :=
  match task.sourceLanguage?.filter (!·.isEmpty) with
  | some tag => Language.resolve tag
  | none => f.detect task.source

/-- Runs the refinement loop on a task. -/
def run {α : Type} [Scalar α] (settings : Settings α) (around : Surroundings Folder) (f : Folder)
    (task : Task) : Except Failure (Report α) := do
  let source ← sourceLanguage f task
  let languages ← task.languages.mapM Language.resolve
  let (reference, warnings) ← f.analyze (readOptions settings) task.source (some source.tag) none
  let (ending, r) ← runFor settings.loop around (assessor settings task languages)
    settings.loop.maxRounds { world := f, cache := { reference }, warnings }
  let projects := (distinct languages).map fun l => (l.tag, task.place l)
  return ⟨outcomeOf projects task.spec? ending r, r.handedOut, r.warnings⟩

end Concord.Refine
