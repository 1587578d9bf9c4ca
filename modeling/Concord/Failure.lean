/-!
# Concord.Failure

What can stop a request as a whole.  Trouble with a single source file never does: it is recorded
beside the symbols that were found.
-/

namespace Concord

/-- The causes for which a request is given up. -/
inductive Failure where
  /-- No reader exists for the language with this tag. -/
  | unsupportedLanguage (tag : String)
  /-- No source file of any language was found below this directory. -/
  | undetectedLanguage (root : String)
  /-- The directory of a project cannot be read. -/
  | unreadableRoot (root reason : String)
  /-- A path without any segment has no file name. -/
  | emptyPath
  /-- A text file that has to be UTF-8 is not. -/
  | malformedText
  /-- The estimate of the rounds that a refinement loop has left is infinite. -/
  | infiniteEstimate
deriving DecidableEq, Repr

/-- The text shown for a failure, where it has one. -/
def Failure.message? : Failure → Option String
  | unsupportedLanguage tag => some ("Unsupported language: " ++ tag)
  | undetectedLanguage root => some ("No supported source files found in " ++ root)
  | unreadableRoot root reason => some ("Cannot analyze " ++ root ++ ": " ++ reason)
  | emptyPath => none
  | malformedText => none
  | infiniteEstimate => none

end Concord
