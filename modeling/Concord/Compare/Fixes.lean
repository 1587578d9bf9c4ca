import Concord.Compare.Agreement

/-!
# Concord.Compare.Fixes

The gaps of a comparison as a list of things to do: under a heading for every language, and under
a heading for every severity that occurs there, one block for each gap.
-/

namespace Concord.Compare

open Text

variable {α : Type} [Scalar α]

/-- The heading of a severity. -/
def severityHeading : Severity → String
  | .high => "Critical (High Severity)"
  | .medium => "Important (Medium Severity)"
  | .low => "Minor (Low Severity)"

/-- The language under which a gap is listed. -/
def gapLanguage (g : Gap) : String := if g.language.isEmpty then "unknown" else g.language

/-- The lines about one gap. -/
def gapLines (g : Gap) : List String :=
  ["- **" ++ g.dimension.word ++ "** `" ++ g.source.name ++ "`",
   "  - Source: `" ++ g.source.signature ++ "` at `" ++ g.source.location ++ "`",
   "  - Issue: " ++ g.discrepancy,
   "  - Fix: " ++ g.suggestedFix,
   ""]

/-- The lines about the gaps of one severity; none if there are no gaps. -/
def severityLines (gaps : List Gap) (severity : Severity) : List String :=
  let selected := gaps.filter (·.severity == severity)
  if selected.isEmpty then []
  else ["### " ++ severityHeading severity, ""] ++ selected.flatMap gapLines

/-- The name of a language in capitals. -/
def capitals (language : String) : String := String.ofList (upper language.toList)

/-- The lines about the gaps of one language. -/
def languageLines (gaps : List Gap) (language : String) : List String :=
  let own := gaps.filter (gapLanguage · == language)
  ["## " ++ capitals language ++ " (" ++ toString own.length ++ " issues)", ""] ++
    Severity.all.flatMap (severityLines own)

/-- The languages that have gaps, in the order of their names. -/
def gapLanguages (gaps : List Gap) : List String :=
  (addNames [] (gaps.map gapLanguage)).mergeSort (· ≤ ·)

/-- All gaps as a list of things to do. -/
def renderFixes (agreement : Agreement α) (sourceLanguage : String) : String :=
  let percent := Scalar.percent agreement.overall
  if agreement.gaps.isEmpty then
    "All implementations have " ++ percent ++ " parity. No fixes needed."
  else
    let lines :=
      ["# Parity Fix Instructions", "", "**Overall Parity Score:** " ++ percent,
       "**Reference Language:** " ++ sourceLanguage, ""] ++
      (gapLanguages agreement.gaps).flatMap (languageLines agreement.gaps) ++
      ["---", "After applying fixes, run parity analysis again to verify improvements."]
    "\n".intercalate lines ++ "\n"

end Concord.Compare
