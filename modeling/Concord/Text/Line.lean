import Concord.Text.Cut
import Concord.Text.Blank

/-!
# Concord.Text.Line

Lines of a text.  `lines` ends a line at every line boundary that Unicode or ASCII knows;
`unixLines` first turns the other two ASCII line ends into a line feed and then knows only that.
`cleanDoc` takes the common margin off a documentation text.
-/

namespace Concord.Text

/-- The characters that end a line by themselves. -/
def isLineEnd (c : Char) : Bool :=
  let n := c.toNat
  (10 ≤ n && n ≤ 13) || (28 ≤ n && n ≤ 30) || n == 0x85 || n == 0x2028 || n == 0x2029

/-- The lines of a text, without their ends.  A text that ends its last line has no empty line
after it. -/
def lines : List Char → List (List Char)
  | [] => []
  | '\r' :: '\n' :: r => [] :: lines r
  | c :: r => if isLineEnd c then [] :: lines r else consFirst c (lines r)

/-- Every carriage return, alone or before a line feed, becomes a line feed. -/
def unixLineEnds : List Char → List Char
  | [] => []
  | '\r' :: '\n' :: r => '\n' :: unixLineEnds r
  | '\r' :: r => '\n' :: unixLineEnds r
  | c :: r => c :: unixLineEnds r

/-- The lines between line feeds, once all line ends are line feeds. -/
def unixLines (s : List Char) : List (List Char) := (unixLineEnds s).splitOn '\n'

/-- Replaces tabs by blanks up to the next multiple of eight columns. -/
def expandTabs (column : Nat) : List Char → List Char
  | [] => []
  | c :: r =>
    if c = '\t' then
      let width := 8 - column % 8
      List.replicate width ' ' ++ expandTabs (column + width) r
    else if c = '\n' || c = '\r' then c :: expandTabs 0 r
    else c :: expandTabs (column + 1) r

/-- The indentation of a line that is not blank. -/
def indent? (line : List Char) : Option Nat :=
  if (trimStart line).isEmpty then none else some (line.length - (trimStart line).length)

/-- `doc` with tabs expanded, without the margin that all lines after the first share, and without
empty lines at its two ends. -/
def cleanDoc (doc : List Char) : List Char :=
  match (expandTabs 0 doc).splitOn '\n' with
  | [] => []
  | first :: rest =>
    let cut := match (rest.filterMap indent?).min? with
      | some margin => rest.map (·.drop margin)
      | none => rest
    let kept := (trimStart first :: cut).dropWhile List.isEmpty
    ['\n'].intercalate (kept.reverse.dropWhile List.isEmpty).reverse

end Concord.Text
