import Concord.Text.Line

/-!
# Concord.Text.Comment

The text of a comment block without the marks that make it a comment.
-/

namespace Concord.Text

/-- The marks with which the line of a comment may begin; the first that fits is cut off. -/
def commentMarks : List String := ["/**", "/*", "*/", "///", "//", "#"]

/-- A line of a comment without its marks. -/
def cleanCommentLine (line : List Char) : List Char :=
  let line := trim line
  let line := (commentMarks.findSome? (after? · line)).getD line
  let line := trim ((before? "*/" line).getD line)
  match line with
  | '*' :: r => trim r
  | _ => line

/-- The text of a comment block, line by line. -/
def cleanComment (s : List Char) : List Char :=
  trim (['\n'].intercalate ((lines s).map cleanCommentLine))

end Concord.Text
