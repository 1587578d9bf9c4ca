/-!
# Concord.Text.Blank

White space and what is trimmed and split by it.  Besides the blanks of ASCII it holds the four
information separators, the next-line control and the space separators of Unicode; the zero-width
space is none.
-/

namespace Concord.Text

/-- White space in every place where this library trims or splits text. -/
def isBlank (c : Char) : Bool :=
  let n := c.toNat
  (9 ≤ n && n ≤ 13) || (28 ≤ n && n ≤ 32) || n == 0x85 || n == 0xa0 || n == 0x1680 ||
    (0x2000 ≤ n && n ≤ 0x200a) || n == 0x2028 || n == 0x2029 || n == 0x202f || n == 0x205f ||
    n == 0x3000

/-- White space without the four information separators: what may stand around a numeral. -/
def isSpace (c : Char) : Bool := isBlank c && !(28 ≤ c.toNat && c.toNat ≤ 31)

/-- `s` without the characters at its end that satisfy `p`. -/
def trimEndBy (p : Char → Bool) (s : List Char) : List Char :=
  (s.reverse.dropWhile p).reverse

/-- `s` without the characters at its two ends that satisfy `p`. -/
def trimBy (p : Char → Bool) (s : List Char) : List Char := trimEndBy p (s.dropWhile p)

/-- `s` without leading white space. -/
def trimStart (s : List Char) : List Char := s.dropWhile isBlank

/-- `s` without trailing white space. -/
def trimEnd (s : List Char) : List Char := trimEndBy isBlank s

/-- `s` without white space at its two ends. -/
def trim (s : List Char) : List Char := trimEnd (trimStart s)

/-- The maximal runs of `s` that hold no white space. -/
def fields (s : List Char) : List (List Char) :=
  (s.splitOnP isBlank).filter (· ≠ [])

end Concord.Text
