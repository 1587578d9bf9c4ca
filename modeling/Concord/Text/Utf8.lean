/-!
# Concord.Text.Utf8

Reading UTF-8.  The reader that never fails puts one replacement character for every maximal piece
that begins a well-formed sequence and does not complete it, and for every byte that begins none.
-/

namespace Concord.Text.Utf8

-- Powers of naturals are those of the core library, whatever else is imported.
attribute [local instance (high)] instPowNat

/-- What a first byte announces: how many bytes follow, which values the first of those may have,
and the bits that the first byte itself holds. -/
structure Lead where
  more : Nat
  low : Nat
  high : Nat
  bits : Nat

/-- The announcement of a byte, if a well-formed sequence may begin with it. -/
def lead? (b : Nat) : Option Lead :=
  if b < 0x80 then some ⟨0, 0x80, 0xbf, b⟩
  else if b < 0xc2 then none
  else if b < 0xe0 then some ⟨1, 0x80, 0xbf, b - 0xc0⟩
  else if b < 0xf0 then
    some ⟨2, if b = 0xe0 then 0xa0 else 0x80, if b = 0xed then 0x9f else 0xbf, b - 0xe0⟩
  else if b < 0xf5 then
    some ⟨3, if b = 0xf0 then 0x90 else 0x80, if b = 0xf4 then 0x8f else 0xbf, b - 0xf0⟩
  else none

/-- Reads `more` further bytes onto `acc`: the code point, or `none` where the sequence breaks off,
with the bytes not read. -/
def continuation (low high acc : Nat) : Nat → List UInt8 → Option Nat × List UInt8
  | 0, bytes => (some acc, bytes)
  | _ + 1, [] => (none, [])
  | more + 1, b :: rest =>
    if low ≤ b.toNat && b.toNat ≤ high then
      continuation 0x80 0xbf (acc * 64 + (b.toNat - 0x80)) more rest
    else (none, b :: rest)

theorem continuation_length (low high acc more : Nat) (bytes : List UInt8) :
    (continuation low high acc more bytes).2.length ≤ bytes.length := by
  fun_induction continuation low high acc more bytes with
  | case1 | case2 | case4 => exact Nat.le_refl _
  | case3 low high acc more b rest h ih => exact Nat.le_succ_of_le ih

/-- The characters of a byte sequence, `none` for each piece that is ill-formed. -/
def pieces : List UInt8 → List (Option Char)
  | [] => []
  | b :: rest =>
    match lead? b.toNat with
    | none => none :: pieces rest
    | some l =>
      (continuation l.low l.high l.bits l.more rest).1.map Char.ofNat ::
        pieces (continuation l.low l.high l.bits l.more rest).2
termination_by bytes => bytes.length
decreasing_by
  · simp
  · have := continuation_length l.low l.high l.bits l.more rest
    simp
    omega

/-- The bytes behind the mark of the encoding, if they begin with it. -/
def dropMark : List UInt8 → List UInt8
  | 0xef :: 0xbb :: 0xbf :: rest => rest
  | bytes => bytes

/-- The text of a byte sequence, with a replacement character for every ill-formed piece. -/
def decodeLossy (bytes : List UInt8) : List Char :=
  (pieces bytes).map (·.getD '\ufffd')

/-- The text of a byte sequence that is well-formed. -/
def decode? (bytes : List UInt8) : Option (List Char) := (pieces bytes).mapM id

/-- The bytes of one character. -/
def encodeChar (c : Char) : List UInt8 :=
  let n := c.toNat
  let tail (shift : Nat) : UInt8 := UInt8.ofNat (0x80 + n / 2 ^ shift % 64)
  if n < 0x80 then [UInt8.ofNat n]
  else if n < 0x800 then [UInt8.ofNat (0xc0 + n / 64), tail 0]
  else if n < 0x10000 then [UInt8.ofNat (0xe0 + n / 0x1000), tail 6, tail 0]
  else [UInt8.ofNat (0xf0 + n / 0x40000), tail 12, tail 6, tail 0]

/-- The bytes of a text. -/
def encode (s : List Char) : List UInt8 := s.flatMap encodeChar

end Concord.Text.Utf8
