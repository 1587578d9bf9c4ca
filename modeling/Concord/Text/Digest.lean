/-!
# Concord.Text.Digest

The MD5 message digest (RFC 1321), as 32 lower-case hexadecimal digits.
-/

namespace Concord.Text.Digest

/-- The four words that are carried from block to block. -/
structure State where
  a : UInt32
  b : UInt32
  c : UInt32
  d : UInt32

/-- The state before the first block. -/
def initial : State := ⟨0x67452301, 0xefcdab89, 0x98badcfe, 0x10325476⟩

/-- The sine constants of the 64 steps: the integer part of `2 ^ 32 * |sin (i + 1)|`. -/
def constants : List UInt32 :=
  [0xd76aa478, 0xe8c7b756, 0x242070db, 0xc1bdceee, 0xf57c0faf, 0x4787c62a, 0xa8304613, 0xfd469501,
   0x698098d8, 0x8b44f7af, 0xffff5bb1, 0x895cd7be, 0x6b901122, 0xfd987193, 0xa679438e, 0x49b40821,
   0xf61e2562, 0xc040b340, 0x265e5a51, 0xe9b6c7aa, 0xd62f105d, 0x02441453, 0xd8a1e681, 0xe7d3fbc8,
   0x21e1cde6, 0xc33707d6, 0xf4d50d87, 0x455a14ed, 0xa9e3e905, 0xfcefa3f8, 0x676f02d9, 0x8d2a4c8a,
   0xfffa3942, 0x8771f681, 0x6d9d6122, 0xfde5380c, 0xa4beea44, 0x4bdecfa9, 0xf6bb4b60, 0xbebfbc70,
   0x289b7ec6, 0xeaa127fa, 0xd4ef3085, 0x04881d05, 0xd9d4d039, 0xe6db99e5, 0x1fa27cf8, 0xc4ac5665,
   0xf4292244, 0x432aff97, 0xab9423a7, 0xfc93a039, 0x655b59c3, 0x8f0ccc92, 0xffeff47d, 0x85845dd1,
   0x6fa87e4f, 0xfe2ce6e0, 0xa3014314, 0x4e0811a1, 0xf7537e82, 0xbd3af235, 0x2ad7d2bb, 0xeb86d391]

/-- The rotation of step `i`: four amounts in turn, other four in each round of sixteen steps. -/
def rotation (i : Nat) : UInt32 :=
  let amounts : List UInt32 := match i / 16 with
    | 0 => [7, 12, 17, 22]
    | 1 => [5, 9, 14, 20]
    | 2 => [4, 11, 16, 23]
    | _ => [6, 10, 15, 21]
  amounts.getD (i % 4) 0

/-- The mixing function of step `i` and the position of the message word that it takes. -/
def mix (i : Nat) (s : State) : UInt32 × Nat :=
  match i / 16 with
  | 0 => ((s.b &&& s.c) ||| (~~~s.b &&& s.d), i)
  | 1 => ((s.d &&& s.b) ||| (~~~s.d &&& s.c), (5 * i + 1) % 16)
  | 2 => (s.b ^^^ s.c ^^^ s.d, (3 * i + 5) % 16)
  | _ => (s.c ^^^ (s.b ||| ~~~s.d), (7 * i) % 16)

/-- `x` rotated to the left by `n` bits, where `0 < n < 32`. -/
def rotateLeft (x n : UInt32) : UInt32 := (x <<< n) ||| (x >>> (32 - n))

/-- Step `i` with its constant. -/
def step (block : Array UInt32) (s : State) (entry : UInt32 × Nat) : State :=
  let (f, g) := mix entry.2 s
  let sum := f + s.a + entry.1 + block.getD g 0
  ⟨s.d, s.b + rotateLeft sum (rotation entry.2), s.b, s.c⟩

/-- Takes one block of sixteen words into the state. -/
def absorb (s : State) (block : Array UInt32) : State :=
  let t := constants.zipIdx.foldl (step block) s
  ⟨s.a + t.a, s.b + t.b, s.c + t.c, s.d + t.d⟩

/-- The little-endian bytes of the `width` low bytes of `n`. -/
def littleEndian : Nat → Nat → List UInt8
  | 0, _ => []
  | width + 1, n => UInt8.ofNat (n % 256) :: littleEndian width (n / 256)

/-- The message with a one bit, zeros up to eight bytes below a multiple of 64, and its length in
bits. -/
def padded (bytes : List UInt8) : List UInt8 :=
  let zeros := (119 - bytes.length % 64) % 64
  bytes ++ 0x80 :: List.replicate zeros 0 ++ littleEndian 8 (8 * bytes.length)

/-- Little-endian words. -/
def words : List UInt8 → List UInt32
  | a :: b :: c :: d :: rest =>
    (a.toUInt32 ||| (b.toUInt32 <<< 8) ||| (c.toUInt32 <<< 16) ||| (d.toUInt32 <<< 24)) ::
      words rest
  | _ => []

/-- Blocks of sixteen words; a rest that is shorter is dropped. -/
def blocks : Nat → List UInt32 → List (Array UInt32)
  | 0, _ => []
  | n + 1, ws => (ws.take 16).toArray :: blocks n (ws.drop 16)

/-- Two lower-case hexadecimal digits. -/
def hexByte (b : UInt8) : List Char :=
  [Nat.digitChar (b.toNat / 16), Nat.digitChar (b.toNat % 16)]

/-- The digest of a byte sequence. -/
def md5 (bytes : List UInt8) : String :=
  let ws := words (padded bytes)
  let s := (blocks (ws.length / 16) ws).foldl absorb initial
  String.ofList
    (([s.a, s.b, s.c, s.d].flatMap fun w => littleEndian 4 w.toNat).flatMap hexByte)

end Concord.Text.Digest
