import Mustache.Text.Hex

/-!
# Message digests

The key of a compiled template is the MD5 digest of a text that holds its source. The digest is
computed on blocks of sixteen words, in four rounds of sixteen steps.

## Main definitions

* `Mustache.Digest.blocks` — a message with its padding, in blocks of words.
* `Mustache.Digest.compress` — the state after one more block.
* `Mustache.digest` — the digest of a text in hexadecimal.
-/

namespace Mustache

namespace Digest

/-- The four words of the state. -/
structure State where
  a : UInt32
  b : UInt32
  c : UInt32
  d : UInt32
  deriving DecidableEq, Repr, Inhabited

/-- The state before the first block. -/
def initial : State := ⟨0x67452301, 0xefcdab89, 0x98badcfe, 0x10325476⟩

/-- The constants of the sixty-four steps: the sines of the step numbers, scaled to words. -/
def sines : List UInt32 := [
  0xd76aa478, 0xe8c7b756, 0x242070db, 0xc1bdceee, 0xf57c0faf, 0x4787c62a, 0xa8304613, 0xfd469501,
  0x698098d8, 0x8b44f7af, 0xffff5bb1, 0x895cd7be, 0x6b901122, 0xfd987193, 0xa679438e, 0x49b40821,
  0xf61e2562, 0xc040b340, 0x265e5a51, 0xe9b6c7aa, 0xd62f105d, 0x02441453, 0xd8a1e681, 0xe7d3fbc8,
  0x21e1cde6, 0xc33707d6, 0xf4d50d87, 0x455a14ed, 0xa9e3e905, 0xfcefa3f8, 0x676f02d9, 0x8d2a4c8a,
  0xfffa3942, 0x8771f681, 0x6d9d6122, 0xfde5380c, 0xa4beea44, 0x4bdecfa9, 0xf6bb4b60, 0xbebfbc70,
  0x289b7ec6, 0xeaa127fa, 0xd4ef3085, 0x04881d05, 0xd9d4d039, 0xe6db99e5, 0x1fa27cf8, 0xc4ac5665,
  0xf4292244, 0x432aff97, 0xab9423a7, 0xfc93a039, 0x655b59c3, 0x8f0ccc92, 0xffeff47d, 0x85845dd1,
  0x6fa87e4f, 0xfe2ce6e0, 0xa3014314, 0x4e0811a1, 0xf7537e82, 0xbd3af235, 0x2ad7d2bb, 0xeb86d391]

/-- The rotations of the steps of each round, which repeat every four steps. -/
def rotations : List (List UInt32) :=
  [[7, 12, 17, 22], [5, 9, 14, 20], [4, 11, 16, 23], [6, 10, 15, 21]]

/-- The rotation of a step. -/
def rotation (i : Nat) : UInt32 := ((rotations[i / 16]?).bind (·[i % 4]?)).getD 0

/-- A word turned left by `k` places. -/
def rotate (x k : UInt32) : UInt32 := (x <<< k) ||| (x >>> (32 - k))

/-- The function of a step on three words of the state. -/
def mix (i : Nat) (b c d : UInt32) : UInt32 :=
  match i / 16 with
  | 0 => (b &&& c) ||| (~~~b &&& d)
  | 1 => (d &&& b) ||| (~~~d &&& c)
  | 2 => b ^^^ c ^^^ d
  | _ => c ^^^ (b ||| ~~~d)

/-- The word of the block that a step reads. -/
def wordIndex (i : Nat) : Nat :=
  match i / 16 with
  | 0 => i
  | 1 => (5 * i + 1) % 16
  | 2 => (3 * i + 5) % 16
  | _ => 7 * i % 16

/-- One step. -/
def step (block : List UInt32) (s : State) (entry : UInt32 × Nat) : State :=
  let (sine, i) := entry
  let f := mix i s.b s.c s.d + s.a + sine + (block[wordIndex i]?).getD 0
  ⟨s.d, s.b + rotate f (rotation i), s.b, s.c⟩

/-- The state after one more block. -/
def compress (s : State) (block : List UInt32) : State :=
  let t := (sines.zipIdx).foldl (step block) s
  ⟨s.a + t.a, s.b + t.b, s.c + t.c, s.d + t.d⟩

/-- The `count` bytes of a number, the least first. -/
def bytesOf (count n : Nat) : List UInt8 :=
  (List.range count).map fun i => UInt8.ofNat (n >>> (8 * i))

/-- The message followed by a one bit, zeros, and its length in bits. -/
def padded (bytes : List UInt8) : List UInt8 :=
  let zeros := (119 - bytes.length % 64) % 64
  bytes ++ 0x80 :: List.replicate zeros 0 ++ bytesOf 8 (8 * bytes.length)

/-- The words of a list of bytes, the least byte first. -/
def wordsOf : List UInt8 → List UInt32
  | a :: b :: c :: d :: rest =>
    (a.toUInt32 ||| b.toUInt32 <<< 8 ||| c.toUInt32 <<< 16 ||| d.toUInt32 <<< 24) :: wordsOf rest
  | _ => []

/-- The words in groups of sixteen. -/
def grouped : (fuel : Nat) → List UInt32 → List (List UInt32)
  | 0, _ => []
  | fuel + 1, ws => if ws.isEmpty then [] else ws.take 16 :: grouped fuel (ws.drop 16)

/-- The padded message in blocks of words. -/
def blocks (bytes : List UInt8) : List (List UInt32) :=
  let ws := wordsOf (padded bytes)
  grouped ws.length ws

/-- The sixteen bytes of the digest. -/
def bytes (message : List UInt8) : List UInt8 :=
  let s := (blocks message).foldl compress initial
  [s.a, s.b, s.c, s.d].flatMap fun w => bytesOf 4 w.toNat

end Digest

/-- The digest of a text, as thirty-two hexadecimal digits. -/
def digest (s : String) : String :=
  Text.hexOf (Digest.bytes s.toUTF8.toList)

end Mustache
