/-! # SHA-1

The SHA-1 message digest (FIPS 180-4): the message is padded to whole 64-byte blocks, and
each block is mixed into five 32-bit words by eighty rounds in four groups of twenty.
Name-based identifiers are derived from this digest. -/
namespace Billing

namespace Sha1

/-- The initial hash value. -/
def initial : List UInt32 := [0x67452301, 0xEFCDAB89, 0x98BADCFE, 0x10325476, 0xC3D2E1F0]

/-- Rotation to the left. -/
def rotl (x : UInt32) (n : UInt32) : UInt32 := (x <<< n) ||| (x >>> (32 - n))

/-- The big-endian word of the four bytes from `i` on. -/
def wordAt (bytes : Array UInt8) (i : Nat) : UInt32 :=
  (List.range 4).foldl (fun w k => (w <<< 8) ||| (bytes.getD (i + k) 0).toUInt32) 0

/-- The message schedule of a block: its sixteen words, then sixty-four mixed ones. -/
def schedule (bytes : Array UInt8) (start : Nat) : Array UInt32 :=
  let first := (List.range 16).toArray.map fun t => wordAt bytes (start + 4 * t)
  (List.range 64).foldl (fun (w : Array UInt32) i =>
    let t := i + 16
    w.push (rotl (w.getD (t - 3) 0 ^^^ w.getD (t - 8) 0 ^^^ w.getD (t - 14) 0 ^^^ w.getD (t - 16) 0) 1))
    first

/-- The round function and constant of round `t`. -/
def mix (t : Nat) (b c d : UInt32) : UInt32 × UInt32 :=
  if t < 20 then ((b &&& c) ||| (~~~b &&& d), 0x5A827999)
  else if t < 40 then (b ^^^ c ^^^ d, 0x6ED9EBA1)
  else if t < 60 then ((b &&& c) ||| (b &&& d) ||| (c &&& d), 0x8F1BBCDC)
  else (b ^^^ c ^^^ d, 0xCA62C1D6)

/-- Mixes the block starting at byte `start` into the hash value. -/
def compress (hs : List UInt32) (bytes : Array UInt8) (start : Nat) : List UInt32 :=
  let w := schedule bytes start
  let v := (List.range 80).foldl (fun (v : UInt32 × UInt32 × UInt32 × UInt32 × UInt32) t =>
    let (a, b, c, d, e) := v
    let (f, k) := mix t b c d
    let temp := rotl a 5 + f + e + k + w.getD t 0
    (temp, a, rotl b 30, c, d))
    (hs.getD 0 0, hs.getD 1 0, hs.getD 2 0, hs.getD 3 0, hs.getD 4 0)
  let (a, b, c, d, e) := v
  List.zipWith (· + ·) hs [a, b, c, d, e]

/-- The message followed by a one bit, zeros, and its length in bits as 64 bits, to a
multiple of 64 bytes. -/
def pad (msg : List UInt8) : Array UInt8 :=
  let n := msg.length
  let zeros := (119 - n % 64) % 64
  let bits := 8 * n
  (msg ++ [(0x80 : UInt8)] ++ List.replicate zeros (0 : UInt8) ++
    (List.range 8).reverse.map fun k => (bits / Nat.pow 2 (8 * k) % 256).toUInt8).toArray

/-- The four bytes of a word, most significant first. -/
def wordBytes (w : UInt32) : List UInt8 :=
  (List.range 4).reverse.map fun k => (w >>> (8 * k).toUInt32).toUInt8

/-- The 20-byte digest of a message. -/
def digest (msg : List UInt8) : List UInt8 :=
  let bytes := pad msg
  let hs := (List.range (bytes.size / 64)).foldl (fun hs i => compress hs bytes (64 * i)) initial
  hs.flatMap wordBytes

end Sha1

end Billing
