import Billing.Hash.Sha512

/-! # The Mersenne Twister

The MT19937 generator: 624 words of state, twisted all at once when they are used up, and
each output word tempered. A text seed is stretched by appending its SHA-512 digest; the
bytes, read as one big-endian number, give the key words, least significant first. Doubles
in `[0, 1)` take 53 bits from two words. The same seed text always gives the same numbers,
which makes randomised retry spreading reproducible. -/
namespace Billing

/-- The generator's state and the index of the next word to use. -/
structure Twister where
  state : Array UInt32
  index : Nat

namespace Twister

/-- Words of state. -/
def size : Nat := 624

/-- The state filled from a single word by the linear recurrence of the generator. -/
def fill (s : UInt32) : Array UInt32 :=
  (List.range (size - 1)).foldl (fun (mt : Array UInt32) i =>
    let p := mt.getD i 0
    mt.push ((1812433253 : UInt32) * (p ^^^ (p >>> 30)) + (i + 1).toUInt32)) #[s]

/-- Moves a state position on, wrapping to 1 and copying the last word to the first. -/
def advance (mt : Array UInt32) (i : Nat) : Array UInt32 × Nat :=
  if i + 1 ≥ size then (mt.setIfInBounds 0 (mt.getD (size - 1) 0), 1) else (mt, i + 1)

/-- The state after mixing in key words (at least one). -/
def ofKey (key : Array UInt32) : Array UInt32 :=
  let len := max key.size 1
  let first := (List.range (max size len)).foldl (fun (st : Array UInt32 × Nat × Nat) _ =>
    let (mt, i, j) := st
    let p := mt.getD (i - 1) 0
    let v := (mt.getD i 0 ^^^ ((p ^^^ (p >>> 30)) * (1664525 : UInt32))) + key.getD j 0 + j.toUInt32
    let (mt, i) := advance (mt.setIfInBounds i v) i
    (mt, i, if j + 1 ≥ len then 0 else j + 1)) (fill 19650218, 1, 0)
  let (mt, i, _) := first
  let (mt, _) := (List.range (size - 1)).foldl (fun (st : Array UInt32 × Nat) _ =>
    let (mt, i) := st
    let p := mt.getD (i - 1) 0
    let v := (mt.getD i 0 ^^^ ((p ^^^ (p >>> 30)) * (1566083941 : UInt32))) - i.toUInt32
    advance (mt.setIfInBounds i v) i) (mt, i)
  mt.setIfInBounds 0 0x80000000

/-- The 32-bit words of a natural number, least significant first; zero is one word. -/
def words (n : Nat) : Array UInt32 :=
  let count := max ((Nat.log2 n + 32) / 32) 1
  (List.range count).toArray.map fun k => (n / Nat.pow 2 (32 * k) % Nat.pow 2 32).toUInt32

/-- The big-endian number of a byte string. -/
def bytesValue (bs : List UInt8) : Nat := bs.foldl (fun v b => 256 * v + b.toNat) 0

/-- A generator seeded by text: the text's UTF-8 bytes followed by their SHA-512 digest. -/
def ofText (s : String) : Twister :=
  let bytes := s.toUTF8.toList
  ⟨ofKey (words (bytesValue (bytes ++ Sha512.digest bytes))), size⟩

/-- All words of the state renewed at once. -/
def twist (mt : Array UInt32) : Array UInt32 :=
  (List.range size).foldl (fun mt k =>
    let y := (mt.getD k 0 &&& 0x80000000) ||| (mt.getD ((k + 1) % size) 0 &&& 0x7fffffff)
    let v := mt.getD ((k + 397) % size) 0 ^^^ (y >>> 1) ^^^
      (if y &&& 1 = 0 then 0 else 0x9908b0df)
    mt.setIfInBounds k v) mt

/-- The tempering of an output word. -/
def temper (y : UInt32) : UInt32 :=
  let y := y ^^^ (y >>> 11)
  let y := y ^^^ ((y <<< 7) &&& 0x9d2c5680)
  let y := y ^^^ ((y <<< 15) &&& 0xefc60000)
  y ^^^ (y >>> 18)

/-- The next output word. -/
def next (g : Twister) : UInt32 × Twister :=
  let g := if g.index ≥ size then ⟨twist g.state, 0⟩ else g
  (temper (g.state.getD g.index 0), ⟨g.state, g.index + 1⟩)

/-- A double in `[0, 1)` from 27 and 26 bits of the next two words. -/
def unit (g : Twister) : Float × Twister :=
  let (a, g) := g.next
  let (b, g) := g.next
  let bits : UInt64 := (a >>> 5).toUInt64 * (67108864 : UInt64) + (b >>> 6).toUInt64
  (bits.toFloat * (1.0 / 9007199254740992.0), g)

/-- A double between `lo` and `hi`: `lo + (hi - lo) * u` for the next unit double `u`. -/
def uniform (g : Twister) (lo hi : Float) : Float × Twister :=
  let (u, g) := g.unit
  (lo + (hi - lo) * u, g)

end Twister

end Billing
