import Billing.Hash.Sha1

/-! # Name-based identifiers

Version 5 UUIDs (RFC 4122): the SHA-1 digest of a namespace identifier followed by a name,
cut to 16 bytes, with the version and variant bits set. The same name always gives the same
identifier, which makes payment identifiers deterministic. -/
namespace Billing

namespace Uuid

/-- The namespace of URLs, `6ba7b811-9dad-11d1-80b4-00c04fd430c8`. -/
def urlNamespace : List UInt8 :=
  [0x6b, 0xa7, 0xb8, 0x11, 0x9d, 0xad, 0x11, 0xd1, 0x80, 0xb4, 0x00, 0xc0, 0x4f, 0xd4, 0x30, 0xc8]

/-- Two lower-case hexadecimal digits of a byte. -/
def hexByte (b : UInt8) : String :=
  let digit (n : Nat) : Char := if n < 10 then Char.ofNat (48 + n) else Char.ofNat (87 + n)
  String.ofList [digit (b.toNat / 16), digit (b.toNat % 16)]

/-- The 8-4-4-4-12 text of sixteen bytes. -/
def text (bytes : List UInt8) : String :=
  let hex (from_ count : Nat) := String.join ((bytes.drop from_).take count |>.map hexByte)
  hex 0 4 ++ "-" ++ hex 4 2 ++ "-" ++ hex 6 2 ++ "-" ++ hex 8 2 ++ "-" ++ hex 10 6

/-- The version 5 identifier of a name in a namespace. -/
def v5 (ns : List UInt8) (name : String) : String :=
  let d := (Sha1.digest (ns ++ name.toUTF8.toList)).take 16
  let d := d.set 6 ((d.getD 6 0 &&& 0x0f) ||| 0x50)
  let d := d.set 8 ((d.getD 8 0 &&& 0x3f) ||| 0x80)
  text d

end Uuid

end Billing
