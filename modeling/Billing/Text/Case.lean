/-! # Upper and lower case of any script

Case forms by the Unicode 14.0 case mappings, including the special mappings to several
characters (ß becomes SS, İ becomes i with a dot above). The mappings are tables: runs of
code points that move by the same offset, every first or every second code point of the
run, and a list of the characters with longer forms. The mapping is context-free: a
capital sigma always becomes σ. -/
namespace Billing.Text

/-- A run of code points whose case forms lie at a fixed offset. -/
structure CaseRun where
  start : Nat
  count : Nat
  offset : Int
  stride : Nat

/-- The value of a hexadecimal numeral. -/
def hexValue? (s : String) : Option Nat :=
  if s.isEmpty then none
  else s.foldl (fun acc c => acc.bind fun v =>
    if '0' ≤ c ∧ c ≤ '9' then some (16 * v + (c.toNat - '0'.toNat))
    else if 'a' ≤ c ∧ c ≤ 'f' then some (16 * v + (c.toNat - 'a'.toNat + 10))
    else none) (some 0)

/-- Whether the run moves the code point `n`. -/
def CaseRun.covers (r : CaseRun) (n : Nat) : Bool :=
  r.start ≤ n && n < r.start + r.count * r.stride && (n - r.start) % r.stride == 0

/-- Single-character upper-case forms, as runs `⟨start, count, offset, stride⟩`. -/
def upperRuns : List CaseRun :=
  [⟨0x61, 0x1a, -32, 1⟩, ⟨0xb5, 0x1, 743, 1⟩, ⟨0xe0, 0x17, -32, 1⟩, ⟨0xf8, 0x7, -32, 1⟩,
   ⟨0xff, 0x1, 121, 1⟩, ⟨0x101, 0x18, -1, 2⟩, ⟨0x131, 0x1, -232, 1⟩, ⟨0x133, 0x3, -1, 2⟩,
   ⟨0x13a, 0x8, -1, 2⟩, ⟨0x14b, 0x17, -1, 2⟩, ⟨0x17a, 0x3, -1, 2⟩, ⟨0x17f, 0x1, -300, 1⟩,
   ⟨0x180, 0x1, 195, 1⟩, ⟨0x183, 0x2, -1, 2⟩, ⟨0x188, 0x1, -1, 1⟩, ⟨0x18c, 0x1, -1, 1⟩,
   ⟨0x192, 0x1, -1, 1⟩, ⟨0x195, 0x1, 97, 1⟩, ⟨0x199, 0x1, -1, 1⟩, ⟨0x19a, 0x1, 163, 1⟩,
   ⟨0x19e, 0x1, 130, 1⟩, ⟨0x1a1, 0x3, -1, 2⟩, ⟨0x1a8, 0x1, -1, 1⟩, ⟨0x1ad, 0x1, -1, 1⟩,
   ⟨0x1b0, 0x1, -1, 1⟩, ⟨0x1b4, 0x2, -1, 2⟩, ⟨0x1b9, 0x1, -1, 1⟩, ⟨0x1bd, 0x1, -1, 1⟩,
   ⟨0x1bf, 0x1, 56, 1⟩, ⟨0x1c5, 0x1, -1, 1⟩, ⟨0x1c6, 0x1, -2, 1⟩, ⟨0x1c8, 0x1, -1, 1⟩,
   ⟨0x1c9, 0x1, -2, 1⟩, ⟨0x1cb, 0x1, -1, 1⟩, ⟨0x1cc, 0x1, -2, 1⟩, ⟨0x1ce, 0x8, -1, 2⟩,
   ⟨0x1dd, 0x1, -79, 1⟩, ⟨0x1df, 0x9, -1, 2⟩, ⟨0x1f2, 0x1, -1, 1⟩, ⟨0x1f3, 0x1, -2, 1⟩,
   ⟨0x1f5, 0x1, -1, 1⟩, ⟨0x1f9, 0x14, -1, 2⟩, ⟨0x223, 0x9, -1, 2⟩, ⟨0x23c, 0x1, -1, 1⟩,
   ⟨0x23f, 0x2, 10815, 1⟩, ⟨0x242, 0x1, -1, 1⟩, ⟨0x247, 0x5, -1, 2⟩, ⟨0x250, 0x1, 10783, 1⟩,
   ⟨0x251, 0x1, 10780, 1⟩, ⟨0x252, 0x1, 10782, 1⟩, ⟨0x253, 0x1, -210, 1⟩, ⟨0x254, 0x1, -206, 1⟩,
   ⟨0x256, 0x2, -205, 1⟩, ⟨0x259, 0x1, -202, 1⟩, ⟨0x25b, 0x1, -203, 1⟩, ⟨0x25c, 0x1, 42319, 1⟩,
   ⟨0x260, 0x1, -205, 1⟩, ⟨0x261, 0x1, 42315, 1⟩, ⟨0x263, 0x1, -207, 1⟩, ⟨0x265, 0x1, 42280, 1⟩,
   ⟨0x266, 0x1, 42308, 1⟩, ⟨0x268, 0x1, -209, 1⟩, ⟨0x269, 0x1, -211, 1⟩, ⟨0x26a, 0x1, 42308, 1⟩,
   ⟨0x26b, 0x1, 10743, 1⟩, ⟨0x26c, 0x1, 42305, 1⟩, ⟨0x26f, 0x1, -211, 1⟩,
   ⟨0x271, 0x1, 10749, 1⟩, ⟨0x272, 0x1, -213, 1⟩, ⟨0x275, 0x1, -214, 1⟩, ⟨0x27d, 0x1, 10727, 1⟩,
   ⟨0x280, 0x1, -218, 1⟩, ⟨0x282, 0x1, 42307, 1⟩, ⟨0x283, 0x1, -218, 1⟩, ⟨0x287, 0x1, 42282, 1⟩,
   ⟨0x288, 0x1, -218, 1⟩, ⟨0x289, 0x1, -69, 1⟩, ⟨0x28a, 0x2, -217, 1⟩, ⟨0x28c, 0x1, -71, 1⟩,
   ⟨0x292, 0x1, -219, 1⟩, ⟨0x29d, 0x1, 42261, 1⟩, ⟨0x29e, 0x1, 42258, 1⟩, ⟨0x345, 0x1, 84, 1⟩,
   ⟨0x371, 0x2, -1, 2⟩, ⟨0x377, 0x1, -1, 1⟩, ⟨0x37b, 0x3, 130, 1⟩, ⟨0x3ac, 0x1, -38, 1⟩,
   ⟨0x3ad, 0x3, -37, 1⟩, ⟨0x3b1, 0x11, -32, 1⟩, ⟨0x3c2, 0x1, -31, 1⟩, ⟨0x3c3, 0x9, -32, 1⟩,
   ⟨0x3cc, 0x1, -64, 1⟩, ⟨0x3cd, 0x2, -63, 1⟩, ⟨0x3d0, 0x1, -62, 1⟩, ⟨0x3d1, 0x1, -57, 1⟩,
   ⟨0x3d5, 0x1, -47, 1⟩, ⟨0x3d6, 0x1, -54, 1⟩, ⟨0x3d7, 0x1, -8, 1⟩, ⟨0x3d9, 0xc, -1, 2⟩,
   ⟨0x3f0, 0x1, -86, 1⟩, ⟨0x3f1, 0x1, -80, 1⟩, ⟨0x3f2, 0x1, 7, 1⟩, ⟨0x3f3, 0x1, -116, 1⟩,
   ⟨0x3f5, 0x1, -96, 1⟩, ⟨0x3f8, 0x1, -1, 1⟩, ⟨0x3fb, 0x1, -1, 1⟩, ⟨0x430, 0x20, -32, 1⟩,
   ⟨0x450, 0x10, -80, 1⟩, ⟨0x461, 0x11, -1, 2⟩, ⟨0x48b, 0x1b, -1, 2⟩, ⟨0x4c2, 0x7, -1, 2⟩,
   ⟨0x4cf, 0x1, -15, 1⟩, ⟨0x4d1, 0x30, -1, 2⟩, ⟨0x561, 0x26, -48, 1⟩, ⟨0x10d0, 0x2b, 3008, 1⟩,
   ⟨0x10fd, 0x3, 3008, 1⟩, ⟨0x13f8, 0x6, -8, 1⟩, ⟨0x1c80, 0x1, -6254, 1⟩,
   ⟨0x1c81, 0x1, -6253, 1⟩, ⟨0x1c82, 0x1, -6244, 1⟩, ⟨0x1c83, 0x2, -6242, 1⟩,
   ⟨0x1c85, 0x1, -6243, 1⟩, ⟨0x1c86, 0x1, -6236, 1⟩, ⟨0x1c87, 0x1, -6181, 1⟩,
   ⟨0x1c88, 0x1, 35266, 1⟩, ⟨0x1d79, 0x1, 35332, 1⟩, ⟨0x1d7d, 0x1, 3814, 1⟩,
   ⟨0x1d8e, 0x1, 35384, 1⟩, ⟨0x1e01, 0x4b, -1, 2⟩, ⟨0x1e9b, 0x1, -59, 1⟩, ⟨0x1ea1, 0x30, -1, 2⟩,
   ⟨0x1f00, 0x8, 8, 1⟩, ⟨0x1f10, 0x6, 8, 1⟩, ⟨0x1f20, 0x8, 8, 1⟩, ⟨0x1f30, 0x8, 8, 1⟩,
   ⟨0x1f40, 0x6, 8, 1⟩, ⟨0x1f51, 0x4, 8, 2⟩, ⟨0x1f60, 0x8, 8, 1⟩, ⟨0x1f70, 0x2, 74, 1⟩,
   ⟨0x1f72, 0x4, 86, 1⟩, ⟨0x1f76, 0x2, 100, 1⟩, ⟨0x1f78, 0x2, 128, 1⟩, ⟨0x1f7a, 0x2, 112, 1⟩,
   ⟨0x1f7c, 0x2, 126, 1⟩, ⟨0x1fb0, 0x2, 8, 1⟩, ⟨0x1fbe, 0x1, -7205, 1⟩, ⟨0x1fd0, 0x2, 8, 1⟩,
   ⟨0x1fe0, 0x2, 8, 1⟩, ⟨0x1fe5, 0x1, 7, 1⟩, ⟨0x214e, 0x1, -28, 1⟩, ⟨0x2170, 0x10, -16, 1⟩,
   ⟨0x2184, 0x1, -1, 1⟩, ⟨0x24d0, 0x1a, -26, 1⟩, ⟨0x2c30, 0x30, -48, 1⟩, ⟨0x2c61, 0x1, -1, 1⟩,
   ⟨0x2c65, 0x1, -10795, 1⟩, ⟨0x2c66, 0x1, -10792, 1⟩, ⟨0x2c68, 0x3, -1, 2⟩,
   ⟨0x2c73, 0x1, -1, 1⟩, ⟨0x2c76, 0x1, -1, 1⟩, ⟨0x2c81, 0x32, -1, 2⟩, ⟨0x2cec, 0x2, -1, 2⟩,
   ⟨0x2cf3, 0x1, -1, 1⟩, ⟨0x2d00, 0x26, -7264, 1⟩, ⟨0x2d27, 0x1, -7264, 1⟩,
   ⟨0x2d2d, 0x1, -7264, 1⟩, ⟨0xa641, 0x17, -1, 2⟩, ⟨0xa681, 0xe, -1, 2⟩, ⟨0xa723, 0x7, -1, 2⟩,
   ⟨0xa733, 0x1f, -1, 2⟩, ⟨0xa77a, 0x2, -1, 2⟩, ⟨0xa77f, 0x5, -1, 2⟩, ⟨0xa78c, 0x1, -1, 1⟩,
   ⟨0xa791, 0x2, -1, 2⟩, ⟨0xa794, 0x1, 48, 1⟩, ⟨0xa797, 0xa, -1, 2⟩, ⟨0xa7b5, 0x8, -1, 2⟩,
   ⟨0xa7c8, 0x2, -1, 2⟩, ⟨0xa7d1, 0x1, -1, 1⟩, ⟨0xa7d7, 0x2, -1, 2⟩, ⟨0xa7f6, 0x1, -1, 1⟩,
   ⟨0xab53, 0x1, -928, 1⟩, ⟨0xab70, 0x50, -38864, 1⟩, ⟨0xff41, 0x1a, -32, 1⟩,
   ⟨0x10428, 0x28, -40, 1⟩, ⟨0x104d8, 0x24, -40, 1⟩, ⟨0x10597, 0xb, -39, 1⟩,
   ⟨0x105a3, 0xf, -39, 1⟩, ⟨0x105b3, 0x7, -39, 1⟩, ⟨0x105bb, 0x2, -39, 1⟩,
   ⟨0x10cc0, 0x33, -64, 1⟩, ⟨0x118c0, 0x20, -32, 1⟩, ⟨0x16e60, 0x20, -32, 1⟩,
   ⟨0x1e922, 0x22, -34, 1⟩]

/-- Single-character lower-case forms, as runs `⟨start, count, offset, stride⟩`. -/
def lowerRuns : List CaseRun :=
  [⟨0x41, 0x1a, 32, 1⟩, ⟨0xc0, 0x17, 32, 1⟩, ⟨0xd8, 0x7, 32, 1⟩, ⟨0x100, 0x18, 1, 2⟩,
   ⟨0x132, 0x3, 1, 2⟩, ⟨0x139, 0x8, 1, 2⟩, ⟨0x14a, 0x17, 1, 2⟩, ⟨0x178, 0x1, -121, 1⟩,
   ⟨0x179, 0x3, 1, 2⟩, ⟨0x181, 0x1, 210, 1⟩, ⟨0x182, 0x2, 1, 2⟩, ⟨0x186, 0x1, 206, 1⟩,
   ⟨0x187, 0x1, 1, 1⟩, ⟨0x189, 0x2, 205, 1⟩, ⟨0x18b, 0x1, 1, 1⟩, ⟨0x18e, 0x1, 79, 1⟩,
   ⟨0x18f, 0x1, 202, 1⟩, ⟨0x190, 0x1, 203, 1⟩, ⟨0x191, 0x1, 1, 1⟩, ⟨0x193, 0x1, 205, 1⟩,
   ⟨0x194, 0x1, 207, 1⟩, ⟨0x196, 0x1, 211, 1⟩, ⟨0x197, 0x1, 209, 1⟩, ⟨0x198, 0x1, 1, 1⟩,
   ⟨0x19c, 0x1, 211, 1⟩, ⟨0x19d, 0x1, 213, 1⟩, ⟨0x19f, 0x1, 214, 1⟩, ⟨0x1a0, 0x3, 1, 2⟩,
   ⟨0x1a6, 0x1, 218, 1⟩, ⟨0x1a7, 0x1, 1, 1⟩, ⟨0x1a9, 0x1, 218, 1⟩, ⟨0x1ac, 0x1, 1, 1⟩,
   ⟨0x1ae, 0x1, 218, 1⟩, ⟨0x1af, 0x1, 1, 1⟩, ⟨0x1b1, 0x2, 217, 1⟩, ⟨0x1b3, 0x2, 1, 2⟩,
   ⟨0x1b7, 0x1, 219, 1⟩, ⟨0x1b8, 0x1, 1, 1⟩, ⟨0x1bc, 0x1, 1, 1⟩, ⟨0x1c4, 0x1, 2, 1⟩,
   ⟨0x1c5, 0x1, 1, 1⟩, ⟨0x1c7, 0x1, 2, 1⟩, ⟨0x1c8, 0x1, 1, 1⟩, ⟨0x1ca, 0x1, 2, 1⟩,
   ⟨0x1cb, 0x9, 1, 2⟩, ⟨0x1de, 0x9, 1, 2⟩, ⟨0x1f1, 0x1, 2, 1⟩, ⟨0x1f2, 0x2, 1, 2⟩,
   ⟨0x1f6, 0x1, -97, 1⟩, ⟨0x1f7, 0x1, -56, 1⟩, ⟨0x1f8, 0x14, 1, 2⟩, ⟨0x220, 0x1, -130, 1⟩,
   ⟨0x222, 0x9, 1, 2⟩, ⟨0x23a, 0x1, 10795, 1⟩, ⟨0x23b, 0x1, 1, 1⟩, ⟨0x23d, 0x1, -163, 1⟩,
   ⟨0x23e, 0x1, 10792, 1⟩, ⟨0x241, 0x1, 1, 1⟩, ⟨0x243, 0x1, -195, 1⟩, ⟨0x244, 0x1, 69, 1⟩,
   ⟨0x245, 0x1, 71, 1⟩, ⟨0x246, 0x5, 1, 2⟩, ⟨0x370, 0x2, 1, 2⟩, ⟨0x376, 0x1, 1, 1⟩,
   ⟨0x37f, 0x1, 116, 1⟩, ⟨0x386, 0x1, 38, 1⟩, ⟨0x388, 0x3, 37, 1⟩, ⟨0x38c, 0x1, 64, 1⟩,
   ⟨0x38e, 0x2, 63, 1⟩, ⟨0x391, 0x11, 32, 1⟩, ⟨0x3a3, 0x9, 32, 1⟩, ⟨0x3cf, 0x1, 8, 1⟩,
   ⟨0x3d8, 0xc, 1, 2⟩, ⟨0x3f4, 0x1, -60, 1⟩, ⟨0x3f7, 0x1, 1, 1⟩, ⟨0x3f9, 0x1, -7, 1⟩,
   ⟨0x3fa, 0x1, 1, 1⟩, ⟨0x3fd, 0x3, -130, 1⟩, ⟨0x400, 0x10, 80, 1⟩, ⟨0x410, 0x20, 32, 1⟩,
   ⟨0x460, 0x11, 1, 2⟩, ⟨0x48a, 0x1b, 1, 2⟩, ⟨0x4c0, 0x1, 15, 1⟩, ⟨0x4c1, 0x7, 1, 2⟩,
   ⟨0x4d0, 0x30, 1, 2⟩, ⟨0x531, 0x26, 48, 1⟩, ⟨0x10a0, 0x26, 7264, 1⟩, ⟨0x10c7, 0x1, 7264, 1⟩,
   ⟨0x10cd, 0x1, 7264, 1⟩, ⟨0x13a0, 0x50, 38864, 1⟩, ⟨0x13f0, 0x6, 8, 1⟩,
   ⟨0x1c90, 0x2b, -3008, 1⟩, ⟨0x1cbd, 0x3, -3008, 1⟩, ⟨0x1e00, 0x4b, 1, 2⟩,
   ⟨0x1e9e, 0x1, -7615, 1⟩, ⟨0x1ea0, 0x30, 1, 2⟩, ⟨0x1f08, 0x8, -8, 1⟩, ⟨0x1f18, 0x6, -8, 1⟩,
   ⟨0x1f28, 0x8, -8, 1⟩, ⟨0x1f38, 0x8, -8, 1⟩, ⟨0x1f48, 0x6, -8, 1⟩, ⟨0x1f59, 0x4, -8, 2⟩,
   ⟨0x1f68, 0x8, -8, 1⟩, ⟨0x1f88, 0x8, -8, 1⟩, ⟨0x1f98, 0x8, -8, 1⟩, ⟨0x1fa8, 0x8, -8, 1⟩,
   ⟨0x1fb8, 0x2, -8, 1⟩, ⟨0x1fba, 0x2, -74, 1⟩, ⟨0x1fbc, 0x1, -9, 1⟩, ⟨0x1fc8, 0x4, -86, 1⟩,
   ⟨0x1fcc, 0x1, -9, 1⟩, ⟨0x1fd8, 0x2, -8, 1⟩, ⟨0x1fda, 0x2, -100, 1⟩, ⟨0x1fe8, 0x2, -8, 1⟩,
   ⟨0x1fea, 0x2, -112, 1⟩, ⟨0x1fec, 0x1, -7, 1⟩, ⟨0x1ff8, 0x2, -128, 1⟩, ⟨0x1ffa, 0x2, -126, 1⟩,
   ⟨0x1ffc, 0x1, -9, 1⟩, ⟨0x2126, 0x1, -7517, 1⟩, ⟨0x212a, 0x1, -8383, 1⟩,
   ⟨0x212b, 0x1, -8262, 1⟩, ⟨0x2132, 0x1, 28, 1⟩, ⟨0x2160, 0x10, 16, 1⟩, ⟨0x2183, 0x1, 1, 1⟩,
   ⟨0x24b6, 0x1a, 26, 1⟩, ⟨0x2c00, 0x30, 48, 1⟩, ⟨0x2c60, 0x1, 1, 1⟩, ⟨0x2c62, 0x1, -10743, 1⟩,
   ⟨0x2c63, 0x1, -3814, 1⟩, ⟨0x2c64, 0x1, -10727, 1⟩, ⟨0x2c67, 0x3, 1, 2⟩,
   ⟨0x2c6d, 0x1, -10780, 1⟩, ⟨0x2c6e, 0x1, -10749, 1⟩, ⟨0x2c6f, 0x1, -10783, 1⟩,
   ⟨0x2c70, 0x1, -10782, 1⟩, ⟨0x2c72, 0x1, 1, 1⟩, ⟨0x2c75, 0x1, 1, 1⟩, ⟨0x2c7e, 0x2, -10815, 1⟩,
   ⟨0x2c80, 0x32, 1, 2⟩, ⟨0x2ceb, 0x2, 1, 2⟩, ⟨0x2cf2, 0x1, 1, 1⟩, ⟨0xa640, 0x17, 1, 2⟩,
   ⟨0xa680, 0xe, 1, 2⟩, ⟨0xa722, 0x7, 1, 2⟩, ⟨0xa732, 0x1f, 1, 2⟩, ⟨0xa779, 0x2, 1, 2⟩,
   ⟨0xa77d, 0x1, -35332, 1⟩, ⟨0xa77e, 0x5, 1, 2⟩, ⟨0xa78b, 0x1, 1, 1⟩, ⟨0xa78d, 0x1, -42280, 1⟩,
   ⟨0xa790, 0x2, 1, 2⟩, ⟨0xa796, 0xa, 1, 2⟩, ⟨0xa7aa, 0x1, -42308, 1⟩, ⟨0xa7ab, 0x1, -42319, 1⟩,
   ⟨0xa7ac, 0x1, -42315, 1⟩, ⟨0xa7ad, 0x1, -42305, 1⟩, ⟨0xa7ae, 0x1, -42308, 1⟩,
   ⟨0xa7b0, 0x1, -42258, 1⟩, ⟨0xa7b1, 0x1, -42282, 1⟩, ⟨0xa7b2, 0x1, -42261, 1⟩,
   ⟨0xa7b3, 0x1, 928, 1⟩, ⟨0xa7b4, 0x8, 1, 2⟩, ⟨0xa7c4, 0x1, -48, 1⟩, ⟨0xa7c5, 0x1, -42307, 1⟩,
   ⟨0xa7c6, 0x1, -35384, 1⟩, ⟨0xa7c7, 0x2, 1, 2⟩, ⟨0xa7d0, 0x1, 1, 1⟩, ⟨0xa7d6, 0x2, 1, 2⟩,
   ⟨0xa7f5, 0x1, 1, 1⟩, ⟨0xff21, 0x1a, 32, 1⟩, ⟨0x10400, 0x28, 40, 1⟩, ⟨0x104b0, 0x24, 40, 1⟩,
   ⟨0x10570, 0xb, 39, 1⟩, ⟨0x1057c, 0xf, 39, 1⟩, ⟨0x1058c, 0x7, 39, 1⟩, ⟨0x10594, 0x2, 39, 1⟩,
   ⟨0x10c80, 0x33, 64, 1⟩, ⟨0x118a0, 0x20, 32, 1⟩, ⟨0x16e40, 0x20, 32, 1⟩,
   ⟨0x1e900, 0x22, 34, 1⟩]

/-- Characters whose upper-case form has several characters. -/
def upperWide : List (Nat × List Nat) :=
  [(0xdf, [0x53, 0x53]), (0x149, [0x2bc, 0x4e]), (0x1f0, [0x4a, 0x30c]),
   (0x390, [0x399, 0x308, 0x301]), (0x3b0, [0x3a5, 0x308, 0x301]), (0x587, [0x535, 0x552]),
   (0x1e96, [0x48, 0x331]), (0x1e97, [0x54, 0x308]), (0x1e98, [0x57, 0x30a]),
   (0x1e99, [0x59, 0x30a]), (0x1e9a, [0x41, 0x2be]), (0x1f50, [0x3a5, 0x313]),
   (0x1f52, [0x3a5, 0x313, 0x300]), (0x1f54, [0x3a5, 0x313, 0x301]),
   (0x1f56, [0x3a5, 0x313, 0x342]), (0x1f80, [0x1f08, 0x399]), (0x1f81, [0x1f09, 0x399]),
   (0x1f82, [0x1f0a, 0x399]), (0x1f83, [0x1f0b, 0x399]), (0x1f84, [0x1f0c, 0x399]),
   (0x1f85, [0x1f0d, 0x399]), (0x1f86, [0x1f0e, 0x399]), (0x1f87, [0x1f0f, 0x399]),
   (0x1f88, [0x1f08, 0x399]), (0x1f89, [0x1f09, 0x399]), (0x1f8a, [0x1f0a, 0x399]),
   (0x1f8b, [0x1f0b, 0x399]), (0x1f8c, [0x1f0c, 0x399]), (0x1f8d, [0x1f0d, 0x399]),
   (0x1f8e, [0x1f0e, 0x399]), (0x1f8f, [0x1f0f, 0x399]), (0x1f90, [0x1f28, 0x399]),
   (0x1f91, [0x1f29, 0x399]), (0x1f92, [0x1f2a, 0x399]), (0x1f93, [0x1f2b, 0x399]),
   (0x1f94, [0x1f2c, 0x399]), (0x1f95, [0x1f2d, 0x399]), (0x1f96, [0x1f2e, 0x399]),
   (0x1f97, [0x1f2f, 0x399]), (0x1f98, [0x1f28, 0x399]), (0x1f99, [0x1f29, 0x399]),
   (0x1f9a, [0x1f2a, 0x399]), (0x1f9b, [0x1f2b, 0x399]), (0x1f9c, [0x1f2c, 0x399]),
   (0x1f9d, [0x1f2d, 0x399]), (0x1f9e, [0x1f2e, 0x399]), (0x1f9f, [0x1f2f, 0x399]),
   (0x1fa0, [0x1f68, 0x399]), (0x1fa1, [0x1f69, 0x399]), (0x1fa2, [0x1f6a, 0x399]),
   (0x1fa3, [0x1f6b, 0x399]), (0x1fa4, [0x1f6c, 0x399]), (0x1fa5, [0x1f6d, 0x399]),
   (0x1fa6, [0x1f6e, 0x399]), (0x1fa7, [0x1f6f, 0x399]), (0x1fa8, [0x1f68, 0x399]),
   (0x1fa9, [0x1f69, 0x399]), (0x1faa, [0x1f6a, 0x399]), (0x1fab, [0x1f6b, 0x399]),
   (0x1fac, [0x1f6c, 0x399]), (0x1fad, [0x1f6d, 0x399]), (0x1fae, [0x1f6e, 0x399]),
   (0x1faf, [0x1f6f, 0x399]), (0x1fb2, [0x1fba, 0x399]), (0x1fb3, [0x391, 0x399]),
   (0x1fb4, [0x386, 0x399]), (0x1fb6, [0x391, 0x342]), (0x1fb7, [0x391, 0x342, 0x399]),
   (0x1fbc, [0x391, 0x399]), (0x1fc2, [0x1fca, 0x399]), (0x1fc3, [0x397, 0x399]),
   (0x1fc4, [0x389, 0x399]), (0x1fc6, [0x397, 0x342]), (0x1fc7, [0x397, 0x342, 0x399]),
   (0x1fcc, [0x397, 0x399]), (0x1fd2, [0x399, 0x308, 0x300]), (0x1fd3, [0x399, 0x308, 0x301]),
   (0x1fd6, [0x399, 0x342]), (0x1fd7, [0x399, 0x308, 0x342]), (0x1fe2, [0x3a5, 0x308, 0x300]),
   (0x1fe3, [0x3a5, 0x308, 0x301]), (0x1fe4, [0x3a1, 0x313]), (0x1fe6, [0x3a5, 0x342]),
   (0x1fe7, [0x3a5, 0x308, 0x342]), (0x1ff2, [0x1ffa, 0x399]), (0x1ff3, [0x3a9, 0x399]),
   (0x1ff4, [0x38f, 0x399]), (0x1ff6, [0x3a9, 0x342]), (0x1ff7, [0x3a9, 0x342, 0x399]),
   (0x1ffc, [0x3a9, 0x399]), (0xfb00, [0x46, 0x46]), (0xfb01, [0x46, 0x49]),
   (0xfb02, [0x46, 0x4c]), (0xfb03, [0x46, 0x46, 0x49]), (0xfb04, [0x46, 0x46, 0x4c]),
   (0xfb05, [0x53, 0x54]), (0xfb06, [0x53, 0x54]), (0xfb13, [0x544, 0x546]),
   (0xfb14, [0x544, 0x535]), (0xfb15, [0x544, 0x53b]), (0xfb16, [0x54e, 0x546]),
   (0xfb17, [0x544, 0x53d])]

/-- Characters whose lower-case form has several characters. -/
def lowerWide : List (Nat × List Nat) :=
  [(0x130, [0x69, 0x307])]

/-- The case form of one character under a mapping given by its runs and longer forms. -/
def caseForm (runs : List CaseRun) (wide : List (Nat × List Nat)) (c : Char) : List Char :=
  let n := c.toNat
  match wide.find? (·.1 == n) with
  | some (_, forms) => forms.map Char.ofNat
  | none =>
    match runs.find? (·.covers n) with
    | some r => [Char.ofNat (n + r.offset).toNat]
    | none => [c]

/-- Text in upper case. -/
def upper (s : String) : String :=
  String.ofList (s.toList.flatMap (caseForm upperRuns upperWide))

/-- Text in lower case. -/
def lower (s : String) : String :=
  String.ofList (s.toList.flatMap (caseForm lowerRuns lowerWide))

end Billing.Text
