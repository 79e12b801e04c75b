import ScriptLint.Unicode.CodeSet

/-! Sets of characters by the bytes of their UTF-8 forms. -/
namespace ScriptLint.Regex

structure ByteRange where
  low : Nat
  high : Nat
  deriving DecidableEq, Repr

def cutByLength (r : Nat × Nat) : List (Nat × Nat) :=
  ([(0, 0x7F), (0x80, 0x7FF), (0x800, 0xFFFF), (0x10000, 0x10FFFF)].map fun part =>
    (max part.1 r.1, min part.2 r.2)).filter fun part => part.1 ≤ part.2

/-- Cuts a range into parts whose bytes vary independently. All but the ends of the range consist of
whole blocks, the sizes of which are given, smaller ones first. -/
def cutIntoBlocks : List Nat → Nat → Nat → List (Nat × Nat)
  | [], low, high => [(low, high)]
  | size :: sizes, low, high =>
    if low / size = high / size then [(low, high)]
    else
      let start := (low + size - 1) / size * size
      let stop := (high + 1) / size * size
      let head := if low < start then [(low, start - 1)] else []
      let tail := if stop ≤ high then [(stop, high)] else []
      let middle := if start < stop then cutIntoBlocks sizes start (stop - 1) else []
      head ++ middle ++ tail

def utf8Bytes (code : Nat) : List Nat := (String.utf8EncodeChar (Char.ofNat code)).map UInt8.toNat

def cutByBytes (r : Nat × Nat) : List (Nat × Nat) :=
  if r.2 < 0x80 then [r] else cutIntoBlocks [0x40, 0x1000, 0x40000] r.1 r.2

def byteSequences (s : Unicode.CodeSet) : List (List ByteRange) :=
  ((s.ranges.flatMap cutByLength).flatMap cutByBytes).map fun r =>
    (utf8Bytes r.1).zipWith ByteRange.mk (utf8Bytes r.2)

end ScriptLint.Regex
