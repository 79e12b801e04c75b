import ScriptLint.Text.Span
import ScriptLint.Text.Basic

/-! Offsets counted in UTF-16 code units, as most JavaScript tools count them. -/
namespace ScriptLint

/-- A character outside the basic plane takes two units. -/
def unitsOf (c : Char) : Nat := if c.toNat < 0x10000 then 1 else 2

/-- What turns offsets in UTF-16 units into byte offsets. Where all characters are of ASCII the two
are the same, and no table is kept. -/
structure OffsetMap where
  table : Option (Array Nat)
  /-- Length of the text in bytes. -/
  size : Nat
  deriving Repr

def OffsetMap.byteOffset? (m : OffsetMap) (n : Nat) : Option Nat :=
  match m.table with
  | none => if n ≤ m.size then some n else none
  | some offsets => offsets[n]?

namespace Text

def units : Text → Nat
  | [] => 0
  | c :: t => unitsOf c + units t

/-- For each unit of a text that begins at `base` the byte offset of its character, and the end of
the text. The second unit of a pair belongs to the character that the first one starts. -/
def unitOffsets (base : Nat) : Text → List Nat
  | [] => [base]
  | c :: t => List.replicate (unitsOf c) base ++ unitOffsets (base + c.utf8Size) t

def isAscii (t : Text) : Bool := t.all fun c => c.toNat < 128

def offsetTable (t : Text) : OffsetMap := ⟨some (unitOffsets 0 t).toArray, t.size⟩

def offsetMap (t : Text) : OffsetMap := if t.isAscii then ⟨none, t.size⟩ else t.offsetTable

def byteOffset? (t : Text) (n : Nat) : Option Nat := t.offsetMap.byteOffset? n

def spanOfUnits? (t : Text) (start stop : Nat) : Option Span :=
  (t.byteOffset? start).bind fun a => (t.byteOffset? stop).bind fun b =>
    if a ≤ b then some ⟨a, b⟩ else none

end Text

end ScriptLint
