/-! A decimal `significand * 10 ^ exponent` as a binary64 number, by one multiplication with or
division by a power of ten. This is fast and may be one unit off the nearest number. -/
namespace ScriptLint.Decimal

def maxPower : Nat := 308

def powerOfTen (n : Nat) : Float := Float.ofScientific 1 false n

/-- Below `10 ^ -308` the division is done in several steps. `none` where the result is infinite. -/
def scaleBy (f : Float) : Nat → Int → Option Float
  | 0, _ => some f
  | steps + 1, e =>
    if e.natAbs ≤ maxPower then
      if 0 ≤ e then
        let g := f * powerOfTen e.toNat
        if g.isInf then none else some g
      else some (f / powerOfTen e.natAbs)
    else if f == 0.0 then some f
    else if 0 ≤ e then none
    else scaleBy (f / powerOfTen maxPower) steps (e + maxPower)

/-- Bits of the number; `none` if it is out of range. A significand has at most 64 bits, so two
steps leave nothing of it. -/
def scaled? (negative : Bool) (significand : Nat) (exponent : Int) : Option UInt64 :=
  (scaleBy significand.toUInt64.toFloat 4 exponent).map fun f =>
    (if negative then -f else f).toBits

def ofInt (n : Int) : UInt64 :=
  let f := n.natAbs.toUInt64.toFloat
  (if n < 0 then -f else f).toBits

end ScriptLint.Decimal
