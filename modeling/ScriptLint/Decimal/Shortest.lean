/-! Decimal text of a binary64 number: the fewest digits that read back as the number, and of
these the nearest. All arithmetic is on naturals. -/
namespace ScriptLint.Decimal

/-- A positive finite number `mantissa * 2 ^ exponent`. In a `narrow` one the neighbour below is
half as far away as the neighbour above. -/
structure Binary where
  mantissa : Nat
  exponent : Int
  narrow : Bool

def Binary.ofBits? (bits : UInt64) : Option Binary :=
  let fraction : Nat := bits.toNat % Nat.pow 2 52
  let biased : Nat := bits.toNat / Nat.pow 2 52 % Nat.pow 2 11
  if biased = 2047 then none
  else if biased = 0 then if fraction = 0 then none else some ⟨fraction, -1074, false⟩
  else some ⟨fraction + Nat.pow 2 52, (biased : Int) - 1075, fraction == 0 && biased != 1⟩

/-- Numerators, over the common denominator `scale`, of a number and of the ends of the interval
of reals that round to it. -/
structure Rounding where
  low : Nat
  value : Nat
  high : Nat
  scale : Nat
  closed : Bool

def Binary.rounding (b : Binary) : Rounding :=
  let up := Nat.pow 2 b.exponent.toNat
  let down := Nat.pow 2 (-b.exponent).toNat
  let m := 4 * b.mantissa
  ⟨(if b.narrow then m - 1 else m - 2) * up, m * up, (m + 2) * up, 4 * down, b.mantissa % 2 == 0⟩

def Rounding.holds (r : Rounding) (digits : Nat) (exponent : Int) : Bool :=
  let x := digits * Nat.pow 10 exponent.toNat * r.scale
  let ten := Nat.pow 10 (-exponent).toNat
  if r.closed then r.low * ten ≤ x && x ≤ r.high * ten else r.low * ten < x && x < r.high * ten

/-- The largest multiple of `10 ^ exponent` that is not above the value, in units of it. -/
def Rounding.below (r : Rounding) (exponent : Int) : Nat :=
  r.value * Nat.pow 10 (-exponent).toNat / (r.scale * Nat.pow 10 exponent.toNat)

def Rounding.onGrid (r : Rounding) (exponent : Int) : Option Nat :=
  let d := r.below exponent
  match r.holds d exponent, r.holds (d + 1) exponent with
  | false, false => none
  | true, false => some d
  | false, true => some (d + 1)
  | true, true =>
    let twice := 2 * r.value * Nat.pow 10 (-exponent).toNat
    let middle := (2 * d + 1) * r.scale * Nat.pow 10 exponent.toNat
    some (if twice < middle || (twice == middle && d % 2 == 0) then d else d + 1)

def Rounding.magnitude (r : Rounding) : Int :=
  (((List.range 700).map fun (i : Nat) => (i : Int) - 330).find? fun k =>
    r.value * Nat.pow 10 (-k).toNat < r.scale * Nat.pow 10 k.toNat).getD 0

/-- Digits and exponent of the shortest decimal. The upper neighbour of a value just below a power
of ten is that power, which is written with one digit. -/
def shortest (b : Binary) : Nat × Int :=
  let r := b.rounding
  let k := r.magnitude
  let d := ((List.range' 1 17).findSome? fun (n : Nat) =>
    (r.onGrid (k - n)).map fun d => (d, k - n)).getD (r.below (k - 17), k - 17)
  if d.1 % 10 = 0 then (d.1 / 10, d.2 + 1) else d

/-- Positional from one hundred-thousandth up to `10 ^ 16`, with an exponent outside. -/
def layout (digits : Nat) (exponent : Int) : String :=
  let ds := (Nat.toDigits 10 digits)
  let point : Int := ds.length + exponent
  if 0 ≤ exponent && point ≤ 16 then
    String.ofList (ds ++ List.replicate exponent.toNat '0') ++ ".0"
  else if 0 < point && point ≤ 16 then
    String.ofList (ds.take point.toNat) ++ "." ++ String.ofList (ds.drop point.toNat)
  else if -5 < point && point ≤ 0 then
    "0." ++ String.ofList (List.replicate (-point).toNat '0' ++ ds)
  else
    let head := String.ofList (ds.take 1)
    let tail := if ds.length = 1 then "" else "." ++ String.ofList (ds.drop 1)
    head ++ tail ++ "e" ++ toString (point - 1)

def render (bits : UInt64) : String :=
  let sign := if bits.toNat / Nat.pow 2 63 = 1 then "-" else ""
  match Binary.ofBits? bits with
  | none => sign ++ "0.0"
  | some b =>
    let d := shortest b
    sign ++ layout d.1 d.2

end ScriptLint.Decimal
