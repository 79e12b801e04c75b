/-! Sets of characters as lists of arithmetic progressions of code points. -/
namespace ScriptLint.Unicode

/-- Every `step`-th code point from `low` to `high`. -/
structure CodeRange where
  low : Nat
  high : Nat
  step : Nat
  deriving DecidableEq, Repr

def CodeRange.has (r : CodeRange) (n : Nat) : Bool :=
  r.low ≤ n && n ≤ r.high && (n - r.low) % r.step == 0

def inRanges (rs : List CodeRange) (n : Nat) : Bool := rs.any fun r => r.has n

def hexValue (c : Char) : Nat :=
  if c.isDigit then c.toNat - 48 else if 'A' ≤ c then c.toNat - 55 else 0

def hexNumber (s : List Char) : Nat := s.foldl (fun n c => n * 16 + hexValue c) 0

/-- Reads `low`, `low-high` or `low-high/step`, with hexadecimal code points. -/
def CodeRange.ofText (s : List Char) : CodeRange :=
  let low := s.takeWhile fun c => c ≠ '-'
  let rest := (s.dropWhile fun c => c ≠ '-').drop 1
  if rest.isEmpty then ⟨hexNumber low, hexNumber low, 1⟩
  else
    let high := rest.takeWhile fun c => c ≠ '/'
    let step := (rest.dropWhile fun c => c ≠ '/').drop 1
    ⟨hexNumber low, hexNumber high, if step.isEmpty then 1 else hexNumber step⟩

def splitBlanks : List Char → List (List Char)
  | [] => [[]]
  | c :: cs =>
    if c = ' ' || c = '\n' then [] :: splitBlanks cs
    else match splitBlanks cs with
      | [] => [[c]]
      | w :: ws => (c :: w) :: ws

def rangesOfText (s : String) : List CodeRange :=
  ((splitBlanks s.toList).filter fun w => !w.isEmpty).map CodeRange.ofText

end ScriptLint.Unicode
