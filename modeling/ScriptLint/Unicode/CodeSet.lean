import ScriptLint.Unicode.Range

/-! Sets of characters as lists of ranges of code points. -/
namespace ScriptLint.Unicode

/-- A set of characters: ranges of code points in ascending order, with gaps between them. -/
structure CodeSet where
  ranges : List (Nat × Nat)
  deriving DecidableEq, Repr

namespace CodeSet

def empty : CodeSet := ⟨[]⟩

def isEmpty (s : CodeSet) : Bool := s.ranges.isEmpty

def inAscending : List (Nat × Nat) → Nat → Bool
  | [], _ => false
  | r :: rs, n => if n < r.1 then false else n ≤ r.2 || inAscending rs n

def has (s : CodeSet) (c : Char) : Bool := inAscending s.ranges c.toNat

def startsBefore (a b : Nat × Nat) : Bool := a.1 ≤ b.1

def joinFrom (low high : Nat) : List (Nat × Nat) → List (Nat × Nat)
  | [] => [(low, high)]
  | r :: rs =>
    if r.1 ≤ high + 1 then joinFrom low (max high r.2) rs else (low, high) :: joinFrom r.1 r.2 rs

def join : List (Nat × Nat) → List (Nat × Nat)
  | [] => []
  | r :: rs => joinFrom r.1 r.2 rs

def ofRanges (rs : List (Nat × Nat)) : CodeSet := ⟨join (rs.mergeSort startsBefore)⟩

def maxCode : Nat := 0x10FFFF

/-- Code points that are no characters lie between these two. -/
def surrogates : Nat × Nat := (0xD800, 0xDFFF)

def ofRange (low high : Nat) : CodeSet :=
  if low < surrogates.1 && surrogates.2 < high then
    ⟨[(low, surrogates.1 - 1), (surrogates.2 + 1, high)]⟩
  else ⟨[(low, high)]⟩

def all : CodeSet := ofRange 0 maxCode

def single (c : Char) : CodeSet := ⟨[(c.toNat, c.toNat)]⟩

def single? (s : CodeSet) : Option Char :=
  match s.ranges with
  | [(low, high)] => if low = high then some (Char.ofNat low) else none
  | _ => none

def isAscii (s : CodeSet) : Bool := s.ranges.all fun r => r.2 < 128

def union (a b : CodeSet) : CodeSet := ⟨join (a.ranges.merge b.ranges startsBefore)⟩

def unionAll (sets : List CodeSet) : CodeSet := ofRanges (sets.flatMap CodeSet.ranges)

def gapsFrom (next : Nat) : List (Nat × Nat) → List (Nat × Nat)
  | [] => if next ≤ maxCode then [(next, maxCode)] else []
  | r :: rs =>
    if next < r.1 then (next, r.1 - 1) :: gapsFrom (r.2 + 1) rs else gapsFrom (r.2 + 1) rs

def compl (s : CodeSet) : CodeSet := ⟨gapsFrom 0 (s.union ⟨[surrogates]⟩).ranges⟩

def inter (a b : CodeSet) : CodeSet := (a.compl.union b.compl).compl

def diff (a b : CodeSet) : CodeSet := a.inter b.compl

def symmDiff (a b : CodeSet) : CodeSet := (a.diff b).union (b.diff a)

def progression (r : CodeRange) : List (Nat × Nat) :=
  if r.step ≤ 1 then [(r.low, r.high)]
  else (List.range ((r.high - r.low) / r.step + 1)).map fun k =>
    (r.low + k * r.step, r.low + k * r.step)

def ofText (s : String) : CodeSet := ofRanges ((rangesOfText s).flatMap progression)

end CodeSet

end ScriptLint.Unicode
