/-! Binary search for the place where a property of indices stops to hold. -/
namespace ScriptLint

def narrowDown (p : Nat → Bool) (base size : Nat) : Nat :=
  if _h : size ≤ 1 then base
  else
    let half := size / 2
    narrowDown p (if p (base + half) then base + half else base) (size - half)
termination_by size
decreasing_by omega

/-- The number of indices below `n` that satisfy `p`, if these are the first ones. -/
def partitionPoint (p : Nat → Bool) (n : Nat) : Nat :=
  if n = 0 then 0
  else
    let base := narrowDown p 0 n
    if p base then base + 1 else base

end ScriptLint
