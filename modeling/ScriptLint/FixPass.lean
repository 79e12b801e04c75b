import ScriptLint.Diagnostic

/-! One pass of fixes over a text: safe patches are accepted in the order of their diagnostics,
unless they collide with one accepted before, and the accepted ones are applied together. -/
namespace ScriptLint

inductive FixError where
  | combine (cause : PatchError)
  | apply (cause : PatchError)
  deriving DecidableEq, Repr

def FixError.message : FixError → String
  | combine cause => s!"Failed to combine fixes: {cause.message}"
  | apply cause => s!"Failed to apply fixes: {cause.message}"

structure FixOutcome where
  text : Text
  /-- Indices of the diagnostics whose fixes were applied. -/
  accepted : List Nat
  /-- Safe fixes skipped because they collide with an accepted one. -/
  conflicting : Nat
  deriving DecidableEq, Repr

namespace FixPass

/-- Accepted patches with their indices, and the number of patches that collided. -/
structure Selection where
  accepted : List (Nat × Patch)
  conflicting : Nat

def Selection.empty : Selection := ⟨[], 0⟩

def Selection.consider (s : Selection) (index : Nat) (d : Diagnostic) : Selection :=
  match d.safePatch? with
  | none => s
  | some patch =>
    if s.accepted.any fun a => a.2.intersects patch then { s with conflicting := s.conflicting + 1 }
    else { s with accepted := s.accepted ++ [(index, patch)] }

/-- Greedy choice over the diagnostics, the first of which has index `index`. -/
def select (index : Nat) : List Diagnostic → Selection → Selection
  | [], s => s
  | d :: ds, s => select (index + 1) ds (s.consider index d)

def combine : List Patch → Except PatchError (Option Patch)
  | [] => .ok none
  | p :: ps => (ps.foldlM Patch.merge p).map some

def run (text : Text) (diagnostics : List Diagnostic) : Except FixError FixOutcome :=
  let chosen := select 0 diagnostics .empty
  match combine (chosen.accepted.map Prod.snd) with
  | .error e => .error (.combine e)
  | .ok none => .ok ⟨text, [], chosen.conflicting⟩
  | .ok (some patch) =>
    match patch.apply text with
    | .error e => .error (.apply e)
    | .ok fixed => .ok ⟨fixed, chosen.accepted.map Prod.fst, chosen.conflicting⟩

end FixPass

end ScriptLint
