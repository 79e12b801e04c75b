import ScriptLint.Edit

/-! A patch is a list of edits of one text, in source order, that can be applied together. -/
namespace ScriptLint

inductive PatchError where
  | empty
  | overlap (first second : Span)
  | outOfBounds (span : Span) (size : Nat)
  | splitsCharacter (offset : Nat)
  deriving DecidableEq, Repr

def PatchError.message : PatchError → String
  | empty => "Patch has no edits."
  | overlap first second => s!"Edits at {first.render} and {second.render} overlap."
  | outOfBounds span size => s!"Edit at {span.render} is outside of a text of {size} bytes."
  | splitsCharacter offset => s!"Edit boundary {offset} splits a character."

structure Patch where
  edits : List Edit
  deriving DecidableEq, Repr

namespace Patch

def firstConflict : List Edit → Option (Edit × Edit)
  | a :: b :: es => if a.conflictsWith b then some (a, b) else firstConflict (b :: es)
  | _ => none

/-- Sorts the edits. In a sorted list two edits conflict only if two neighbours do. -/
def ofEdits (edits : List Edit) : Except PatchError Patch :=
  if edits.isEmpty then .error .empty
  else
    let sorted := edits.mergeSort Edit.le
    match firstConflict sorted with
    | some (a, b) => .error (.overlap a.span b.span)
    | none => .ok ⟨sorted⟩

def single (edit : Edit) : Patch := ⟨[edit]⟩

def cover (p : Patch) : Span :=
  let start := (p.edits.head?.map fun e => e.span.start).getD 0
  let stop := (p.edits.getLast?.map fun e => e.span.stop).getD 0
  ⟨start, max stop start⟩

def intersects (p q : Patch) : Bool :=
  let a := p.cover
  let b := q.cover
  a.start == b.start || (decide (a.start < b.stop) && decide (b.start < a.stop))

def merge (p q : Patch) : Except PatchError Patch := ofEdits (p.edits ++ q.edits)

def applyEdit (size : Nat) (e : Edit) (t : Text) : Except PatchError Text :=
  if t.size < e.span.stop then .error (.outOfBounds e.span size)
  else match t.take? e.span.start, t.drop? e.span.stop with
    | none, _ => .error (.splitsCharacter e.span.start)
    | some _, none => .error (.splitsCharacter e.span.stop)
    | some before, some after => .ok (before ++ e.replacement.toList ++ after)

/-- Applies the edits from the last to the first, so that earlier offsets stay valid. -/
def applyEdits (size : Nat) : List Edit → Text → Except PatchError Text
  | [], t => .ok t
  | e :: es, t => (applyEdits size es t).bind (applyEdit size e)

def apply (p : Patch) (t : Text) : Except PatchError Text := applyEdits t.size p.edits t

end Patch

end ScriptLint
