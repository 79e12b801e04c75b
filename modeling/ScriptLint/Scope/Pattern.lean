import ScriptLint.Syntax.Tree

/-! Binding patterns. -/
namespace ScriptLint.Tree

def patternParts (t : Tree) (id : NodeId) : List NodeId :=
  match t.kind id with
  | .objectPattern properties => properties
  | .property value .. => [value]
  | .arrayPattern elements => elements.filterMap fun e => e
  | .restElement argument => [argument]
  | .assignmentPattern left _ => [left]
  | _ => []

/-- Identifiers of the patterns on a stack, where the parts of a pattern are visited from the last
to the first; `fuel` bounds the number of visits. -/
def collectBindings (t : Tree) : Nat → List NodeId → List NodeId
  | 0, _ => []
  | _, [] => []
  | fuel + 1, id :: stack =>
    match t.kind id with
    | .identifier .. => id :: collectBindings t fuel stack
    | _ => collectBindings t fuel ((t.patternParts id).reverse ++ stack)

def bindingIdentifiers (t : Tree) (pattern : NodeId) : List NodeId :=
  (t.collectBindings t.size [pattern]).mergeSort fun a b => (t.span a).start ≤ (t.span b).start

end ScriptLint.Tree
