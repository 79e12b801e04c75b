import ScriptLint.Refactor.Reorder
import ScriptLint.Rule.Basic

/-! Properties of objects and imports of modules follow a list of priorities. -/
namespace ScriptLint

inductive Priority where
  | exact (name : Text)
  | startsWith (word : Text)
  | endsWith (word : Text)
  /-- All names that no other entry claims. -/
  | rest
  deriving DecidableEq, Repr

namespace Priority

/-- A star at the end or at the start stands for any text. -/
def ofText (pattern : Text) : Priority :=
  if pattern = ['*'] then rest
  else match Text.dropSuffix? pattern ['*'], Text.dropPrefix? pattern ['*'] with
    | some word, _ => startsWith word
    | none, some word => endsWith word
    | none, none => exact pattern

def claims (p : Priority) (name : Text) : Bool :=
  match p with
  | exact n => name == n
  | startsWith word => Text.startsWith name word
  | endsWith word => Text.endsWith name word
  | rest => false

/-- The place of a name: that of the first entry that claims it, else that of the rest, else after
all entries. -/
def rank (priorities : List Priority) (name : Text) : Nat :=
  match priorities.findIdx? fun p => p.claims name with
  | some i => i
  | none => priorities.findIdx fun p => p == rest

/-- Numbers of the names in their order of rank; names of equal rank keep their order. -/
def expectedOrder (priorities : List Priority) (names : List Text) : List Nat :=
  let ranks := (names.map (rank priorities)).toArray
  (List.range names.length).mergeSort fun a b => ranks.getD a 0 ≤ ranks.getD b 0

def firstDivergence? (order : List Nat) : Option Nat :=
  order.zipIdx.findSome? fun (source, position) => if source = position then none else some position

def decode? (v : Json) : Option (List Priority) := do
  match ← v.record? [("order", .defaulted)] with
  | [order] => return (← Json.orDefault? Json.strings? [] order).map fun s => ofText s.toList
  | _ => none

def schema : Json := Schema.object [("order", Schema.strings)]

end Priority

abbrev Segment := List (NodeId × Text)

/-- Collects runs of elements that have a name; the others end a run. Runs of one are left out. -/
def segments (name? : NodeId → Option Text) (elements : List NodeId) : List Segment :=
  (collect elements).filter fun s => 2 ≤ s.length
where
  collect : List NodeId → List Segment
    | [] => [[]]
    | id :: ids =>
      match name? id, collect ids with
      | some name, s :: ss => ((id, name) :: s) :: ss
      | some name, [] => [[(id, name)]]
      | none, ss => [] :: ss

/-- A segment that is not in order: what should come first, what stands in its place, the node
there, and the order that is expected. -/
structure Divergence where
  expected : String
  actual : String
  node : NodeId
  order : List Nat

def Segment.divergence? (s : Segment) (priorities : List Priority) : Option Divergence := do
  let order := Priority.expectedOrder priorities (s.map Prod.snd)
  let position ← Priority.firstDivergence? order
  let source ← order[position]?
  let (_, expected) ← s[source]?
  let (node, actual) ← s[position]?
  return ⟨String.ofList expected, String.ofList actual, node, order⟩

namespace PropertyOrder

/-- Whether nothing in an expression can have an effect or notice one, as far as it is evaluated
now; bodies of functions are not. `fuel` bounds the number of nodes. -/
def isPureFrom (t : Tree) : Nat → List NodeId → Bool
  | 0, _ => true
  | _, [] => true
  | fuel + 1, id :: stack =>
    match t.kind id with
    | .callExpression .. | .newExpression .. | .memberExpression .. | .assignmentExpression ..
    | .updateExpression .. | .awaitExpression .. | .yieldExpression .. | .taggedTemplate ..
    | .importExpression .. => false
    | .functionDeclaration .. | .functionExpression .. | .arrowFunction .. =>
      isPureFrom t fuel stack
    | _ => isPureFrom t fuel (t.childrenOf id ++ stack)

def isPure (t : Tree) (property : NodeId) : Bool :=
  match t.kind property with
  | .property value .. => isPureFrom t t.size [value]
  | _ => false

def propertyName? (t : Tree) (id : NodeId) : Option Text :=
  match t.kind id with
  | .property value key _ false _ => (t.staticKeyName? (t.keyOf value key) false).map String.toList
  | _ => none

/-- Moving properties is safe if none of them has an effect; it is no fix if a name occurs twice. -/
def checkSegment (priorities : List Priority) (s : Source) (segment : Segment) :
    Option Finding := do
  let d ← segment.divergence? priorities
  let elements := segment.map Prod.fst
  let names := segment.map Prod.snd
  let patch := if names.eraseDups.length = names.length then s.reorder? elements d.order .comma
    else none
  return ⟨s.tree.span d.node, s!"Expected \"{d.expected}\" to come before \"{d.actual}\".",
    patch.map fun p => .checked (elements.all (isPure s.tree)) p "Sort the properties."⟩

def check (priorities : List Priority) (_ : FileSystem) (f : SourceFile) : List Finding :=
  if priorities.isEmpty then []
  else f.tree.preorder.flatMap fun id =>
    match f.tree.kind id with
    | .objectExpression properties =>
      (segments (propertyName? f.tree) properties).filterMap (checkSegment priorities f.toSource)
    | _ => []

def rule : Rule :=
  .of ⟨"JS-STYLE-ORDER-001", "prop-order", "Object literal properties follow the configured order.",
      true⟩
    Priority.schema [] Priority.decode? check

end PropertyOrder

namespace ImportOrder

def leadingImports (t : Tree) (statements : List NodeId) : List NodeId :=
  statements.takeWhile fun id =>
    match t.kind id with
    | .importDeclaration _ source => (t.stringValue? source).isSome
    | _ => false

/-- Path of an import that binds something; others have effects only and stay where they are. -/
def importPath? (t : Tree) (id : NodeId) : Option Text :=
  match t.kind id with
  | .importDeclaration (_ :: _) source => (t.stringValue? source).map String.toList
  | _ => none

def checkSegment (priorities : List Priority) (s : Source) (segment : Segment) :
    Option Finding := do
  let d ← segment.divergence? priorities
  return ⟨s.tree.span d.node, s!"Expected \"{d.expected}\" to be imported before \"{d.actual}\".",
    (s.reorder? (segment.map Prod.fst) d.order .statement).map fun p => .safe p "Sort the imports."⟩

def check (priorities : List Priority) (_ : FileSystem) (f : SourceFile) : List Finding :=
  if priorities.isEmpty then []
  else f.tree.preorder.flatMap fun id =>
    match f.tree.kind id with
    | .program body _ =>
      (segments (importPath? f.tree) (leadingImports f.tree body)).filterMap
        (checkSegment priorities f.toSource)
    | _ => []

def rule : Rule :=
  .of ⟨"JS-STYLE-ORDER-002", "import-order",
      "Leading imports follow the configured order of module paths.", true⟩
    Priority.schema [] Priority.decode? check

end ImportOrder

end ScriptLint
