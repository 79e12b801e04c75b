import ScriptLint.Syntax.Kind

/-! Syntax trees. The nodes of a tree are numbered; a node's kind names its children by number, and
the tree keeps for every node its parent and its children in source order. -/
namespace ScriptLint

abbrev NodeId := Nat

structure Node where
  kind : NodeKind NodeId
  span : Span
  deriving DecidableEq, Repr

def Node.missing : Node := ⟨.other "" [], ⟨0, 0⟩⟩

instance : Inhabited Node := ⟨Node.missing⟩

inductive TreeError where
  | danglingChild (parent child : NodeId)
  | sharedChild (child : NodeId)
  | childOutsideParent (parent child : String) (parentSpan childSpan : Span)
  | overlappingSiblings (first second : String) (span : Span)
  deriving DecidableEq, Repr

def TreeError.message : TreeError → String
  | danglingChild parent child => s!"Node #{parent} refers to missing child #{child}."
  | sharedChild child => s!"Node #{child} has more than one parent."
  | childOutsideParent parent child parentSpan childSpan =>
    s!"{child} at {childSpan.render} is not contained in its parent {parent} at " ++
      s!"{parentSpan.render}."
  | overlappingSiblings first second span =>
    s!"Sibling nodes {first} and {second} overlap at {span.render}."

structure Tree where
  nodes : Array Node
  children : Array (List NodeId)
  parents : Array (Option NodeId)
  root : NodeId
  deriving Repr

namespace Tree

/-! Building a tree from its nodes. -/

def dedupNeighbours : List NodeId → List NodeId
  | a :: b :: ids => if a = b then dedupNeighbours (b :: ids) else a :: dedupNeighbours (b :: ids)
  | ids => ids

/-- Numbers that are no node come first, the others by their start. -/
def sortKey (nodes : Array Node) (id : NodeId) : Nat :=
  match nodes[id]? with
  | some node => node.span.start + 1
  | none => 0

def sortedChildren (nodes : Array Node) (kind : NodeKind NodeId) : List NodeId :=
  dedupNeighbours (kind.children.mergeSort fun a b => sortKey nodes a ≤ sortKey nodes b)

/-- Enters a child's parent, after checking that it has no other one and encloses the child. -/
def linkChild (nodes : Array Node) (parent : NodeId) (parents : Array (Option NodeId))
    (child : NodeId) : Except TreeError (Array (Option NodeId)) :=
  match nodes[child]? with
  | none => .error (.danglingChild parent child)
  | some childNode =>
    let taken := match parents[child]? with
      | some (some other) => other != parent
      | _ => false
    if taken then .error (.sharedChild child)
    else
      let owner := nodes[parent]?.getD Node.missing
      if owner.span.contains childNode.span then .ok (parents.setIfInBounds child (some parent))
      else .error (.childOutsideParent owner.kind.typeName childNode.kind.typeName owner.span
        childNode.span)

def firstOverlap (nodes : Array Node) : List NodeId → Option (Node × Node)
  | a :: b :: ids =>
    let first := nodes[a]?.getD Node.missing
    let second := nodes[b]?.getD Node.missing
    if second.span.start < first.span.stop then some (first, second)
    else firstOverlap nodes (b :: ids)
  | _ => none

structure Links where
  children : Array (List NodeId)
  parents : Array (Option NodeId)

def linkNode (nodes : Array Node) (links : Links) (id : NodeId) : Except TreeError Links := do
  let node := nodes[id]?.getD Node.missing
  let ids := sortedChildren nodes node.kind
  let parents ← ids.foldlM (linkChild nodes id) links.parents
  match firstOverlap nodes ids with
  | some (first, second) =>
    .error (.overlappingSiblings first.kind.typeName second.kind.typeName second.span)
  | none => .ok ⟨links.children.push ids, parents⟩

/-- Links the nodes; fails unless every child lies inside its only parent and siblings are apart. -/
def ofNodes (nodes : Array Node) (root : NodeId) : Except TreeError Tree := do
  let links ← (List.range nodes.size).foldlM (linkNode nodes)
    ⟨#[], Array.replicate nodes.size none⟩
  .ok ⟨nodes, links.children, links.parents, root⟩

/-! Looking around in a tree. -/

def size (t : Tree) : Nat := t.nodes.size

def node (t : Tree) (id : NodeId) : Node := t.nodes[id]?.getD Node.missing

def kind (t : Tree) (id : NodeId) : NodeKind NodeId := (t.node id).kind

def span (t : Tree) (id : NodeId) : Span := (t.node id).span

def parent? (t : Tree) (id : NodeId) : Option NodeId := (t.parents[id]?).join

def childrenOf (t : Tree) (id : NodeId) : List NodeId := t.children[id]?.getD []

def ancestorsFrom (t : Tree) : Nat → Option NodeId → List NodeId
  | 0, _ => []
  | _, none => []
  | fuel + 1, some id => id :: ancestorsFrom t fuel (t.parent? id)

def ancestors (t : Tree) (id : NodeId) : List NodeId := t.ancestorsFrom t.size (t.parent? id)

def walk (t : Tree) : Nat → List NodeId → List NodeId
  | 0, _ => []
  | _, [] => []
  | fuel + 1, id :: stack => id :: walk t fuel (t.childrenOf id ++ stack)

/-- More than enough visits to reach everything below a node, also where a list of children names an
empty node more than once: a visit of a node leads to one visit for each entry of its list. -/
def visitBound (t : Tree) : Nat := t.children.foldl (fun n ids => n * (ids.length + 1)) 1

/-- A node and everything below it, each node before its children. -/
def descendants (t : Tree) (id : NodeId) : List NodeId := t.walk t.visitBound [id]

def preorder (t : Tree) : List NodeId := t.descendants t.root

def nextIn (id : NodeId) : List NodeId → Option NodeId
  | a :: b :: ids => if a = id then some b else nextIn id (b :: ids)
  | _ => none

def nextSibling? (t : Tree) (id : NodeId) : Option NodeId :=
  (t.parent? id).bind fun p => nextIn id (t.childrenOf p)

def prevSibling? (t : Tree) (id : NodeId) : Option NodeId :=
  (t.parent? id).bind fun p => nextIn id (t.childrenOf p).reverse

def isWithin (t : Tree) (id ancestor : NodeId) : Bool :=
  id == ancestor || (t.ancestors id).contains ancestor

def coveringFrom (t : Tree) (span : Span) : Nat → NodeId → NodeId
  | 0, id => id
  | fuel + 1, id =>
    match (t.childrenOf id).find? fun child => (t.span child).contains span with
    | some child => coveringFrom t span fuel child
    | none => id

def covering (t : Tree) (span : Span) : NodeId := t.coveringFrom span t.size t.root

/-! Names and keys. -/

def identifierName? (t : Tree) (id : NodeId) : Option String :=
  match t.kind id with
  | .identifier name _ _ => some name
  | _ => none

def stringValue? (t : Tree) (id : NodeId) : Option String :=
  match t.kind id with
  | .literal (.string value) _ => some value
  | _ => none

/-- Key of a property: in a shorthand property its value, or the target of its value's default. -/
def keyOf (t : Tree) (value : NodeId) : Option NodeId → NodeId
  | some key => key
  | none =>
    match t.kind value with
    | .assignmentPattern left _ => left
    | _ => value

/-- The name that a key stands for, if it does not have to be computed. -/
def staticKeyName? (t : Tree) (key : NodeId) (computed : Bool) : Option String :=
  match t.kind key with
  | .identifier name _ _ => if computed then none else some name
  | .literal (.string value) _ => some value
  | .literal (.number _) raw => some raw
  | _ => none

end Tree

end ScriptLint
