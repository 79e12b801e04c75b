import ScriptLint.Syntax.Document
import ScriptLint.Syntax.Token

/-! Builds the nodes of a syntax tree from a document. The objects that are still to be converted
wait on a stack, so nesting is bounded by memory only. An object whose children have no numbers yet
is read in vain: it stays on the stack with its children above it, and is read again after them. -/
namespace ScriptLint

/-- The nodes so far, the numbers of the objects that were converted, by address, and the children
that were met without a number, the last one first. -/
structure Loader where
  arena : Array Node := #[]
  converted : List (List Nat × NodeId) := []
  pending : List Cell := []

namespace Loader

open Json

def idOf (l : Loader) (c : Cell) : Option NodeId := l.converted.lookup c.address

/-- Number of a child. One that has none is queued, and 0 stands for its number in a result that is
thrown away. -/
def node (c : Cell) : StateT Loader (Except LoadError) NodeId :=
  match c.value with
  | .obj _ => do
    let l ← get
    match l.idOf c with
    | some id => return id
    | none =>
      set { l with pending := c :: l.pending }
      return 0
  | _ => throw .notANode

def read (t : Text) (address : List Nat) (o : Object) :
    StateT Loader (Except LoadError) (NodeKind NodeId) :=
  Document.Reading.kind ⟨fun c => node (c.under address), o, Document.typeOf o⟩ t

structure State where
  loader : Loader := {}
  /-- Objects to be converted, the next one first. -/
  stack : List Cell

/-- Looks at the object on top of the stack. It goes if it has a number, or gets one if all its
children have theirs; otherwise they are put above it. -/
def State.step (t : Text) (s : State) : Except LoadError State :=
  match s.stack with
  | [] => .ok s
  | c :: rest =>
    if (s.loader.idOf c).isSome then .ok { s with stack := rest }
    else
      match c.value with
      | .obj o => do
        let span ← Document.nodeSpan t o
        let (kind, l) ← (read t c.address o).run s.loader
        if l.pending.isEmpty then
          return ⟨⟨l.arena.push ⟨kind, span⟩, (c.address, l.arena.size) :: l.converted, []⟩, rest⟩
        else return ⟨{ l with pending := [] }, l.pending ++ s.stack⟩
      | _ => .error .notANode

def State.run (t : Text) : Nat → State → Except LoadError State
  | 0, s => .ok s
  | fuel + 1, s =>
    if s.stack.isEmpty then .ok s else (s.step t).bind (State.run t fuel)

def State.result (program : Cell) (s : State) : Except LoadError (Array Node × NodeId) :=
  match s.loader.idOf program with
  | some root => .ok (s.loader.arena, root)
  | none => .error .notANode

/-- The nodes of a document and the number of its own one. Every node takes one or two steps, and
there are no more nodes than values in the document. -/
def loadProgram (t : Text) (doc : Json) : Except LoadError (Array Node × NodeId) :=
  match doc with
  | .obj o =>
    let ty := Document.typeOf o
    if ty ≠ "Program" then .error (.notAProgram ty)
    else do
      let program : Cell := ⟨[], doc⟩
      let final ← State.run t (2 * doc.count) { stack := [program] }
      final.result program
  | _ => .error (.notAProgram "a non-object")

def load (t : Text) (doc : Json) : Except LoadError (Array Node) :=
  Prod.fst <$> loadProgram t doc

def commentKind : String → TokenKind
  | "Line" => .lineComment
  | "Shebang" | "Hashbang" => .hashbang
  | _ => .blockComment

def codeKind : String → TokenKind
  | "Identifier" | "JSXIdentifier" => .identifier
  | "Keyword" => .keyword
  | "Punctuator" => .punctuator
  | "String" => .string
  | "Numeric" => .numeric
  | "Template" => .template
  | "RegularExpression" => .regularExpression
  | "Boolean" => .boolean
  | "Null" => .null
  | "PrivateIdentifier" => .privateIdentifier
  | "JSXText" => .jsxText
  | _ => .other

/-- A token needs a `range`; without a usable one it is left out. -/
def token? (t : Text) (kindOf : String → TokenKind) : Json → Option Token
  | .obj o =>
    match Object.get? o "range" with
    | some (.arr [a, b]) => do
      let span ← t.spanOfUnits? (← a.nat?) (← b.nat?)
      let text ← t.slice? span.start span.stop
      return ⟨kindOf (Document.typeOf o), span, text⟩
    | _ => none
  | _ => none

def tokens (t : Text) (doc : Json) : List Token :=
  let list (name : String) (kindOf : String → TokenKind) :=
    (((doc.get? name).bind Json.arr?).getD []).filterMap (token? t kindOf)
  list "tokens" codeKind ++ list "comments" commentKind

end ScriptLint.Loader
