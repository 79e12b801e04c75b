import ScriptLint.Json.Reader
import ScriptLint.Syntax.Loader
import ScriptLint.Text.Lines

/-! A source file: its text together with its syntax tree and its tokens. -/
namespace ScriptLint

structure Source where
  path : String
  text : Text
  tree : Tree
  tokens : TokenIndex
  deriving Repr

namespace Source

def ofDocument (path : String) (text : Text) (doc : Json) : Except LoadError Source := do
  let (nodes, root) ← Loader.loadProgram text doc
  match Tree.ofNodes nodes root with
  | .error e => .error (.tree e)
  | .ok tree => .ok ⟨path, text, tree, TokenIndex.ofList (Loader.tokens text doc)⟩

def load (path : String) (text document : Text) : Except LoadError Source :=
  match Json.parse? document with
  | none => .error .json
  | some doc => ofDocument path text doc

variable (s : Source)

def textOf (span : Span) : Text := s.text.slice span.start span.stop

def nodeText (id : NodeId) : Text := s.textOf (s.tree.span id)

def tokenBefore? (id : NodeId) (comments : Bool) : Option Token :=
  s.tokens.before? (s.tree.span id).start comments

def tokenAfter? (id : NodeId) (comments : Bool) : Option Token :=
  s.tokens.after? (s.tree.span id).stop comments

def firstToken? (id : NodeId) : Option Token := s.tokens.firstCodeWithin? (s.tree.span id)

def lastToken? (id : NodeId) : Option Token := s.tokens.lastCodeWithin? (s.tree.span id)

def commentsBefore (id : NodeId) : List Token :=
  let start := (s.tree.span id).start
  let first := ((s.tokens.before? start false).map fun t => t.span.stop).getD 0
  s.tokens.commentsBetween first start

def commentsAfter (id : NodeId) : List Token :=
  let stop := (s.tree.span id).stop
  let last := ((s.tokens.after? stop false).map fun t => t.span.start).getD s.text.size
  s.tokens.commentsBetween stop last

def lineOf (offset : Nat) : Nat := s.text.lineOf offset

def columnOf (offset : Nat) : Nat := s.text.columnOf offset

def startsLine (t : Token) : Bool :=
  match s.tokens.before? t.span.start true with
  | some prev => s.lineOf prev.span.stop < s.lineOf t.span.start
  | none => true

end Source

end ScriptLint
