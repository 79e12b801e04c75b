import ScriptLint.Text.Span
import ScriptLint.Text.Basic
import ScriptLint.PartitionPoint

/-! Tokens of a source file, comments included, and navigation between them. -/
namespace ScriptLint

inductive TokenKind where
  | identifier
  | keyword
  | punctuator
  | string
  | numeric
  | template
  | regularExpression
  | boolean
  | null
  | privateIdentifier
  | jsxText
  | other
  | lineComment
  | blockComment
  | hashbang
  deriving DecidableEq, Repr

structure Token where
  kind : TokenKind
  span : Span
  /-- The token as it stands in the source, delimiters included. -/
  text : Text
  deriving DecidableEq, Repr

namespace Token

def isComment (t : Token) : Bool :=
  t.kind == .lineComment || t.kind == .blockComment || t.kind == .hashbang

def isPunctuator (t : Token) (value : String) : Bool :=
  t.kind == .punctuator && t.text == value.toList

def commentBody? (t : Token) : Option Text :=
  match t.kind with
  | .lineComment => t.text.dropPrefix? ['/', '/']
  | .blockComment => (t.text.dropPrefix? ['/', '*']).bind fun u => Text.dropSuffix? u ['*', '/']
  | .hashbang => t.text.dropPrefix? ['#', '!']
  | _ => none

def le (a b : Token) : Bool :=
  a.span.start < b.span.start || (a.span.start == b.span.start && a.span.stop ≤ b.span.stop)

end Token

/-- Tokens in source order, once with and once without the comments. -/
structure TokenIndex where
  all : Array Token
  code : Array Token
  deriving Repr

namespace TokenIndex

def ofList (tokens : List Token) : TokenIndex :=
  let sorted := tokens.mergeSort Token.le
  ⟨sorted.toArray, (sorted.filter fun t => !t.isComment).toArray⟩

def select (ix : TokenIndex) (comments : Bool) : Array Token := if comments then ix.all else ix.code

def countWhile (ts : Array Token) (p : Token → Bool) : Nat :=
  partitionPoint (fun i => ts[i]?.any p) ts.size

def before? (ix : TokenIndex) (offset : Nat) (comments : Bool) : Option Token :=
  let ts := ix.select comments
  match countWhile ts fun t => t.span.stop ≤ offset with
  | 0 => none
  | n + 1 => ts[n]?

def after? (ix : TokenIndex) (offset : Nat) (comments : Bool) : Option Token :=
  let ts := ix.select comments
  ts[countWhile ts fun t => t.span.start < offset]?

def within (ix : TokenIndex) (span : Span) : List Token :=
  let first := countWhile ix.all fun t => t.span.start < span.start
  let last := countWhile ix.all fun t => t.span.stop ≤ span.stop
  (ix.all.toList.take last).drop first

/-- Comments between two offsets; none if these are in the wrong order. -/
def commentsBetween (ix : TokenIndex) (start stop : Nat) : List Token :=
  if stop < start then [] else (ix.within ⟨start, stop⟩).filter Token.isComment

def firstCodeWithin? (ix : TokenIndex) (span : Span) : Option Token :=
  (ix.after? span.start false).filter fun t => t.span.stop ≤ span.stop

def lastCodeWithin? (ix : TokenIndex) (span : Span) : Option Token :=
  (ix.before? span.stop false).filter fun t => span.start ≤ t.span.start

end TokenIndex

end ScriptLint
