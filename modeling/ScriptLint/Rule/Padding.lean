import ScriptLint.Refactor.BlankLine
import ScriptLint.Rule.Basic

/-! Blank lines between statements, inside blocks, and along chains of calls. -/
namespace ScriptLint

def lineFix? (edit : Option Edit) (description : String) : Option Fix :=
  edit.map fun e => .safe (.single e) description

namespace Source

/-- Whether a node spreads over several lines, or holds a comment. -/
def isMultiline (s : Source) (id : NodeId) : Bool :=
  let span := s.tree.span id
  s.lineOf span.start != s.lineOf span.stop || (s.tokens.within span).any Token.isComment

end Source

namespace Tree

/-- What the last link of a chain is applied to, and whether the link is a call. -/
def chainLink? (t : Tree) (id : NodeId) : Option (NodeId × Bool) :=
  match t.kind id with
  | .awaitExpression inner | .chainExpression inner | .memberExpression inner .. =>
    some (inner, false)
  | .callExpression callee .. => some (callee, true)
  | _ => none

def callsFrom (t : Tree) : Nat → NodeId → Nat
  | 0, _ => 0
  | fuel + 1, id =>
    match t.chainLink? id with
    | some (inner, isCall) => (if isCall then 1 else 0) + callsFrom t fuel inner
    | none => 0

def calls (t : Tree) (id : NodeId) : Nat := t.callsFrom (t.size + 1) id

end Tree

/-! Multi-line statements are set apart by blank lines. -/
namespace PaddingAroundMultiline

def isMultilineChain (s : Source) (id : NodeId) : Bool :=
  2 ≤ s.tree.calls id && s.isMultiline id

/-- Whether a statement, or what it exports, is a block or a chain of several lines. -/
def needsPadding (s : Source) (id : NodeId) : Bool :=
  let t := s.tree
  let statement := match t.kind id with
    | .exportNamedDeclaration (some declaration) _ _ => declaration
    | .exportDefaultDeclaration declaration => declaration
    | _ => id
  match t.kind statement with
  | .ifStatement .. | .forStatement .. | .forInStatement .. | .forOfStatement ..
  | .whileStatement .. | .doWhileStatement .. | .tryStatement .. | .switchStatement ..
  | .blockStatement .. | .functionDeclaration .. | .classDeclaration .. => s.isMultiline statement
  | .expressionStatement expression _ => isMultilineChain s expression
  | .variableDeclaration _ declarations =>
    declarations.any fun d =>
      match t.kind d with
      | .variableDeclarator _ (some init) => isMultilineChain s init
      | _ => false
  | _ => false

/-- The gap between two statements. A comment behind the first one stays there, other comments stay
with the second one. -/
def gap (s : Source) (first next : Nat) : Nat × Nat :=
  let comments := s.tokens.commentsBetween first next
  let isTrailing (c : Token) : Bool := s.lineOf c.span.start == s.lineOf first
  let start := ((comments.takeWhile isTrailing).getLast?.map fun c => c.span.stop).getD first
  let stop := ((comments.dropWhile isTrailing).head?.map fun c => c.span.start).getD next
  (start, stop)

def checkPair (s : Source) (previous next : NodeId) : Option Finding :=
  let first := (s.tree.span previous).stop
  let last := (s.tree.span next).start
  if !(needsPadding s previous || needsPadding s next) || s.text.hasBlankLineBetween first last then
    none
  else
    let (start, stop) := gap s first last
    some ⟨s.tree.span next,
      "Expected a blank line between a multi-line statement and its neighbour.",
      lineFix? (s.ensureBlankLine? start stop) "Insert a blank line."⟩

def checkPairs (s : Source) : List NodeId → List Finding
  | a :: b :: rest => (checkPair s a b).toList ++ checkPairs s (b :: rest)
  | _ => []

def check (_ : Unit) (_ : FileSystem) (f : SourceFile) : List Finding :=
  f.tree.preorder.flatMap fun id =>
    match (f.tree.kind id).statements? with
    | some statements => checkPairs f.toSource statements
    | none => []

def rule : Rule :=
  .of ⟨"JS-STYLE-SPACE-001", "padding-around-multiline",
      "Multi-line blocks and call chains are surrounded by blank lines.", true⟩
    (Schema.object []) () noOptions? check

end PaddingAroundMultiline

/-! Blocks neither start nor end with a blank line, except after parameters on several lines. -/
namespace BlockPadding

def hasMultilineParams (s : Source) (body : NodeId) : Bool :=
  match s.tree.parent? body with
  | none => false
  | some function =>
    if ((s.tree.kind function).fn?).any fun fn => fn.body == body then
      let head := s.tokens.within ⟨(s.tree.span function).start, (s.tree.span body).start⟩
      match head.find? fun t => t.isPunctuator "(",
          head.reverse.find? fun t => t.isPunctuator ")" with
      | some opening, some closing => s.lineOf opening.span.start != s.lineOf closing.span.start
      | _, _ => false
    else false

def keepOneLine? (s : Source) (opening first : Token) : Option Edit :=
  let openLine := s.lineOf opening.span.stop
  let firstLine := s.lineOf first.span.start
  if firstLine ≤ openLine + 1 then s.ensureBlankLine? opening.span.stop first.span.start
  else match s.text.lineEnd? openLine, s.text.lineStart? firstLine with
    | some start, some stop =>
      some ⟨⟨start, stop⟩, String.ofList (s.text.newline ++ s.text.newline)⟩
    | _, _ => none

def checkStart (s : Source) (id : NodeId) (opening first : Token) : Option Finding :=
  let span : Span := ⟨opening.span.start, first.span.start⟩
  if hasMultilineParams s id then
    if s.lineOf first.span.start - (s.lineOf opening.span.stop + 1) = 1 then none
    else
      some ⟨span, "Expected exactly one blank line after a multi-line parameter list.",
        lineFix? (keepOneLine? s opening first) "Keep one blank line."⟩
  else if s.text.hasBlankLineBetween opening.span.stop first.span.start then
    some ⟨span, "Block must not start with a blank line.",
      lineFix? (s.collapseBlankLines? opening.span.stop first.span.start) "Remove the blank line."⟩
  else none

def checkEnd (s : Source) (last closing : Token) : Option Finding :=
  if s.text.hasBlankLineBetween last.span.stop closing.span.start then
    some ⟨⟨last.span.stop, closing.span.stop⟩, "Block must not end with a blank line.",
      lineFix? (s.collapseBlankLines? last.span.stop closing.span.start) "Remove the blank line."⟩
  else none

def isBlock : NodeKind NodeId → Bool
  | .blockStatement _ | .classBody _ | .staticBlock _ => true
  | _ => false

def checkBlock (s : Source) (id : NodeId) : List Finding :=
  let opening := (s.tokens.within (s.tree.span id)).find? fun t => t.isPunctuator "\x7b"
  let closing := (s.lastToken? id).filter fun t => t.isPunctuator "\x7d"
  match opening, closing with
  | some opening, some closing =>
    match s.tokens.after? opening.span.stop true, s.tokens.before? closing.span.start true with
    | some first, some last =>
      if closing.span.start ≤ first.span.start then []
      else (checkStart s id opening first).toList ++ (checkEnd s last closing).toList
    | _, _ => []
  | _, _ => []

def check (_ : Unit) (_ : FileSystem) (f : SourceFile) : List Finding :=
  (f.tree.preorder.filter fun id => isBlock (f.tree.kind id)).flatMap (checkBlock f.toSource)

def rule : Rule :=
  .of ⟨"JS-STYLE-SPACE-002", "block-padding", "Blocks do not start or end with blank lines.", true⟩
    (Schema.object []) () noOptions? check

end BlockPadding

/-! There are no blank lines between the links of a chain. -/
namespace NoBlankLinesInChain

def checkMember (s : Source) (member : NodeId) : Option Finding := do
  let dot ← (s.tokens.before? (s.tree.span member).start false).filter fun t =>
    t.isPunctuator "." || t.isPunctuator "?."
  let previous ← s.tokens.before? dot.span.start false
  if s.text.hasBlankLineBetween previous.span.stop dot.span.start then
    return ⟨dot.span, "Unexpected blank line in a call chain.",
      lineFix? (s.collapseBlankLines? previous.span.stop dot.span.start) "Remove the blank line."⟩
  else none

def check (_ : Unit) (_ : FileSystem) (f : SourceFile) : List Finding :=
  f.tree.preorder.filterMap fun id =>
    match f.tree.kind id with
    | .memberExpression _ member false _ => checkMember f.toSource member
    | _ => none

def rule : Rule :=
  .of ⟨"JS-STYLE-SPACE-003", "no-blank-lines-in-chain",
      "Call chains have no blank lines between their links.", true⟩
    (Schema.object []) () noOptions? check

end NoBlankLinesInChain

end ScriptLint
