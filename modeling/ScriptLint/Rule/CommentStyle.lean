import ScriptLint.Casing
import ScriptLint.Rule.Basic

/-! Line comments begin with a capital, mark notes in one way, and introduce links. -/
namespace ScriptLint.CommentStyle

def directivePattern : Regex :=
  .known "^(?:eslint|globals?\\b|@ts-|istanbul\\b|prettier-ignore|falls? ?through\\b)"

def formalNotePattern : Regex := .known "^(?:TODO|HACK): \\S"

def informalNotePattern : Regex :=
  .known "^(?i:(todo|fixme|hack|xxx))\\b[\\s:!.\\-]*(.*)$"

def notePattern : Regex := .known "^(?i:note):\\s*(.*)$"

def linkPattern : Regex := .known "^[a-z][a-z0-9+.\\-]*://\\S+"

structure Verdict where
  message : String
  replacement : Option Text
  deriving DecidableEq, Repr

/-- Whether a comment goes on with the line comment above it: both stand alone on their lines, in
the same column. -/
def isContinuation (s : Source) (comment : Token) : Bool :=
  s.startsLine comment &&
    match s.tokens.before? comment.span.start true with
    | some previous =>
      previous.kind == .lineComment && s.startsLine previous &&
        s.lineOf previous.span.start + 1 == s.lineOf comment.span.start &&
        s.columnOf previous.span.start == s.columnOf comment.span.start
    | none => false

def ifNotEmpty (t : Text) : Option Text := if t.isEmpty then none else some t

def noteTag (word : Text) : Text :=
  let word := word.map Char.toLower
  if word = "todo".toList || word = "fixme".toList then "TODO".toList else "HACK".toList

def informalNote? (content : Text) : Option Verdict :=
  (informalNotePattern.find? content).map fun m =>
    let tag := noteTag (m.group 1)
    ⟨s!"Write this note as \"{String.ofList tag}: ...\".",
      (ifNotEmpty (m.group 2).trim).map fun rest => tag ++ ": ".toList ++ rest⟩

def beginning? (content : Text) : Option Verdict :=
  match notePattern.find? content with
  | some m =>
    some ⟨"Drop the \"Note:\" prefix.", (ifNotEmpty (m.group 1).trim).map capitalize⟩
  | none =>
    if linkPattern.isMatch content then
      some ⟨"Introduce a leading link with \"See\".", some ("See ".toList ++ content)⟩
    else if content.head?.any Unicode.isLowercase && 2 ≤ content.words.length then
      some ⟨"Start the comment with a capital letter.", some (capitalize content)⟩
    else none

def verdict? (s : Source) (comment : Token) : Option Verdict := do
  let body ← comment.commentBody?
  let content := body.trim
  if body.head? == some '/' || content.isEmpty then none
  else if directivePattern.isMatch content || formalNotePattern.isMatch content then none
  else match informalNote? content with
    | some v => return v
    | none => if isContinuation s comment then none else beginning? content

def leadingSpace (comment : Token) : Text :=
  let blanks := (comment.commentBody?.getD []).takeWhile isBlank
  if blanks.isEmpty then [' '] else blanks

def checkComment (s : Source) (comment : Token) : Option Finding := do
  let v ← verdict? s comment
  return ⟨comment.span, v.message, v.replacement.map fun content =>
    .safe (.single ⟨comment.span,
      String.ofList ('/' :: '/' :: leadingSpace comment ++ content)⟩) "Rewrite the comment."⟩

def check (_ : Unit) (_ : FileSystem) (f : SourceFile) : List Finding :=
  (f.tokens.all.toList.filter fun t => t.kind == .lineComment).filterMap (checkComment f.toSource)

def rule : Rule :=
  .of ⟨"JS-STYLE-COMMENT-001", "comment-style",
      "Line comments follow the note, link, and capitalization conventions.", true⟩
    (Schema.object []) () noOptions? check

end ScriptLint.CommentStyle
