import ScriptLint.Text.Blank

/-! Lines of a text. A line ends with a line feed, or with a carriage return and a line feed;
lines and columns count from one, columns in characters. -/
namespace ScriptLint.Text

def startsAfterFeeds (base : Nat) : Text → List Nat
  | [] => []
  | c :: t =>
    if c = '\n' then (base + 1) :: startsAfterFeeds (base + 1) t
    else startsAfterFeeds (base + c.utf8Size) t

def lineStarts (t : Text) : List Nat := 0 :: startsAfterFeeds 0 t

def lineCount (t : Text) : Nat := t.lineStarts.length

/-- The line that holds an offset; an offset past the end is on the last line. -/
def lineOf (t : Text) (offset : Nat) : Nat := t.lineStarts.countP fun start => start ≤ offset

def lineStart? (t : Text) : Nat → Option Nat
  | 0 => none
  | line + 1 => t.lineStarts[line]?

/-- Offset of the line's terminator, or the end of the text. -/
def lineEnd? (t : Text) (line : Nat) : Option Nat :=
  (t.lineStart? line).map fun start =>
    let stop := match t.lineStarts[line]? with
      | some next => next - 1
      | none => t.size
    if (t.slice start stop).getLast? = some '\r' then stop - 1 else stop

def line (t : Text) (n : Nat) : Text :=
  match t.lineStart? n, t.lineEnd? n with
  | some start, some stop => t.slice start stop
  | _, _ => []

def columnOf (t : Text) (offset : Nat) : Nat :=
  let start := (t.lineStart? (t.lineOf offset)).getD 0
  (t.slice start offset).length + 1

def indentOf (t : Text) (n : Nat) : Text := (t.line n).takeWhile fun c => c = ' ' || c = '\t'

def isBlankLine (t : Text) (n : Nat) : Bool := (t.line n).all isBlank

/-- Whether a blank line lies strictly between the lines of two positions. -/
def hasBlankLineBetween (t : Text) (first last : Nat) : Bool :=
  let from_ := t.lineOf first + 1
  (List.range' from_ (t.lineOf last - from_)).any t.isBlankLine

def newline (t : Text) : Text := if t.contains ['\r', '\n'] then ['\r', '\n'] else ['\n']

end ScriptLint.Text
