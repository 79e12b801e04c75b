import ScriptLint.Edit
import ScriptLint.Syntax.Source

/-! Edits that put blank lines between two places of a file, or remove them there. -/
namespace ScriptLint.Source

/-- Makes sure that a blank line lies between two places; `none` if one does. If both are on one
line, what lies between them is replaced, and the new line keeps the indentation of the old one. -/
def ensureBlankLine? (s : Source) (first next : Nat) : Option Edit :=
  if s.text.hasBlankLineBetween first next then none
  else
    let newline := s.text.newline
    if s.lineOf first = s.lineOf next then
      let indent := s.text.indentOf (s.lineOf first)
      some ⟨⟨first, next⟩, String.ofList (newline ++ newline ++ indent)⟩
    else
      (s.text.lineStart? (s.lineOf next)).map fun start => .insert start (String.ofList newline)

/-- Removes the blank lines between two places, unless there is a comment between them. -/
def collapseBlankLines? (s : Source) (first next : Nat) : Option Edit :=
  if s.text.hasBlankLineBetween first next && (s.tokens.commentsBetween first next).isEmpty then
    match s.text.lineEnd? (s.lineOf first), s.text.lineStart? (s.lineOf next) with
    | some start, some stop =>
      if start < stop then some ⟨⟨start, stop⟩, String.ofList s.text.newline⟩ else none
    | _, _ => none
  else none

end ScriptLint.Source
