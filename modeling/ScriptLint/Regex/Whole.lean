import ScriptLint.Regex.Parser

/-! Patterns that have to match a whole text, and templates that are filled from a match. -/
namespace ScriptLint

structure WholePattern where
  regex : Regex
  deriving Repr

namespace WholePattern

def parse? (pattern : String) : Option WholePattern :=
  (Regex.parse? ("^(?:" ++ pattern ++ ")$").toList).map WholePattern.mk

def match? (p : WholePattern) (text : Text) : Option Match := p.regex.find? text

end WholePattern

namespace Match

def numbered (m : Match) (digits : Text) : Text :=
  if digits.all Char.isDigit then m.group (digits.foldl (fun n c => n * 10 + (c.toNat - 48)) 0)
  else []

/-- Puts the groups of a match where a dollar sign in the template names their number. -/
def substitute (m : Match) : Text → Text
  | [] => []
  | c :: t =>
    if c = '$' && t.head?.any Regex.isDigitChar then
      m.numbered (t.takeWhile Regex.isDigitChar) ++ substitute m (t.dropWhile Regex.isDigitChar)
    else c :: substitute m t
termination_by t => t.length
decreasing_by
  · have := (List.dropWhile_sublist (l := t) Regex.isDigitChar).length_le
    simp only [List.length_cons]; omega
  · simp

end Match

end ScriptLint
