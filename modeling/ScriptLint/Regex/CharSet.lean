import ScriptLint.Text.Blank
import ScriptLint.Unicode.Fold
import ScriptLint.Unicode.Property

/-! Sets of characters that regular expressions have names for. -/
namespace ScriptLint.Regex

abbrev CharSet := Unicode.CodeSet

namespace CharSet

def ofPairs (rs : List (Char × Char)) : CharSet :=
  .ofRanges (rs.map fun r => (r.1.toNat, r.2.toNat))

def digits : CharSet := Unicode.category "Nd"

def blanks : CharSet := Unicode.stored "whitespace"

/-- Letters, marks, decimal digits, connectors, and the two joiners. -/
def wordChars : CharSet :=
  .unionAll [Unicode.alphabetic, Unicode.marks, Unicode.categories ["Nd", "Pc"],
    Unicode.stored "joincontrol"]

def asciiDigits : CharSet := ofPairs [('0', '9')]

def asciiBlanks : CharSet := ofPairs [('\t', '\r'), (' ', ' ')]

def asciiWordChars : CharSet := ofPairs [('0', '9'), ('A', 'Z'), ('_', '_'), ('a', 'z')]

def posix? : String → Option CharSet
  | "alnum" => some (ofPairs [('0', '9'), ('A', 'Z'), ('a', 'z')])
  | "alpha" => some (ofPairs [('A', 'Z'), ('a', 'z')])
  | "ascii" => some (ofPairs [('\x00', '\x7F')])
  | "blank" => some (ofPairs [('\t', '\t'), (' ', ' ')])
  | "cntrl" => some (ofPairs [('\x00', '\x1F'), ('\x7F', '\x7F')])
  | "digit" => some asciiDigits
  | "graph" => some (ofPairs [('!', '~')])
  | "lower" => some (ofPairs [('a', 'z')])
  | "print" => some (ofPairs [(' ', '~')])
  | "punct" => some (ofPairs [('!', '/'), (':', '@'), ('[', '`'), ('\x7b', '~')])
  | "space" => some asciiBlanks
  | "upper" => some (ofPairs [('A', 'Z')])
  | "word" => some asciiWordChars
  | "xdigit" => some (ofPairs [('0', '9'), ('A', 'F'), ('a', 'f')])
  | _ => none

def asciiCase : List Unicode.Shift := [⟨⟨65, 90, 1⟩, 32⟩, ⟨⟨97, 122, 1⟩, -32⟩]

def foldAscii (s : CharSet) : CharSet :=
  s.grow fun r => asciiCase.flatMap fun shift => shift.image r

end CharSet

def isWordChar (c : Char) : Bool := CharSet.wordChars.has c

def isDigitChar (c : Char) : Bool := CharSet.digits.has c

end ScriptLint.Regex
