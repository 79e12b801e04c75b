import ScriptLint.Regex.Pattern

/-! Flags that change how the rest of a group is read. -/
namespace ScriptLint.Regex

inductive Flag where
  | caseless
  | multiline
  | dotAll
  | lazy
  | unicode
  | returns
  | blanks
  deriving DecidableEq, Repr

def Flag.ofChar? : Char → Option Flag
  | 'i' => some caseless
  | 'm' => some multiline
  | 's' => some dotAll
  | 'U' => some lazy
  | 'u' => some unicode
  | 'R' => some returns
  | 'x' => some blanks
  | _ => none

abbrev Flags := List Flag

namespace Flags

def default : Flags := [.unicode]

def has (f : Flags) (x : Flag) : Bool := f.contains x

def put (f : Flags) (x : Flag) (on : Bool) : Flags :=
  if on then x :: f else f.filter fun y => y != x

def fold (f : Flags) (set : CharSet) : CharSet :=
  if !f.has .caseless then set else if f.has .unicode then set.foldCase else set.foldAscii

/-- All but the characters of a set, if `negated`. Where bytes count, these are not all characters,
so that the pattern is refused. -/
def negate? (f : Flags) (negated : Bool) (set : CharSet) : Option CharSet :=
  if !negated then some set else if f.has .unicode then some set.compl else none

def digits (f : Flags) : CharSet := if f.has .unicode then .digits else .asciiDigits

def blankChars (f : Flags) : CharSet := if f.has .unicode then .blanks else .asciiBlanks

def wordChars (f : Flags) : CharSet := if f.has .unicode then .wordChars else .asciiWordChars

def dot? (f : Flags) : Option CharSet :=
  if f.has .dotAll then f.negate? true .empty
  else if f.has .returns then f.negate? true (.ofPairs [('\r', '\r'), ('\n', '\n')])
  else f.negate? true (.single '\n')

def start (f : Flags) : Look :=
  if !f.has .multiline then .textStart else if f.has .returns then .returnStart else .lineStart

def stop (f : Flags) : Look :=
  if !f.has .multiline then .textEnd else if f.has .returns then .returnEnd else .lineEnd

def skip (f : Flags) (s : List Char) : List Char :=
  if f.has .blanks then skipBlanks false s else s
where
  skipBlanks (inComment : Bool) : List Char → List Char
    | [] => []
    | c :: s =>
      if inComment then skipBlanks (c != '\n') s
      else if isBlank c then skipBlanks false s
      else if c = '#' then skipBlanks true s
      else c :: s

end Flags

/-- Reads flags up to the character that ends them, which is not passed over. A flag stands at most
once, and after a dash flags are taken away. -/
def readFlags (seen : List Flag) (minus : Bool) (f : Flags) : List Char → Option (Flags × List Char)
  | [] => none
  | c :: s =>
    if c = ':' || c = ')' then some (f, c :: s)
    else if c = '-' then
      if minus || s.head? == some ':' || s.head? == some ')' then none
      else readFlags seen true f s
    else match Flag.ofChar? c with
      | none => none
      | some x =>
        if seen.contains x then none else readFlags (x :: seen) minus (f.put x (!minus)) s

end ScriptLint.Regex
