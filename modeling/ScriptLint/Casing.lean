import ScriptLint.Regex.Parser

/-! Words of a name, and the ways to write a name from its words. Acronyms keep their capitals. -/
namespace ScriptLint

inductive Case where
  | camel
  | pascal
  | snake
  | upper
  deriving DecidableEq, Repr

def Case.name : Case → String
  | camel => "camel"
  | pascal => "pascal"
  | snake => "snake"
  | upper => "upper"

def Case.all : List Case := [.camel, .pascal, .snake, .upper]

def upperText (t : Text) : Text := t.flatMap Unicode.toUpper

def lowerText (t : Text) : Text := t.flatMap Unicode.toLower

def capitalize : Text → Text
  | [] => []
  | c :: t => Unicode.toUpper c ++ t

def isWordSeparator (c : Char) : Bool := c == '-' || c == '_' || c == '.' || isBlank c

/-- Whether a new word begins with `c`: at a capital after a small letter, at the last of several
capitals if a small letter follows, and between a letter and a digit. -/
def startsWord (previous c : Char) (next : Option Char) : Bool :=
  (Unicode.isLowercase previous && Unicode.isUppercase c) ||
    (Unicode.isUppercase previous && Unicode.isUppercase c && next.any Unicode.isLowercase) ||
    (Unicode.isAlphabetic previous && c.isDigit) ||
    (previous.isDigit && Unicode.isAlphabetic c)

/-- Cuts a text without separators into words; the first one goes on with what came before. -/
def cutWords (previous : Option Char) : Text → List Text
  | [] => [[]]
  | c :: t =>
    match cutWords (some c) t with
    | [] => [[c]]
    | w :: ws =>
      if previous.any fun p => startsWord p c t.head? then [] :: (c :: w) :: ws
      else (c :: w) :: ws

def splitWords (t : Text) : List Text :=
  (((Text.splitWhere isWordSeparator t).flatMap (cutWords none)).filter fun w => !w.isEmpty).map
    lowerText

/-- How names are written; acronyms are the words that match one of some patterns. -/
structure Casing where
  acronyms : Option Regex
  deriving Repr

namespace Casing

/-- Acronyms given by patterns, without regard to case; `none` if one is no pattern. -/
def ofPatterns? (patterns : List String) : Option Casing :=
  if patterns.isEmpty then some ⟨none⟩
  else
    let alternatives := "|".intercalate (patterns.map fun p => "(" ++ p ++ ")")
    (Regex.parse? ("^(?i:" ++ alternatives ++ ")$").toList).map fun r => ⟨some r⟩

def defaultAcronyms : List String :=
  ["api", "url", "sdk", "id", "ui", "io", "db", "css", "html", "http", "https", "json", "xml",
    "sql", "uri", "uuid", "jwt"]

def default : Casing := (ofPatterns? defaultAcronyms).getD ⟨none⟩

def isAcronym (c : Casing) (word : Text) : Bool := c.acronyms.any fun r => r.isMatch word

def hump (c : Casing) (word : Text) : Text :=
  if c.isAcronym word then upperText word else capitalize word

def convert (c : Casing) (input : Text) (case : Case) : Text :=
  let words := splitWords input
  match case with
  | .camel =>
    match words with
    | [] => []
    | first :: rest => first ++ rest.flatMap c.hump
  | .pascal => words.flatMap c.hump
  | .snake => List.intercalate ['_'] (words.map upperText)
  | .upper => words.flatMap upperText

def isWritten (c : Casing) (name : Text) (case : Case) : Bool := c.convert name case == name

end Casing

end ScriptLint
