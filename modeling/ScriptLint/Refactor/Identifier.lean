/-! Words that may name a variable. -/
namespace ScriptLint

def reservedWords : List String :=
  ["await", "break", "case", "catch", "class", "const", "continue", "debugger", "default",
    "delete", "do", "else", "enum", "export", "extends", "false", "finally", "for", "function",
    "if", "implements", "import", "in", "instanceof", "interface", "let", "new", "null",
    "package", "private", "protected", "public", "return", "static", "super", "switch", "this",
    "throw", "true", "try", "typeof", "var", "void", "while", "with", "yield"]

def isNameStart (c : Char) : Bool := c.isAlpha || c == '_' || c == '$'

def isNamePart (c : Char) : Bool := c.isAlphanum || c == '_' || c == '$'

/-- ASCII identifiers that are no reserved words. -/
def isValidIdentifier (name : String) : Bool :=
  (match name.toList with
    | [] => false
    | c :: cs => isNameStart c && cs.all isNamePart) && !reservedWords.contains name

end ScriptLint
