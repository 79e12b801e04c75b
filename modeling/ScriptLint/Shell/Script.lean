import ScriptLint.Text.Blank

/-! Scripts of a small command language: lists of pipelines of simple commands, with quotes,
parameters, command substitution and redirection. -/
namespace ScriptLint.Shell

/-- A part of a word. Parts inside double quotes are not split at blanks. -/
inductive Part where
  | text (t : Text) (quoted : Bool)
  | parameter (name : Text) (quoted : Bool)
  /-- What a script prints. -/
  | output (script : Text) (quoted : Bool)
  deriving DecidableEq, Repr

abbrev Word := List Part

inductive Lexeme where
  | word (w : Word)
  | semicolon
  | pipe
  | and
  | or
  /-- Input from a file. -/
  | input
  /-- Output to a file, replacing or extending it; `descriptor` says which output. -/
  | output (descriptor : Nat)
  /-- Output to where another output goes. -/
  | duplicate (descriptor : Nat)
  deriving DecidableEq, Repr

def isNameChar (c : Char) : Bool := c.isAlphanum || c == '_'

def isOperatorChar (c : Char) : Bool := c == ';' || c == '|' || c == '&' || c == '<' || c == '>'

/-- What stands before the closing parenthesis of a substitution, and the rest. `depth` counts
parentheses that are open, `quote` is the kind of quotes that are open. -/
def takeOutput (depth : Nat) (quote : Option Char) : List Char → Option (Text × List Char)
  | [] => none
  | c :: cs =>
    let keep (p : Text × List Char) : Text × List Char := (c :: p.1, p.2)
    match quote with
    | some q => (takeOutput depth (if c = q then none else some q) cs).map keep
    | none =>
      if c = '\'' || c = '"' then (takeOutput depth (some c) cs).map keep
      else if c = '(' then (takeOutput (depth + 1) none cs).map keep
      else if c = ')' then
        match depth with
        | 0 => some ([], cs)
        | d + 1 => (takeOutput d none cs).map keep
      else (takeOutput depth none cs).map keep

def readDollar (quoted : Bool) : List Char → Option (Part × List Char)
  | '(' :: cs => (takeOutput 0 none cs).map fun p => (.output p.1 quoted, p.2)
  | '\x7b' :: cs =>
    match cs.dropWhile fun c => c != '\x7d' with
    | _ :: rest => some (.parameter (cs.takeWhile fun c => c != '\x7d') quoted, rest)
    | [] => none
  | c :: cs =>
    if c.isDigit || c == '@' || c == '*' || c == '#' || c == '?' then
      some (.parameter [c] quoted, cs)
    else if isNameChar c then
      some (.parameter (c :: cs.takeWhile isNameChar) quoted, cs.dropWhile isNameChar)
    else some (.text ['$'] quoted, c :: cs)
  | [] => some (.text ['$'] quoted, [])

def readWord : Nat → Bool → List Char → Option (Word × List Char)
  | 0, _, _ => none
  | _, true, [] => none
  | _, false, [] => some ([], [])
  | fuel + 1, true, c :: cs =>
    let add (p : Part) (rest : List Char) : Option (Word × List Char) :=
      (readWord fuel true rest).map fun w => (p :: w.1, w.2)
    match c, cs with
    | '"', cs => (readWord fuel false cs).map fun w => (.text [] true :: w.1, w.2)
    | '$', cs => (readDollar true cs).bind fun p => add p.1 p.2
    | '\\', d :: cs =>
      if d = '"' || d = '\\' || d = '$' then add (.text [d] true) cs
      else if d = '\n' then readWord fuel true cs
      else add (.text ['\\', d] true) cs
    | c, cs => add (.text [c] true) cs
  | fuel + 1, false, c :: cs =>
    let add (p : Part) (rest : List Char) : Option (Word × List Char) :=
      (readWord fuel false rest).map fun w => (p :: w.1, w.2)
    match c, cs with
    | '"', cs => (readWord fuel true cs).map fun w => (.text [] true :: w.1, w.2)
    | '\'', cs =>
      match cs.dropWhile fun d => d != '\'' with
      | _ :: rest => add (.text (cs.takeWhile fun d => d != '\'') true) rest
      | [] => none
    | '$', cs => (readDollar false cs).bind fun p => add p.1 p.2
    | '\\', d :: cs => if d = '\n' then readWord fuel false cs else add (.text [d] true) cs
    | c, cs =>
      if isBlank c || isOperatorChar c then some ([], c :: cs)
      else if c = '(' || c = ')' then none
      else add (.text [c] false) cs

def readLexemes : Nat → List Char → Option (List Lexeme)
  | 0, _ => none
  | _, [] => some []
  | fuel + 1, c :: cs =>
    let add (l : Lexeme) (rest : List Char) : Option (List Lexeme) :=
      (readLexemes fuel rest).map (l :: ·)
    match c, cs with
    | '\n', cs => add .semicolon cs
    | ';', cs => add .semicolon cs
    | '&', '&' :: cs => add .and cs
    | '|', '|' :: cs => add .or cs
    | '|', cs => add .pipe cs
    | '<', cs => add .input cs
    | '>', '&' :: cs => add (.duplicate 1) cs
    | '>', '>' :: cs => add (.output 1) cs
    | '>', cs => add (.output 1) cs
    | '2', '>' :: '&' :: cs => add (.duplicate 2) cs
    | '2', '>' :: cs => add (.output 2) cs
    | '&', _ => none
    | '#', cs => readLexemes fuel (cs.dropWhile fun d => d != '\n')
    | c, cs =>
      if isBlank c then readLexemes fuel cs
      else (readWord (2 * cs.length + 3) false (c :: cs)).bind fun p =>
        add (.word p.1) p.2

inductive Redirect where
  | input (file : Word)
  | output (descriptor : Nat) (file : Word)
  | duplicate (descriptor : Nat) (target : Word)
  deriving DecidableEq, Repr

structure Command where
  words : List Word
  redirects : List Redirect
  deriving DecidableEq, Repr

inductive Condition where
  | always
  | afterSuccess
  | afterFailure
  deriving DecidableEq, Repr

structure Pipeline where
  condition : Condition
  commands : List Command
  deriving DecidableEq, Repr

abbrev Script := List Pipeline

def readCommand : List Lexeme → Option (Command × List Lexeme)
  | .word w :: ls => (readCommand ls).map fun p => ({ p.1 with words := w :: p.1.words }, p.2)
  | .input :: .word w :: ls => redirect (.input w) ls
  | .output n :: .word w :: ls => redirect (.output n w) ls
  | .duplicate n :: .word w :: ls => redirect (.duplicate n w) ls
  | .input :: _ | .output _ :: _ | .duplicate _ :: _ => none
  | ls => some (⟨[], []⟩, ls)
where
  redirect (r : Redirect) (ls : List Lexeme) : Option (Command × List Lexeme) :=
    (readCommand ls).map fun p => ({ p.1 with redirects := r :: p.1.redirects }, p.2)

def readPipelines : Nat → Condition → List Command → List Lexeme → Option Script
  | 0, _, _, _ => none
  | fuel + 1, condition, done, ls => do
    let (command, ls) ← readCommand ls
    let isEmpty := command.words.isEmpty && command.redirects.isEmpty
    let commands := if isEmpty then done else done ++ [command]
    match ls with
    | .pipe :: ls => if isEmpty then none else readPipelines fuel condition commands ls
    | .semicolon :: ls => (readPipelines fuel .always [] ls).map (⟨condition, commands⟩ :: ·)
    | .and :: ls =>
      if isEmpty then none
      else (readPipelines fuel .afterSuccess [] ls).map (⟨condition, commands⟩ :: ·)
    | .or :: ls =>
      if isEmpty then none
      else (readPipelines fuel .afterFailure [] ls).map (⟨condition, commands⟩ :: ·)
    | _ => some [⟨condition, commands⟩]

def Script.parse? (text : Text) : Option Script := do
  let lexemes ← readLexemes (text.length + 1) text
  readPipelines (lexemes.length + 1) .always [] lexemes

end ScriptLint.Shell
