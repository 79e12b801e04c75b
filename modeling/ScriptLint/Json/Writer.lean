import ScriptLint.Json.Basic
import ScriptLint.Decimal.Shortest

/-! Writes JSON texts, in one line or indented by two blanks. -/
namespace ScriptLint.Json

def hexDigit (n : Nat) : Char := Char.ofNat (if n < 10 then 48 + n else 87 + n)

/-- Control characters, and the line separators outside ASCII, are written by their code. -/
def escapeChar (c : Char) : List Char :=
  match c with
  | '"' => ['\\', '"']
  | '\\' => ['\\', '\\']
  | '\x08' => ['\\', 'b']
  | '\x0c' => ['\\', 'f']
  | '\n' => ['\\', 'n']
  | '\r' => ['\\', 'r']
  | '\t' => ['\\', 't']
  | c =>
    let n := c.toNat
    if n < 0x20 || n = 0x85 || n = 0x2028 || n = 0x2029 then
      '\\' :: 'u' :: [n / 4096, n / 256 % 16, n / 16 % 16, n % 16].map hexDigit
    else [c]

def quote (s : String) : String := String.ofList ('"' :: s.toList.flatMap escapeChar ++ ['"'])

def Number.render : Number → String
  | int n => toString n
  | float bits => Decimal.render bits

inductive Piece where
  | text (s : String)
  | value (indent : Nat) (v : Json)

structure Layout where
  /-- What follows an opening bracket and each comma, at a depth. -/
  newline : Nat → String
  afterColon : String

def Layout.compact : Layout := ⟨fun _ => "", ""⟩

def Layout.pretty : Layout := ⟨fun n => "\n" ++ String.ofList (List.replicate (2 * n) ' '), " "⟩

def bracketed (l : Layout) (depth : Nat) (opening closing : String) (items : List (List Piece)) :
    List Piece :=
  match items with
  | [] => [.text (opening ++ closing)]
  | item :: items =>
    .text (opening ++ l.newline (depth + 1)) :: item
      ++ items.flatMap (fun i => .text ("," ++ l.newline (depth + 1)) :: i)
      ++ [.text (l.newline depth ++ closing)]

def expand (l : Layout) (depth : Nat) : Json → List Piece
  | null => [.text "null"]
  | bool b => [.text (if b then "true" else "false")]
  | num n => [.text n.render]
  | str s => [.text (quote s)]
  | arr items => bracketed l depth "[" "]" (items.map fun v => [.value (depth + 1) v])
  | obj fields =>
    bracketed l depth "\x7b" "\x7d" (fields.map fun f =>
      [.text (quote f.1 ++ ":" ++ l.afterColon), .value (depth + 1) f.2])

/-- Writes pieces from the first to the last. `fuel` bounds the number of pieces. -/
def write (l : Layout) : Nat → List Piece → String → String
  | 0, _, out => out
  | _, [], out => out
  | fuel + 1, .text s :: ps, out => write l fuel ps (out ++ s)
  | fuel + 1, .value depth v :: ps, out => write l fuel (expand l depth v ++ ps) out

/-- Each value is written in at most five steps. -/
def renderWith (l : Layout) (v : Json) : String := write l (5 * v.count + 1) [.value 0 v] ""

def compress (v : Json) : String := renderWith .compact v

def pretty (v : Json) : String := renderWith .pretty v

end ScriptLint.Json
