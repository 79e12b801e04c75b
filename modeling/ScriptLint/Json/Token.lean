import ScriptLint.Json.Basic

/-! Tokens of a JSON text. -/
namespace ScriptLint.Json

inductive Token where
  | openBrace
  | closeBrace
  | openBracket
  | closeBracket
  | comma
  | colon
  | value (v : Json)
  deriving Repr

namespace Token

def isDigit (c : Char) : Bool := '0' ≤ c && c ≤ '9'

def hexValue? (c : Char) : Option Nat :=
  if '0' ≤ c && c ≤ '9' then some (c.toNat - 48)
  else if 'a' ≤ c && c ≤ 'f' then some (c.toNat - 87)
  else if 'A' ≤ c && c ≤ 'F' then some (c.toNat - 55)
  else none

def hex4? : List Char → Option (Nat × List Char)
  | a :: b :: c :: d :: rest => do
    let a ← hexValue? a
    let b ← hexValue? b
    let c ← hexValue? c
    let d ← hexValue? d
    some (((a * 16 + b) * 16 + c) * 16 + d, rest)
  | _ => none

/-- The character after a backslash and `u`; the two halves of a surrogate pair make one. -/
def unicodeEscape? (cs : List Char) : Option (Char × List Char) := do
  let (n, rest) ← hex4? cs
  if 0xD800 ≤ n && n ≤ 0xDBFF then
    match rest with
    | '\\' :: 'u' :: more =>
      let (m, rest) ← hex4? more
      if 0xDC00 ≤ m && m ≤ 0xDFFF then
        some (Char.ofNat (0x10000 + (n - 0xD800) * 1024 + (m - 0xDC00)), rest)
      else none
    | _ => none
  else if 0xDC00 ≤ n && n ≤ 0xDFFF then none
  else some (Char.ofNat n, rest)

def simpleEscape? : Char → Option Char
  | '"' => some '"'
  | '\\' => some '\\'
  | '/' => some '/'
  | 'b' => some '\x08'
  | 'f' => some '\x0c'
  | 'n' => some '\n'
  | 'r' => some '\r'
  | 't' => some '\t'
  | _ => none

/-- Rest of a string after its opening quote; `acc` holds what was read, last character first.
Every step uses up a character, so `fuel` is the number of characters. -/
def string? : Nat → List Char → List Char → Option (String × List Char)
  | 0, _, _ => none
  | _ + 1, [], _ => none
  | fuel + 1, c :: cs, acc =>
    if c = '"' then some (String.ofList acc.reverse, cs)
    else if c = '\\' then
      match cs with
      | 'u' :: more => do
        let (d, rest) ← unicodeEscape? more
        string? fuel rest (d :: acc)
      | e :: rest => do
        let d ← simpleEscape? e
        string? fuel rest (d :: acc)
      | [] => none
    else if c.toNat < 0x20 then none
    else string? fuel cs (c :: acc)

def wordSize : Nat := Nat.pow 2 64

def accumulate (n : Nat) : List Char → Nat × List Char
  | [] => (n, [])
  | d :: ds =>
    let m := n * 10 + (d.toNat - 48)
    if m < wordSize then accumulate m ds else (n, d :: ds)

/-- An exponent: its mark, a sign, at least one digit. `some none` if there is no mark. -/
def exponent? : List Char → Option (Option Int × List Char)
  | c :: cs =>
    if c = 'e' || c = 'E' then
      let (negative, cs) := match cs with
        | '+' :: r => (false, r)
        | '-' :: r => (true, r)
        | r => (false, r)
      let digits := cs.takeWhile isDigit
      if digits.isEmpty then none
      else
        let n := digits.foldl (fun (n : Nat) d => n * 10 + (d.toNat - 48)) 0
        some (some (if negative then -(n : Int) else n), cs.dropWhile isDigit)
    else some (none, c :: cs)
  | [] => some (none, [])

def fraction? : List Char → Option (Option (List Char) × List Char)
  | '.' :: cs =>
    let digits := cs.takeWhile isDigit
    if digits.isEmpty then none else some (some digits, cs.dropWhile isDigit)
  | cs => some (none, cs)

/-- A number without fraction and exponent is an integer if it fits in 64 bits. Minus zero is a
float, as integers have no such value. -/
def integer (negative : Bool) (n : Nat) : Number :=
  if !negative then .int n
  else if n = 0 || Nat.pow 2 63 < n then
    .float (-n.toUInt64.toFloat).toBits
  else .int (-n)

/-- A number after its sign. Leading zeros are not allowed. Digits beyond 64 bits count only by
their place. -/
def number? (negative : Bool) (cs : List Char) : Option (Number × List Char) := do
  let digits := cs.takeWhile isDigit
  let rest := cs.dropWhile isDigit
  if digits.isEmpty || (digits.head? = some '0' && 1 < digits.length) then none
  else
    let (whole, dropped) := accumulate 0 digits
    let (frac, rest) ← fraction? rest
    let (exp, rest) ← exponent? rest
    if dropped.isEmpty && frac.isNone && exp.isNone then some (integer negative whole, rest)
    else
      let fracDigits := frac.getD []
      let (significand, ignored) := accumulate whole fracDigits
      let places : Int := (dropped.length : Int) - (fracDigits.length - ignored.length : Nat)
      let bits ← Decimal.scaled? negative significand (places + exp.getD 0)
      some (.float bits, rest)

def isSpace (c : Char) : Bool := c = ' ' || c = '\n' || c = '\t' || c = '\r'

def next? (fuel : Nat) (c : Char) (cs : List Char) : Option (Token × List Char) :=
  match c with
  | '{' => some (openBrace, cs)
  | '}' => some (closeBrace, cs)
  | '[' => some (openBracket, cs)
  | ']' => some (closeBracket, cs)
  | ',' => some (comma, cs)
  | ':' => some (colon, cs)
  | '"' => (string? fuel cs []).map fun p => (value (.str p.1), p.2)
  | '-' => (number? true cs).map fun p => (value (.num p.1), p.2)
  | 't' => match cs with
    | 'r' :: 'u' :: 'e' :: rest => some (value (.bool true), rest)
    | _ => none
  | 'f' => match cs with
    | 'a' :: 'l' :: 's' :: 'e' :: rest => some (value (.bool false), rest)
    | _ => none
  | 'n' => match cs with
    | 'u' :: 'l' :: 'l' :: rest => some (value .null, rest)
    | _ => none
  | c => (number? false (c :: cs)).map fun p => (value (.num p.1), p.2)

/-- All tokens; `fuel` is the number of characters, as every step uses up at least one. -/
def scan : Nat → List Char → List Token → Option (List Token)
  | _, [], acc => some acc.reverse
  | 0, _ :: _, _ => none
  | fuel + 1, c :: cs, acc =>
    if isSpace c then scan fuel cs acc
    else match next? fuel c cs with
      | none => none
      | some (token, rest) => scan fuel rest (token :: acc)

def ofText (cs : List Char) : Option (List Token) := scan cs.length cs []

end Token

end ScriptLint.Json
