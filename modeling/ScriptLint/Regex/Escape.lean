import ScriptLint.Regex.Flags

/-! What a backslash makes of the characters after it. -/
namespace ScriptLint.Regex

inductive Atom where
  /-- A character, given by the number of a byte if `byte`. -/
  | char (c : Char) (byte : Bool)
  | set (s : CharSet)
  | look (l : Look)
  deriving Repr

def isEscapable (c : Char) : Bool :=
  c.toNat < 128 && !c.isAlphanum && c != '<' && c != '>'

def hexDigit? (c : Char) : Option Nat :=
  if c.isDigit then some (c.toNat - 48)
  else if 'a' ≤ c && c ≤ 'f' then some (c.toNat - 87)
  else if 'A' ≤ c && c ≤ 'F' then some (c.toNat - 55)
  else none

def charOfNumber? (n : Nat) : Option Char := if n.isValidChar then some (Char.ofNat n) else none

def readHexDigits (f : Flags) (acc : Nat) : Nat → List Char → Option (Char × List Char)
  | 0, s => (charOfNumber? acc).map fun c => (c, s)
  | _ + 1, [] => none
  | n + 1, c :: s => (hexDigit? c).bind fun d => readHexDigits f (acc * 16 + d) n (f.skip s)

def readBraced (f : Flags) : Nat → List Char → Option (List Char × List Char)
  | 0, _ => none
  | fuel + 1, s =>
    match f.skip s with
    | [] => none
    | '\x7d' :: s => some ([], s)
    | c :: s => (readBraced f fuel s).map fun p => (c :: p.1, p.2)

def hexNumber? (digits : List Char) : Option Nat :=
  if digits.isEmpty then none
  else digits.foldlM (fun n c => (hexDigit? c).map fun d => n * 16 + d) 0

def readHex (f : Flags) (digits : Nat) (s : List Char) : Option (Atom × List Char) :=
  match f.skip s with
  | '\x7b' :: s => do
    let (body, s) ← readBraced f (s.length + 1) s
    let c ← (hexNumber? body).bind charOfNumber?
    some (.char c false, f.skip s)
  | s => (readHexDigits f 0 digits s).map fun p => (.char p.1 (digits == 2), p.2)

/-- The characters that a property in braces stands for. A value may follow its name; the sign that
separates them does not count, not even one that reads as if it ruled the value out. -/
def namedProperty? (s : List Char) : Option CharSet :=
  match (Text.cut? ['!', '='] s).or ((Text.cut? [':'] s).or (Text.cut? ['='] s)) with
  | some (name, value) => Unicode.propertyValue? name value
  | none => Unicode.property? s

def readProperty (f : Flags) (negated : Bool) (s : List Char) : Option (Atom × List Char) :=
  if !f.has .unicode then none
  else match f.skip s with
    | [] => none
    | '\\' :: _ => none
    | '\x7b' :: s => do
      let (body, s) ← readBraced f (s.length + 1) s
      let set ← f.negate? negated (f.fold (← namedProperty? body))
      some (.set set, s)
    | c :: s => do
      let set ← f.negate? negated (f.fold (← Unicode.property? [c]))
      some (.set set, f.skip s)

def readWordLookName (f : Flags) : Nat → List Char → List Char × List Char
  | 0, s => ([], s)
  | fuel + 1, s =>
    match s with
    | [] => ([], [])
    | c :: rest =>
      if c.isAlpha || c = '-' then
        let (name, rest) := readWordLookName f fuel (f.skip rest)
        (c :: name, rest)
      else ([], s)

/-- A boundary of words, which may be narrowed by a name in braces. Braces that do not begin with a
letter are a count. -/
def readBoundary (f : Flags) (s : List Char) : Option (Atom × List Char) :=
  let look (l : WordLook) : Atom := .look (.word (!f.has .unicode) l)
  match s with
  | '\x7b' :: rest =>
    match f.skip rest with
    | [] => none
    | c :: inner =>
      if !(c.isAlpha || c == '-') then some (look .boundary, s)
      else
        match readWordLookName f (s.length + 1) (c :: inner) with
        | (name, '\x7d' :: rest) =>
          if name = "start".toList then some (look .start, rest)
          else if name = "end".toList then some (look .stop, rest)
          else if name = "start-half".toList then some (look .startHalf, rest)
          else if name = "end-half".toList then some (look .stopHalf, rest)
          else none
        | _ => none
  | s => some (look .boundary, s)

def readEscape (f : Flags) : List Char → Option (Atom × List Char)
  | [] => none
  | c :: s =>
    let char (d : Char) : Option (Atom × List Char) := some (.char d false, s)
    let set (negated : Bool) (t : CharSet) : Option (Atom × List Char) :=
      (f.negate? negated t).map fun t => (.set t, s)
    let word (l : WordLook) : Option (Atom × List Char) :=
      some (.look (.word (!f.has .unicode) l), s)
    if isEscapable c then char c
    else match c with
      | 'x' => readHex f 2 s
      | 'u' => readHex f 4 s
      | 'U' => readHex f 8 s
      | 'p' => readProperty f false s
      | 'P' => readProperty f true s
      | 'd' => set false f.digits
      | 'D' => set true f.digits
      | 's' => set false f.blankChars
      | 'S' => set true f.blankChars
      | 'w' => set false f.wordChars
      | 'W' => set true f.wordChars
      | 'a' => char '\x07'
      | 'f' => char '\x0C'
      | 't' => char '\t'
      | 'n' => char '\n'
      | 'r' => char '\r'
      | 'v' => char '\x0B'
      | 'A' => some (.look .textStart, s)
      | 'z' => some (.look .textEnd, s)
      | 'b' => readBoundary f s
      | 'B' => word .inside
      | '<' => word .start
      | '>' => word .stop
      | _ => none

/-- A character that is given by the number of a byte has to be one of ASCII, if bytes count. -/
def checkChar (f : Flags) (c : Char) (byte : Bool) : Option Char :=
  if !f.has .unicode && byte && 128 ≤ c.toNat then none else some c

end ScriptLint.Regex
