import ScriptLint.Regex.Bracket
import ScriptLint.Regex.Footprint
import ScriptLint.Regex.Search
import ScriptLint.Unicode.Letter

/-! Reading regular expressions. -/
namespace ScriptLint.Regex

/-- A part of a pattern, with its depth of nesting. A change of flags cannot be repeated. -/
inductive Part where
  | pattern (p : Pattern) (depth : Nat)
  | flags

abbrev Sized := Pattern × Nat

/-- A group that is still open: its number if it has one, what came before it in the group around,
and the flags to go back to. -/
structure OpenGroup where
  number : Option Nat
  flags : Flags
  alternatives : List Sized
  parts : List Part

structure Reading where
  flags : Flags := .default
  alternatives : List Sized := []
  parts : List Part := []
  openGroups : List OpenGroup := []
  groups : Nat := 0
  names : List (List Char) := []

def Part.sized? : Part → Option Sized
  | pattern p d => some (p, d)
  | flags => none

def joinParts (parts : List Part) : Sized :=
  let sized := (parts.filterMap Part.sized?).reverse
  match parts, sized with
  | [_], [s] => s
  | _, [] => (.empty, 0)
  | _, sized => (.concat (sized.map Prod.fst), (sized.map Prod.snd).foldl max 0 + 1)

def Reading.body (r : Reading) : Sized :=
  let last := joinParts r.parts
  match r.alternatives with
  | [] => last
  | before =>
    let all := (last :: before).reverse
    (.alternation (all.map Prod.fst), (all.map Prod.snd).foldl max 0 + 1)

def Reading.add (r : Reading) (p : Pattern) (depth : Nat := 0) : Reading :=
  { r with parts := .pattern p depth :: r.parts }

def Reading.repeatLast (r : Reading) (min : Nat) (max : Option Nat) (greedy : Bool) :
    Option Reading :=
  match r.parts with
  | .pattern p depth :: parts =>
    let greedy := greedy != r.flags.has .lazy
    some { r with parts := .pattern (.repetition min max greedy p) (depth + 1) :: parts }
  | _ => none

def Reading.openGroup (r : Reading) (number : Option Nat) (flags : Flags) : Reading :=
  { r with
    flags := flags
    alternatives := []
    parts := []
    openGroups := ⟨number, r.flags, r.alternatives, r.parts⟩ :: r.openGroups }

def Reading.closeGroup (r : Reading) : Option Reading :=
  match r.openGroups with
  | [] => none
  | g :: outer =>
    let (p, depth) := r.body
    let p := match g.number with
      | some n => .group n p
      | none => p
    some { r with
      flags := g.flags
      alternatives := g.alternatives
      parts := .pattern p (depth + 1) :: g.parts
      openGroups := outer }

def isNameStart (c : Char) : Bool := c == '_' || Unicode.isAlphabetic c

def isNameChar (c : Char) : Bool :=
  isNameStart c || c == '.' || c == '[' || c == ']' || Unicode.isNumeric c

def readGroupName (s : List Char) : Option (List Char × List Char) :=
  let name := s.takeWhile (fun c => c != '>')
  match s.dropWhile (fun c => c != '>'), name with
  | _ :: rest, c :: cs => if isNameStart c && cs.all isNameChar then some (name, rest) else none
  | _, _ => none

def Reading.openNamed (r : Reading) (s : List Char) : Option (Reading × List Char) := do
  let (name, s) ← readGroupName s
  if r.names.contains name then none
  else
    let r := { r with groups := r.groups + 1, names := name :: r.names }
    some (r.openGroup (some r.groups) r.flags, s)

def readGroup (r : Reading) (s : List Char) : Option (Reading × List Char) :=
  match r.flags.skip s with
  | '?' :: '=' :: _ | '?' :: '!' :: _ | '?' :: '<' :: '=' :: _ | '?' :: '<' :: '!' :: _ => none
  | '?' :: 'P' :: '<' :: s | '?' :: '<' :: s => r.openNamed s
  | '?' :: ')' :: _ => none
  | '?' :: s =>
    match readFlags [] false r.flags s with
    | some (flags, ')' :: s) => some ({ r with flags := flags, parts := .flags :: r.parts }, s)
    | some (flags, _ :: s) => some (r.openGroup none flags, s)
    | _ => none
  | s =>
    let r := { r with groups := r.groups + 1 }
    some (r.openGroup (some r.groups) r.flags, s)

def readDigits (f : Flags) : Nat → List Char → List Char × List Char
  | 0, s => ([], s)
  | fuel + 1, s =>
    match s with
    | [] => ([], [])
    | c :: rest =>
      if c.isDigit then
        let (digits, rest) := readDigits f fuel (f.skip rest)
        (c :: digits, rest)
      else ([], s)

def maxCount : Nat := 4294967295

def readCount (f : Flags) (s : List Char) : Option Nat × List Char :=
  let (digits, s) := readDigits f (s.length + 1) (s.dropWhile isBlank)
  let rest := f.skip (s.dropWhile isBlank)
  let n := digits.foldl (fun n c => n * 10 + (c.toNat - 48)) 0
  (if digits.isEmpty || maxCount < n then none else some n, rest)

/-- Reads bounds in braces, of which the second may be missing, but not the first. -/
def readBounds (f : Flags) (s : List Char) : Option (Nat × Option Nat × List Char) :=
  let (min, s) := readCount f (f.skip s)
  match min, s with
  | some n, '\x7d' :: s => some (n, some n, s)
  | some n, ',' :: s =>
    match f.skip s with
    | '\x7d' :: s => some (n, none, s)
    | s =>
      match readCount f s with
      | (some m, '\x7d' :: s) => if n ≤ m then some (n, some m, s) else none
      | _ => none
  | _, _ => none

/-- Repeats the last part, as seldom as possible if a question mark follows. -/
def readRepeat (r : Reading) (min : Nat) (max : Option Nat) (s : List Char) :
    Option (Reading × List Char) :=
  match s with
  | '?' :: s => (r.repeatLast min max false).map fun r => (r, s)
  | s => (r.repeatLast min max true).map fun r => (r, s)

def Reading.addAtom (r : Reading) : Atom → Option Reading
  | .char c byte =>
    (checkChar r.flags c byte).map fun c => r.add (.ofSet (r.flags.fold (.single c)))
  | .set s => some (r.add (.ofSet s))
  | .look l => some (r.add (.look l))

def readPart (r : Reading) (c : Char) (s : List Char) : Option (Reading × List Char) :=
  match c with
  | '(' => readGroup r s
  | ')' => r.closeGroup.map fun r => (r, s)
  | '|' => some ({ r with alternatives := joinParts r.parts :: r.alternatives, parts := [] }, s)
  | '[' => (readBracket r.flags s).map fun p => (r.add (.ofSet p.1.1) p.1.2, p.2)
  | '?' => readRepeat r 0 (some 1) s
  | '*' => readRepeat r 0 none s
  | '+' => readRepeat r 1 none s
  | '\x7b' => do
    let (min, max, s) ← readBounds r.flags s
    readRepeat r min max (r.flags.skip s)
  | '\\' => do
    let (atom, s) ← readEscape r.flags s
    (r.addAtom atom).map fun r => (r, s)
  | '.' => r.flags.dot?.map fun set => (r.add (.ofSet set), s)
  | '^' => some (r.add (.look r.flags.start), s)
  | '$' => some (r.add (.look r.flags.stop), s)
  | c => (r.addAtom (.char c false)).map fun r => (r, s)

def readParts : Nat → Reading → List Char → Option Reading
  | 0, _, _ => none
  | fuel + 1, r, s =>
    match r.flags.skip s with
    | [] => some r
    | c :: s => (readPart r c s).bind fun p => readParts fuel p.1 p.2

def maxDepth : Nat := 250

def Pattern.parse? (s : List Char) : Option Pattern := do
  let r ← readParts (s.length + 1) {} s
  let (p, depth) := r.body
  if r.openGroups.isEmpty && depth ≤ maxDepth && p.fits then some p else none

def parse? (s : Text) : Option Regex := (Pattern.parse? s).map ofPattern

def known (s : String) : Regex := (parse? s.toList).getD (ofPattern (.chars .empty))

end ScriptLint.Regex
