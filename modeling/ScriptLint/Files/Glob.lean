import ScriptLint.Path

/-! Wildcard patterns for paths. -/
namespace ScriptLint

namespace Glob

inductive CharSpec where
  | single (c : Char)
  | range (low high : Char)
  deriving DecidableEq, Repr

def CharSpec.has : CharSpec → Char → Bool
  | single c, d => c == d
  | range low high, d => low ≤ d && d ≤ high

inductive Piece where
  | char (c : Char)
  | anyChar
  /-- Any number of characters. -/
  | anySequence
  /-- Any number of whole directories. -/
  | anyDirectories
  | within (specs : List CharSpec)
  | except (specs : List CharSpec)
  deriving DecidableEq, Repr

def specs : List Char → List CharSpec
  | a :: '-' :: b :: rest => .range a b :: specs rest
  | a :: rest => .single a :: specs rest
  | [] => []

/-- What stands before the first closing bracket that is not the first character, and the rest. -/
def bracket? : List Char → Option (List Char × List Char)
  | [] => none
  | c :: cs =>
    if cs.contains ']' then
      some (c :: cs.takeWhile (· != ']'), (cs.dropWhile (· != ']')).drop 1)
    else none

/-- Reads a pattern. `previous` is the character before the rest, `done` holds the pieces read, the
last one first; `fuel` is at least the number of characters. -/
def parseFrom : Nat → Option Char → List Piece → List Char → Option (List Piece)
  | _, _, done, [] => some done.reverse
  | 0, _, _, _ :: _ => none
  | fuel + 1, previous, done, c :: cs =>
    match c with
    | '?' => parseFrom fuel (some c) (.anyChar :: done) cs
    | '*' =>
      let stars := cs.takeWhile (· == '*')
      let rest := cs.dropWhile (· == '*')
      match stars with
      | [] => parseFrom fuel (some '*') (.anySequence :: done) cs
      | [_] =>
        let startsComponent := match previous with
          | none => true
          | some p => p == '/'
        if !startsComponent then none
        else
          let done := match done with
            | .anyDirectories :: _ :: _ => done
            | _ => .anyDirectories :: done
          match rest with
          | [] => some done.reverse
          | '/' :: rest => parseFrom fuel (some '/') done rest
          | _ => none
      | _ => none
    | '[' =>
      match cs with
      | '!' :: more => do
        let (inside, rest) ← bracket? more
        parseFrom fuel (some ']') (.except (specs inside) :: done) rest
      | _ => do
        let (inside, rest) ← bracket? cs
        parseFrom fuel (some ']') (.within (specs inside) :: done) rest
    | c => parseFrom fuel (some c) (.char c :: done) cs

def parse? (pattern : List Char) : Option (List Piece) :=
  parseFrom (pattern.length + 1) none [] pattern

def Piece.has : Piece → Char → Bool
  | char c, d => c == d
  | anyChar, _ => true
  | within specs, d => specs.any fun s => s.has d
  | except specs, d => !specs.any fun s => s.has d
  | anySequence, _ => true
  | anyDirectories, _ => true

def laterOr (row : List Bool) : List Bool :=
  row.foldr (fun b later => (b || later.headD false) :: later) []

def afterNext {α : Type} (p : α → Bool) (cs : List α) (row : List Bool) (atEnd : Bool) :
    List Bool :=
  cs.zipWith (fun c after => p c && after) row.tail ++ [atEnd]

/-- For each place in a text whether a piece and what follows it match the rest of the text, given
where what follows it does. A sequence may run over separators; directories end at one, or at the
end of the text. -/
def Piece.row (cs : List Char) (p : Piece) (row : List Bool) : List Bool :=
  match p with
  | .anySequence => laterOr row
  | .anyDirectories =>
    row.zipWith or (laterOr (afterNext Path.isSeparator cs row (row.getLastD false)))
  | p => afterNext p.has cs row false

def lastRow {α : Type} (cs : List α) : List Bool := cs.map (fun _ => false) ++ [true]

def isMatch (ps : List Piece) (cs : List Char) : Bool :=
  (ps.foldr (Piece.row cs) (lastRow cs)).headD false

def escape (s : List Char) : List Char :=
  s.flatMap fun c => if c == '?' || c == '*' || c == '[' || c == ']' then ['[', c, ']'] else [c]

end Glob

end ScriptLint
