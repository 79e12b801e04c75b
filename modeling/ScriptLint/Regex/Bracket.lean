import ScriptLint.Regex.Escape

/-! Sets of characters in square brackets. -/
namespace ScriptLint.Regex

abbrev SizedSet := CharSet × Nat

inductive SetOp where
  | inter
  | diff
  | symmDiff
  deriving DecidableEq, Repr

def SetOp.apply (f : Flags) (op : SetOp) (a b : SizedSet) : SizedSet :=
  let l := f.fold a.1
  let r := f.fold b.1
  let set := match op with
    | inter => .inter l r
    | diff => .diff l r
    | symmDiff => .symmDiff l r
  (set, max a.2 b.2 + 1)

def uniteItems : List SizedSet → SizedSet
  | [] => (.empty, 0)
  | [s] => s
  | items => (.unionAll (items.map Prod.fst), (items.map Prod.snd).foldl max 0 + 1)

def closeOp (f : Flags) (left : Option (SetOp × SizedSet)) (items : List SizedSet) : SizedSet :=
  match left with
  | none => uniteItems items
  | some (op, a) => op.apply f a (uniteItems items)

/-- What stands at the beginning of brackets: a negation, then dashes or a closing bracket that mean
themselves. -/
def openBracket (f : Flags) (s : List Char) : Bool × List SizedSet × List Char :=
  let (negated, s) := match f.skip s with
    | '^' :: s => (true, f.skip s)
    | s => (false, s)
  let (dashes, s) := takeDashes (s.length + 1) s
  match dashes, s with
  | [], ']' :: s => (negated, [(.single ']', 0)], f.skip s)
  | dashes, s => (negated, dashes, s)
where
  takeDashes : Nat → List Char → List SizedSet × List Char
    | 0, s => ([], s)
    | fuel + 1, s =>
      match s with
      | '-' :: s =>
        let (rest, s) := takeDashes fuel (f.skip s)
        ((.single '-', 0) :: rest, s)
      | s => ([], s)

def readNamedSet (s : List Char) : Option (CharSet × Bool × List Char) :=
  match s with
  | ':' :: s =>
    let (negated, s) := match s with
      | '^' :: s => (true, s)
      | s => (false, s)
    let name := s.takeWhile (fun c => c != ':')
    match s.dropWhile (fun c => c != ':') with
    | ':' :: ']' :: rest =>
      (CharSet.posix? (String.ofList name)).map fun set => (set, negated, rest)
    | _ => none
  | _ => none

def readSetAtom (f : Flags) : List Char → Option (Atom × List Char)
  | [] => none
  | '\\' :: s => readEscape f s
  | c :: s => some (.char c false, s)

def setChar? (f : Flags) : Atom → Option Char
  | .char c byte =>
    if !f.has .unicode && 128 ≤ c.toNat then none else checkChar f c byte
  | _ => none

def readSetItem (f : Flags) (s : List Char) : Option (CharSet × List Char) := do
  let (first, s) ← readSetAtom f s
  let s := f.skip s
  let alone : Option (CharSet × List Char) :=
    match first with
    | .set set => some (set, s)
    | atom => (setChar? f atom).map fun c => (.single c, s)
  match s with
  | [] => none
  | '-' :: rest =>
    match f.skip rest with
    | ']' :: _ | '-' :: _ => alone
    | [] => none
    | rest =>
      let (last, rest) ← readSetAtom f rest
      let low ← setChar? f first
      let high ← setChar? f last
      if low ≤ high then some (.ofRange low.toNat high.toNat, rest) else none
  | _ => alone

def readSet (f : Flags) :
    Nat → Option (SetOp × SizedSet) → List SizedSet → List Char → Option (SizedSet × List Char)
  | 0, _, _, _ => none
  | fuel + 1, left, items, s =>
    match f.skip s with
    | [] => none
    | ']' :: s => some (closeOp f left items, s)
    | '&' :: '&' :: s => readSet f fuel (some (.inter, closeOp f left items)) [] s
    | '-' :: '-' :: s => readSet f fuel (some (.diff, closeOp f left items)) [] s
    | '~' :: '~' :: s => readSet f fuel (some (.symmDiff, closeOp f left items)) [] s
    | '[' :: s =>
      match readNamedSet s with
      | some (set, negated, s) => do
        let set ← f.negate? negated (f.fold set)
        readSet f fuel left ((set, 0) :: items) s
      | none => do
        let (negated, inner, s) := openBracket f s
        let ((set, depth), s) ← readSet f fuel none inner s
        let set ← f.negate? negated (f.fold set)
        readSet f fuel left ((set, depth + 1) :: items) s
    | s => do
      let (set, s) ← readSetItem f s
      readSet f fuel left ((set, 0) :: items) s

def readBracket (f : Flags) (s : List Char) : Option (SizedSet × List Char) := do
  let (negated, items, rest) := openBracket f s
  let ((set, depth), rest) ← readSet f (s.length + 1) none items rest
  let set ← f.negate? negated (f.fold set)
  some ((set, depth + 1), rest)

end ScriptLint.Regex
