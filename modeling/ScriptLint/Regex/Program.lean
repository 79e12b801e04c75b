import ScriptLint.Regex.Pattern

/-! Programs that match regular expressions. A program is written from its end, so that every
instruction knows where to go on. -/
namespace ScriptLint.Regex

inductive Instr where
  | chars (set : CharSet) (next : Nat)
  | look (l : Look) (next : Nat)
  /-- Notes the position in a slot. -/
  | save (slot next : Nat)
  /-- Goes on in two ways, of which the first is preferred. -/
  | fork (first second : Nat)
  | accept
  deriving DecidableEq, Repr

structure Program where
  code : Array Instr
  entry : Nat
  deriving Repr

namespace Program

def done : Program := ⟨#[.accept], 0⟩

/-- Starts with a further instruction, which is told where the program started so far. -/
def push : Program → (Nat → Instr) → Program
  | ⟨code, entry⟩, instr =>
    let place := code.size
    ⟨code.push (instr entry), place⟩

def forkTo (greedy : Bool) (into out : Nat) : Instr :=
  if greedy then .fork into out else .fork out into

def optional (greedy : Bool) (out : Nat) (body : Program → Program) (p : Program) : Program :=
  (body p).push fun into => forkTo greedy into out

def plus (greedy : Bool) (body : Program → Program) : Program → Program
  | ⟨code, out⟩ =>
    let loop := code.size
    match body ⟨code.push (.fork out out), loop⟩ with
    | ⟨code, into⟩ => ⟨code.setIfInBounds loop (forkTo greedy into out), into⟩

def enterAt (place : Nat) (p : Program) : Program := { p with entry := place }

/-- Any number of times: starts with the fork. A body that may match nothing is entered through an
optional first time, so that a time without progress does not come before leaving the loop. -/
def star (greedy consumes : Bool) (body : Program → Program) (p : Program) : Program :=
  if consumes then enterAt p.code.size (plus greedy body p)
  else optional greedy p.entry (plus greedy body) p

def counted (min : Nat) (max : Option Nat) (greedy consumes : Bool) (body : Program → Program)
    (p : Program) : Program :=
  match max, min with
  | none, 0 => star greedy consumes body p
  | none, n + 1 => Nat.repeat body n (plus greedy body p)
  | some m, n => Nat.repeat body n (Nat.repeat (optional greedy p.entry body) (m - n) p)

def word (w : List Char) (p : Program) : Program :=
  w.reverse.foldl (fun p c => p.push (.chars (.single c))) p

/-- The first of some ways is preferred to the others. They are given last first, and all lead to
where the program started. -/
def oneOf : List (Program → Program) → Program → Program
  | [], p => p.push (.chars .empty)
  | last :: ways, ⟨code, out⟩ =>
    ways.foldl (fun | ⟨code, others⟩, way => (way ⟨code, out⟩).push fun first => .fork first others)
      (last ⟨code, out⟩)

mutual

def before : Pattern → Program → Program
  | .empty, p => p
  | .literal w, p => word w p
  | .chars set, p => p.push (.chars set)
  | .look l, p => p.push (.look l)
  | .group index body, p =>
    (before body (p.push (.save (2 * index + 1)))).push (.save (2 * index))
  | .rep min max greedy body, p => counted min max greedy body.consumes (before body) p
  | .seq ps, p => (ways [] ps).foldl (fun p f => f p) p
  | .alt ps, p => oneOf (ways [] ps) p

def ways (done : List (Program → Program)) : List Pattern → List (Program → Program)
  | [] => done
  | p :: ps => ways (before p :: done) ps

end

def ofPattern (p : Pattern) : Program := before (.group 0 p) done

end Program

end ScriptLint.Regex
