import Std.Data.HashMap
import ScriptLint.Regex.ByteRange

/-! How much room an automaton takes that reads texts byte by byte. Only the number of its states
and the room for their links are counted; the states themselves are not kept. -/
namespace ScriptLint.Regex

structure Layout where
  states : Nat
  /-- Room for links out of states that have several. -/
  links : Nat
  /-- Whether the last part ends in a fork, from which a further link takes room. -/
  openFork : Bool
  deriving DecidableEq, Repr

namespace Layout

def start : Layout := ⟨0, 0, false⟩

def stateRoom : Nat := 32

def rangeRoom : Nat := 8

def forkRoom : Nat := 4

def maxRoom : Nat := 10485760

def room (l : Layout) : Nat := stateRoom * l.states + l.links

def isFull (l : Layout) : Bool := maxRoom < l.room

def addStates (n : Nat) (l : Layout) : Layout := { l with states := l.states + n }

def addState (l : Layout) : Layout := l.addStates 1

def addRanges (n : Nat) (l : Layout) : Layout :=
  { l with states := l.states + 1, links := l.links + rangeRoom * n }

def link (n : Nat) (l : Layout) : Layout := { l with links := l.links + forkRoom * n }

def close (l : Layout) : Layout := if l.openFork then { l.link 1 with openFork := false } else l

def endInFork (l : Layout) : Layout := { l with openFork := true }

/-- Lays something out several times, unless there is no room left. -/
def times (f : Layout → Layout) : Nat → Layout → Layout
  | 0, l => l
  | n + 1, l => if l.isFull then l else times f n (f l)

end Layout

/-- States that can be shared, by a digest of what they do. Of two with the same digest the later
one is known. -/
abbrev Known (α : Type) := Std.HashMap Nat (α × Nat)

namespace Known

def mix (h : UInt64) (n : Nat) : UInt64 := (h ^^^ n.toUInt64) * 1099511628211

def digest (size : Nat) (ns : List Nat) : Nat := (ns.foldl mix 14695981039346656037).toNat % size

def find? {α : Type} [BEq α] (k : Known α) (digest : Nat) (a : α) : Option Nat :=
  match k[digest]? with
  | some (b, state) => if a == b then some state else none
  | none => none

end Known

/-! Reading a character of a set forwards: characters that begin with the same bytes share the
states for these, and states with the same links are shared as far as they are known. -/

structure ByteLink where
  range : ByteRange
  target : Nat
  deriving DecidableEq, Repr

def ByteLink.numbers (l : ByteLink) : List Nat := [l.range.low, l.range.high, l.target]

/-- A state whose links are not complete. They are held last first; the target of the last one may
not be known yet. -/
structure OpenState where
  links : List ByteLink
  pending : Option ByteRange

def OpenState.resolve (s : OpenState) (target : Nat) : List ByteLink :=
  match s.pending with
  | some r => ⟨r, target⟩ :: s.links
  | none => s.links

structure ForwardLayout where
  layout : Layout
  known : Known (List ByteLink)
  /-- The states on the way to the last character, the innermost first. -/
  path : List OpenState

namespace ForwardLayout

def knownSize : Nat := 10000

def intern (f : ForwardLayout) (links : List ByteLink) : Nat × ForwardLayout :=
  let digest := Known.digest knownSize (links.reverse.flatMap ByteLink.numbers)
  match f.known.find? digest links with
  | some state => (state, f)
  | none =>
    let state := f.layout.states
    (state, { f with
      layout := f.layout.addRanges links.length
      known := f.known.insert digest (links, state) })

def complete (target : Nat) : Nat → ForwardLayout → ForwardLayout
  | n + 1, f =>
    match f.path with
    | [] => f
    | s :: path =>
      let (state, f) := { f with path := path }.intern (s.resolve target)
      complete state n f
  | 0, f =>
    match f.path with
    | [] => f
    | s :: path => { f with path := ⟨s.resolve target, none⟩ :: path }

def sharedLength (outerFirst : List OpenState) (rs : List ByteRange) : Nat :=
  ((outerFirst.zip rs).takeWhile fun p => p.1.pending == some p.2).length

/-- Adds the characters that a sequence of bytes stands for. All end in the same state. -/
def add (target : Nat) (f : ForwardLayout) (rs : List ByteRange) : ForwardLayout :=
  let shared := sharedLength f.path.reverse rs
  let f := f.complete target (f.path.length - (shared + 1))
  match f.path, rs.drop shared with
  | s :: path, r :: rest =>
    { f with
      path := (rest.map fun r => ⟨[], some r⟩).reverse ++ { s with pending := some r } :: path }
  | _, _ => f

end ForwardLayout

namespace Layout

def addForwards (sequences : List (List ByteRange)) (l : Layout) : Layout :=
  let target := l.states
  let f := sequences.foldl (ForwardLayout.add target) ⟨l.addState, ∅, [⟨[], none⟩]⟩
  let f := f.complete target (f.path.length - 1)
  match f.path with
  | [] => f.layout
  | root :: _ => (f.intern (root.resolve target)).2.layout

/-! Reading a character backwards: all sequences of bytes are choices of a fork, and share the
states that lead to the same one. -/

def backwardKnownSize : Nat := 1000

def addBackward (target : Nat) (known : Known (ByteRange × Nat)) (l : Layout) :
    List ByteRange → Layout × Known (ByteRange × Nat)
  | [] => (l.link 1, known)
  | r :: rs =>
    let digest := Known.digest backwardKnownSize [target, r.low, r.high]
    match known.find? digest (r, target) with
    | some state => addBackward state known l rs
    | none =>
      addBackward l.states (known.insert digest ((r, target), l.states)) l.addState rs

def addBackwards (sequences : List (List ByteRange)) (l : Layout) : Layout :=
  let target := l.states + 1
  (sequences.foldl (fun p rs => addBackward target p.2 p.1 rs) (l.addStates 2, ∅)).1

def addSet (backwards : Bool) (s : Unicode.CodeSet) (l : Layout) : Layout :=
  if s.isAscii then l.addState.addRanges s.ranges.length
  else if backwards then l.addBackwards (byteSequences s)
  else l.addForwards (byteSequences s)

end Layout

end ScriptLint.Regex
