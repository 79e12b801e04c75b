import ScriptLint.Regex.Pattern
import ScriptLint.Regex.WordTree

/-! The room that a pattern takes. A pattern is refused if the automaton that reads texts for it, or
the one that reads them from their end, takes too much. -/
namespace ScriptLint.Regex

namespace Layout

def exactly (f : Layout → Layout) (n : Nat) (l : Layout) : Layout :=
  match n with
  | 0 => l.addState
  | n + 1 => times (fun l => f l.close) n (f l)

def optional (f : Layout → Layout) (l : Layout) : Layout := ((f l.addState).close.addState).link 2

def plus (f : Layout → Layout) (l : Layout) : Layout := ((f l).close.addState.link 1).endInFork

/-- Any number of times. What may be empty is entered through a fork of its own. -/
def star (consumes : Bool) (f : Layout → Layout) (l : Layout) : Layout :=
  if consumes then ((f l.addState).close.link 1).endInFork
  else ((f l).close.addStates 3).link 4

def counted (min : Nat) (max : Option Nat) (consumes : Bool) (f : Layout → Layout) (l : Layout) :
    Layout :=
  match min, max with
  | 0, some 1 => l.optional f
  | 0, none => l.star consumes f
  | 1, none => l.plus f
  | n + 1, none => (l.exactly f n).close.plus f
  | n, some m =>
    if n = m then l.exactly f n
    else times (fun l => (f l.addState).close.link 2) (m - n) (l.exactly f n).close.addState

def sequence : List (Layout → Layout) → Layout → Layout
  | [], l => l.addState
  | [f], l => f l
  | f :: fs, l => sequence fs (f l).close

/-- Choices. Their fork and their common end come after the second one. -/
def choices : List (Layout → Layout) → Layout → Layout
  | f :: g :: fs, l =>
    fs.foldl (fun l f => (f l).close.link 1) (((g (f l).close).close.addStates 2).link 2)
  | fs, l => sequence fs l

end Layout

namespace Pattern

def bytes (backwards : Bool) (w : List Char) : List Nat :=
  let bs := w.flatMap fun c => (String.utf8EncodeChar c).map UInt8.toNat
  if backwards then bs.reverse else bs

def word? : Pattern → Option (List Char)
  | literal w => some w
  | _ => none

mutual

/-- Lays out a pattern. Groups are noted forwards only. -/
def layOut (backwards : Bool) : Pattern → Layout → Layout
  | empty, l => l.addState
  | literal w, l => l.addStates (bytes backwards w).length
  | chars set, l => l.addSet backwards set
  | look _, l => l.addState
  | group _ p, l =>
    if backwards then p.layOut backwards l else (p.layOut backwards l.addState).close.addState
  | rep min max _ p, l => l.counted min max p.consumes (p.layOut backwards)
  | seq ps, l =>
    let fs := layOuts backwards [] ps
    Layout.sequence (if backwards then fs else fs.reverse) l
  | alt ps, l =>
    match ps.mapM word? with
    | some words => (WordTree.ofWords (words.map (bytes backwards))).layOut l
    | none => Layout.choices (layOuts backwards [] ps).reverse l

def layOuts (backwards : Bool) (done : List (Layout → Layout)) :
    List Pattern → List (Layout → Layout)
  | [] => done
  | p :: ps => layOuts backwards (p.layOut backwards :: done) ps

end

/-- The layout for a whole pattern. What lies before a match is passed over, unless every match
begins there. -/
def footprint (backwards : Bool) (p : Pattern) : Layout :=
  let anchored := if backwards then p.traits.closesText else p.traits.opensText
  let l := if anchored then Layout.start.addState
    else Layout.start.star true fun l => l.addState.addRanges 1
  ((group 0 p).layOut backwards l.close).close.addState

def fits (p : Pattern) : Bool := !(p.footprint false).isFull && !(p.footprint true).isFull

end Pattern

end ScriptLint.Regex
