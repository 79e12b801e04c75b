import ScriptLint.Regex.CharSet

/-! Regular expressions as trees. They are put together by functions that keep them in a simple
form: sequences and choices are not nested in their like, characters side by side make one word, and
a choice among single characters is a set. -/
namespace ScriptLint.Regex

inductive WordLook where
  | boundary
  | inside
  | start
  | stop
  | startHalf
  | stopHalf
  deriving DecidableEq, Repr

inductive Look where
  | textStart
  | textEnd
  | lineStart
  | lineEnd
  /-- As `lineStart` and `lineEnd`, where a carriage return ends lines too, and never two lines
  together with the line feed after it. -/
  | returnStart
  | returnEnd
  | word (ascii : Bool) (l : WordLook)
  deriving DecidableEq, Repr

inductive Pattern where
  | empty
  | literal (word : List Char)
  | chars (set : CharSet)
  | look (l : Look)
  | group (index : Nat) (body : Pattern)
  /-- At least `min` and at most `max` times, as often as possible if `greedy`. -/
  | rep (min : Nat) (max : Option Nat) (greedy : Bool) (body : Pattern)
  | seq (parts : List Pattern)
  /-- One of several, of which an earlier one is preferred. -/
  | alt (choices : List Pattern)

namespace Pattern

mutual

def same : Pattern → Pattern → Bool
  | empty, empty => true
  | literal a, literal b => a == b
  | chars a, chars b => a == b
  | look a, look b => a == b
  | group i p, group j q => i == j && p.same q
  | rep a b g p, rep c d h q => a == c && b == d && g == h && p.same q
  | seq ps, seq qs => sameAll ps qs
  | alt ps, alt qs => sameAll ps qs
  | _, _ => false

def sameAll : List Pattern → List Pattern → Bool
  | [], [] => true
  | p :: ps, q :: qs => p.same q && sameAll ps qs
  | _, _ => false

end

mutual

def lastGroup (n : Nat) : Pattern → Nat
  | empty | literal _ | chars _ | look _ => n
  | group index p => p.lastGroup (max n index)
  | rep _ _ _ p => p.lastGroup n
  | seq ps | alt ps => lastGroupAll n ps

def lastGroupAll (n : Nat) : List Pattern → Nat
  | [] => n
  | p :: ps => lastGroupAll (p.lastGroup n) ps

end

end Pattern

/-- What can be said of all matches of a pattern. -/
structure Traits where
  /-- No part of the pattern is a set without characters. -/
  possible : Bool
  /-- A match is never empty. -/
  consumes : Bool
  /-- A match is always empty. -/
  onlyEmpty : Bool
  /-- A match begins at the start of the text. -/
  opensText : Bool
  /-- A match stops at the end of the text. -/
  closesText : Bool
  deriving DecidableEq, Repr

namespace Traits

def ofEmpty : Traits := ⟨true, false, true, false, false⟩

def ofLook (l : Look) : Traits := ⟨true, false, true, l == .textStart, l == .textEnd⟩

def ofChar (possible : Bool) : Traits := ⟨possible, true, false, false, false⟩

def followedBy (a b : Traits) : Traits where
  possible := a.possible && b.possible
  consumes := a.consumes || b.consumes
  onlyEmpty := a.onlyEmpty && b.onlyEmpty
  opensText := a.opensText || (a.onlyEmpty && b.opensText)
  closesText := b.closesText || (b.onlyEmpty && a.closesText)

def ofNone : Traits := ⟨true, true, true, true, true⟩

def both (a b : Traits) : Traits where
  possible := a.possible && b.possible
  consumes := a.consumes && b.consumes
  onlyEmpty := a.onlyEmpty && b.onlyEmpty
  opensText := a.opensText && b.opensText
  closesText := a.closesText && b.closesText

def repeated (min : Nat) (max : Option Nat) (t : Traits) : Traits where
  possible := t.possible
  consumes := min != 0 && t.consumes
  onlyEmpty := max.isSome && t.onlyEmpty
  opensText := min != 0 && t.opensText
  closesText := min != 0 && t.closesText

end Traits

namespace Pattern

mutual

def traits : Pattern → Traits
  | empty => .ofEmpty
  | literal _ => .ofChar true
  | chars set => .ofChar (!set.isEmpty)
  | look l => .ofLook l
  | group _ p => p.traits
  | rep min max _ p => p.traits.repeated min max
  | seq ps => traitsOfSeq .ofEmpty ps
  | alt ps => traitsOfAlt .ofNone ps

def traitsOfSeq (before : Traits) : List Pattern → Traits
  | [] => before
  | p :: ps => traitsOfSeq (before.followedBy p.traits) ps

def traitsOfAlt (others : Traits) : List Pattern → Traits
  | [] => others
  | p :: ps => traitsOfAlt (others.both p.traits) ps

end

def consumes (p : Pattern) : Bool := p.traits.possible && p.traits.consumes

def ofSet (s : CharSet) : Pattern :=
  match s.single? with
  | some c => literal [c]
  | none => chars s

def parts : Pattern → List Pattern
  | empty => []
  | seq ps => ps
  | p => [p]

/-- Joins words side by side. `word` holds the characters of the word that is not complete yet and
`done` what comes before it, both last first. -/
def joinWords (done : List Pattern) (word : List Char) : List Pattern → List Pattern
  | [] => (close done word).reverse
  | literal w :: ps => joinWords done (w.reverse ++ word) ps
  | p :: ps => joinWords (p :: close done word) [] ps
where
  close (done : List Pattern) (word : List Char) : List Pattern :=
    if word.isEmpty then done else literal word.reverse :: done

def concat (ps : List Pattern) : Pattern :=
  match joinWords [] [] (ps.flatMap parts) with
  | [] => empty
  | [p] => p
  | ps => seq ps

def choices : Pattern → List Pattern
  | alt ps => ps
  | p => [p]

def char? : Pattern → Option Char
  | literal [c] => some c
  | _ => none

def set? : Pattern → Option CharSet
  | chars s => some s
  | _ => none

def seq? : Pattern → Option (List Pattern)
  | seq ps => some ps
  | _ => none

def choice (ps : List Pattern) : Pattern :=
  match ps.flatMap choices with
  | [] => chars .empty
  | [p] => p
  | ps =>
    match ps.mapM char?, ps.mapM set? with
    | some cs, _ => ofSet (.ofRanges (cs.map fun c => (c.toNat, c.toNat)))
    | none, some sets => ofSet (.unionAll sets)
    | none, none => alt ps

def commonPart : List Pattern → List Pattern → List Pattern
  | p :: ps, q :: qs => if p.same q then p :: commonPart ps qs else []
  | _, _ => []

def commonStart : List (List Pattern) → List Pattern
  | [] => []
  | ps :: rest => rest.foldl commonPart ps

/-- As `choice`, where a common start of all choices is put before the choice. -/
def alternation (ps : List Pattern) : Pattern :=
  match choice ps with
  | alt ps =>
    match ps.mapM seq? with
    | none => alt ps
    | some lists =>
      match commonStart lists with
      | [] => alt ps
      | start => concat (start ++ [choice (lists.map fun l => concat (l.drop start.length))])
  | p => p

/-- A pattern several times. What matches only the empty text is not tried twice. -/
def repetition (min : Nat) (max : Option Nat) (greedy : Bool) (p : Pattern) : Pattern :=
  let once := p.traits.onlyEmpty
  let min := if once then Nat.min min 1 else min
  let max := if once then some (Nat.min (max.getD 1) 1) else max
  if max = some 0 then empty else if min = 1 && max = some 1 then p else rep min max greedy p

end Pattern

end ScriptLint.Regex
