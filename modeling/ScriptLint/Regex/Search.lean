import ScriptLint.Regex.Program

/-! Searching. All ways to go on are followed at once, in the order of preference, character by
character; of the matches that begin first the preferred one is found. -/
namespace ScriptLint

namespace Regex

/-- Positions noted so far with their slots, the last one first. -/
abbrev Marks := List (Nat × Nat)

structure Thread where
  pc : Nat
  marks : Marks

structure Place where
  position : Nat
  before : Option Char
  after : Option Char

def WordLook.holds (l : WordLook) (before after : Bool) : Bool :=
  match l with
  | boundary => before != after
  | inside => before == after
  | start => !before && after
  | stop => before && !after
  | startHalf => !before
  | stopHalf => !after

def isAsciiWordChar (c : Char) : Bool := c.isAlphanum || c == '_'

def Look.holds (l : Look) (p : Place) : Bool :=
  match l with
  | textStart => p.before.isNone
  | textEnd => p.after.isNone
  | lineStart => p.before.isNone || p.before == some '\n'
  | lineEnd => p.after.isNone || p.after == some '\n'
  | returnStart =>
    p.before.isNone || p.before == some '\n' ||
      (p.before == some '\r' && p.after != some '\n')
  | returnEnd =>
    p.after.isNone || p.after == some '\r' ||
      (p.after == some '\n' && p.before != some '\r')
  | word ascii l =>
    let isWord := if ascii then isAsciiWordChar else isWordChar
    l.holds (p.before.any isWord) (p.after.any isWord)

inductive Ready where
  | waits (set : CharSet) (next : Thread)
  | done (marks : Marks)

/-- Follows threads up to the characters they wait for. An instruction is visited once at each
place, by the preferred thread; `seen` holds for each one the position after the last visit. Stops
at the first thread that comes to an end, as all later ones are less preferred. `fuel` bounds the
number of steps. -/
def follow (code : Array Instr) (here : Place) :
    Nat → List Thread → Array Nat → List Ready → List Ready × Array Nat
  | 0, _, seen, ready => (ready.reverse, seen)
  | _, [], seen, ready => (ready.reverse, seen)
  | fuel + 1, t :: stack, seen, ready =>
    if seen.getD t.pc 0 = here.position + 1 then follow code here fuel stack seen ready
    else
      let seen := seen.setIfInBounds t.pc (here.position + 1)
      match code[t.pc]? with
      | none => follow code here fuel stack seen ready
      | some (.chars set next) =>
        follow code here fuel stack seen (.waits set ⟨next, t.marks⟩ :: ready)
      | some (.look l next) =>
        if l.holds here then follow code here fuel (⟨next, t.marks⟩ :: stack) seen ready
        else follow code here fuel stack seen ready
      | some (.save slot next) =>
        follow code here fuel (⟨next, (slot, here.position) :: t.marks⟩ :: stack) seen ready
      | some (.fork first second) =>
        follow code here fuel (⟨first, t.marks⟩ :: ⟨second, t.marks⟩ :: stack) seen ready
      | some .accept => ((.done t.marks :: ready).reverse, seen)

/-- The threads that go on after a character, and the marks of a thread that had come to an end.
`threads` holds those found so far, last first. -/
def advance (c : Option Char) (threads : List Thread) : List Ready → List Thread × Option Marks
  | [] => (threads.reverse, none)
  | .done marks :: _ => (threads.reverse, some marks)
  | .waits set next :: rest =>
    advance c (if c.any set.has then next :: threads else threads) rest

def searchFrom (p : Program) (before : Option Char) (position : Nat) (threads : List Thread)
    (found : Option Marks) (seen : Array Nat) (text : List Char) : Option Marks :=
  let starts := if found.isSome then threads else threads ++ [⟨p.entry, []⟩]
  let (ready, seen) := follow p.code ⟨position, before, text.head?⟩
    (starts.length + 2 * p.code.size + 1) starts seen []
  let (threads, ended) := advance text.head? [] ready
  let found := ended.or found
  match text with
  | [] => found
  | c :: rest =>
    if found.isSome && threads.isEmpty then found
    else searchFrom p (some c) (position + 1) threads found seen rest

end Regex

structure Regex where
  program : Regex.Program
  /-- Number of groups, the whole match included. -/
  groups : Nat
  deriving Repr

/-- A match, given by the stretches of its groups. They are counted in characters from the place
where the search began. -/
structure Match where
  /-- The text from that place on. -/
  text : Text
  /-- Number of characters before that place. -/
  offset : Nat
  groups : List (Option (Nat × Nat))
  deriving Repr

namespace Match

def group? (m : Match) (n : Nat) : Option Text :=
  (m.groups[n]?).join.map fun g => (m.text.drop g.1).take (g.2 - g.1)

def group (m : Match) (n : Nat) : Text := (m.group? n).getD []

def span (m : Match) : Nat × Nat := ((m.groups[0]?).join).getD (0, 0)

end Match

namespace Regex

def ofPattern (p : Pattern) : Regex := ⟨.ofPattern p, p.lastGroup 0 + 1⟩

def groupsOf (count : Nat) (marks : Marks) : List (Option (Nat × Nat)) :=
  let slots := marks.reverse.foldl (fun slots mark => slots.setIfInBounds mark.1 (some mark.2))
    (Array.replicate (2 * count) none)
  (List.range count).map fun n =>
    match slots.getD (2 * n) none, slots.getD (2 * n + 1) none with
    | some start, some stop => some (start, stop)
    | _, _ => none

/-- The first match in a text that follows a character and begins `offset` characters after the
start of all. -/
def findAfter? (r : Regex) (before : Option Char) (offset : Nat) (text : Text) : Option Match :=
  (searchFrom r.program before 0 [] none (Array.replicate r.program.code.size 0) text).map
    fun marks => ⟨text, offset, groupsOf r.groups marks⟩

def find? (r : Regex) (text : Text) : Option Match := r.findAfter? none 0 text

def isMatch (r : Regex) (text : Text) : Bool := (r.find? text).isSome

/-- Matches one after the other. An empty match right after the match before is passed over;
`afterMatch` says that the text follows a match. `fuel` bounds the number of searches. -/
def findAllAfter (r : Regex) (afterMatch : Bool) :
    Nat → Option Char → Nat → Text → List Match
  | 0, _, _, _ => []
  | fuel + 1, before, offset, text =>
    match r.findAfter? before offset text with
    | none => []
    | some m =>
      let stop := m.span.2
      if afterMatch && stop == 0 then
        match text with
        | [] => []
        | c :: rest => findAllAfter r false fuel (some c) (offset + 1) rest
      else
        let before := if stop = 0 then before else text[stop - 1]?
        m :: findAllAfter r true fuel before (offset + stop) (text.drop stop)

def findAll (r : Regex) (text : Text) : List Match :=
  r.findAllAfter false (2 * text.length + 2) none 0 text

def replaceFrom (f : Match → Text) (done : Nat) (rest : Text) : List Match → Text
  | [] => rest
  | m :: ms =>
    let start := m.offset + m.span.1
    let stop := m.offset + m.span.2
    rest.take (start - done) ++ f m ++ replaceFrom f stop (rest.drop (stop - done)) ms

def replaceAll (r : Regex) (text : Text) (f : Match → Text) : Text :=
  replaceFrom f 0 text (r.findAll text)

end Regex

end ScriptLint
