import ScriptLint.Regex.Layout

/-! Trees of words that are choices for each other, where the order of the words counts. -/
namespace ScriptLint.Regex

/-- A place in the tree. Where a word ends, later words go on in a new branch. -/
structure WordNode where
  /-- Sizes of the branches before the current one. -/
  closed : List Nat
  /-- Bytes that lead on in the current branch, with the numbers of nodes. -/
  branch : List (Nat × Nat)
  deriving Repr

namespace WordNode

def isLeaf (n : WordNode) : Bool := n.branch.isEmpty && n.closed.all fun size => size == 0

def endWord (n : WordNode) : WordNode :=
  if n.isLeaf && !n.closed.isEmpty then n else ⟨n.branch.length :: n.closed, []⟩

/-- Lays out what leads on: each branch is a state, and a fork chooses among them and the ends of
words. -/
def layOut (n : WordNode) (l : Layout) : Layout :=
  if n.isLeaf then l
  else
    let sizes := (n.branch.length :: n.closed).filter fun size => size != 0
    let l := sizes.foldl (fun l size => if size = 1 then l.addState else l.addRanges size) l
    let choices := sizes.length + n.closed.length
    if choices = 1 then l else l.addState.link choices

end WordNode

abbrev WordTree := Array WordNode

namespace WordTree

def insertAt (node : Nat) (t : WordTree) : List Nat → WordTree
  | [] => t.modify node WordNode.endWord
  | b :: bs =>
    match ((t[node]?).bind fun n => n.branch.lookup b) with
    | some next => insertAt next t bs
    | none =>
      let next := t.size
      let t := t.modify node fun n => { n with branch := (b, next) :: n.branch }
      insertAt next (t.push ⟨[], []⟩) bs

def ofWords (words : List (List Nat)) : WordTree := words.foldl (insertAt 0) #[⟨[], []⟩]

/-- The layout of a tree: one state for the end of all words, and the nodes. -/
def layOut (t : WordTree) (l : Layout) : Layout := t.foldl (fun l n => n.layOut l) l.addState

end WordTree

end ScriptLint.Regex
