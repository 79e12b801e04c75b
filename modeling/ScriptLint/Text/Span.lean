/-! A span is the stretch of a text between two byte offsets. -/
namespace ScriptLint

structure Span where
  start : Nat
  stop : Nat
  deriving DecidableEq, Repr, Inhabited

namespace Span

def empty (offset : Nat) : Span := ⟨offset, offset⟩

def sized (start length : Nat) : Span := ⟨start, start + length⟩

def isEmpty (s : Span) : Bool := s.start == s.stop

def isOrdered (s : Span) : Bool := s.start ≤ s.stop

/-- Whether `inner` lies inside `outer`; touching ends count as inside. -/
def contains (outer inner : Span) : Bool :=
  decide (outer.start ≤ inner.start) && decide (inner.stop ≤ outer.stop)

def render (s : Span) : String := s!"{s.start}..{s.stop}"

end Span

end ScriptLint
