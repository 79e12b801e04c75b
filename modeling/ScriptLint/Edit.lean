import ScriptLint.Text.Span
import ScriptLint.Text.Basic

/-! An edit replaces one span of a text. -/
namespace ScriptLint

structure Edit where
  span : Span
  replacement : String
  deriving DecidableEq, Repr

namespace Edit

def insert (offset : Nat) (text : String) : Edit := ⟨Span.empty offset, text⟩

def delete (span : Span) : Edit := ⟨span, ""⟩

/-- Whether two edits cannot be applied together. Two edits with one start conflict even if both
are insertions, because their order would be ambiguous. -/
def conflictsWith (a b : Edit) : Bool :=
  a.span.start == b.span.start ||
    (decide (a.span.start < b.span.stop) && decide (b.span.start < a.span.stop))

def le (a b : Edit) : Bool :=
  a.span.start < b.span.start || (a.span.start == b.span.start && a.span.stop ≤ b.span.stop)

theorem conflictsWith_comm (a b : Edit) : a.conflictsWith b = b.conflictsWith a := by
  simp only [conflictsWith, Bool.and_comm (decide (a.span.start < b.span.stop)),
    Bool.beq_eq_decide_eq, eq_comm (a := a.span.start)]

end Edit

end ScriptLint
