import ScriptLint.Patch

/-! Diagnostics: what a rule reports about a place in a file, and how it could be mended. -/
namespace ScriptLint

inductive FixKind where
  /-- Keeps what the program does; a fix run applies it. -/
  | safe
  /-- Might change what the program does; shown and never applied. -/
  | suggestion
  deriving DecidableEq, Repr

structure Fix where
  kind : FixKind
  patch : Patch
  description : String
  deriving DecidableEq, Repr

namespace Fix

def safe (patch : Patch) (description : String) : Fix := ⟨.safe, patch, description⟩

def suggestion (patch : Patch) (description : String) : Fix := ⟨.suggestion, patch, description⟩

def checked (isSafe : Bool) (patch : Patch) (description : String) : Fix :=
  ⟨if isSafe then .safe else .suggestion, patch, description⟩

end Fix

structure Diagnostic where
  rule : String
  span : Span
  line : Nat
  column : Nat
  message : String
  fix : Option Fix
  deriving DecidableEq, Repr

namespace Diagnostic

/-- Whether neither the span nor an edit of the fix ends before it starts. -/
def isOrdered (d : Diagnostic) : Bool :=
  d.span.isOrdered && d.fix.all fun f => f.patch.edits.all fun e => e.span.isOrdered

def safePatch? (d : Diagnostic) : Option Patch :=
  match d.fix with
  | some ⟨.safe, patch, _⟩ => some patch
  | _ => none

def isFixable (d : Diagnostic) : Bool := d.safePatch?.isSome

def render (d : Diagnostic) (path : String) : String :=
  let suffix := match d.fix.map Fix.kind with
    | some .safe => " (fixable)"
    | some .suggestion => " (suggestion)"
    | none => ""
  s!"{path}:{d.line}:{d.column}: [{d.rule}] {d.message}{suffix}"

end Diagnostic

end ScriptLint
