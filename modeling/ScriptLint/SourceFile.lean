import ScriptLint.Scope.Build
import ScriptLint.Syntax.Source

/-! A source file together with its scopes. -/
namespace ScriptLint

structure SourceFile extends Source where
  scopes : ScopeGraph
  deriving Repr

def SourceFile.ofSource (s : Source) : SourceFile := ⟨s, ScopeGraph.ofTree s.tree⟩

end ScriptLint
