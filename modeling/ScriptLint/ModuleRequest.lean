import ScriptLint.Edit
import ScriptLint.Files.ModulePath
import ScriptLint.Patch
import ScriptLint.Syntax.Source

/-! Where a file asks for other modules. -/
namespace ScriptLint

structure ModuleRequest where
  /-- The import, export or declarator that makes the request. -/
  statement : NodeId
  /-- The string that names the module. -/
  literal : NodeId
  specifier : String
  deriving DecidableEq, Repr

namespace Tree

def requireArgument? (t : Tree) (call : NodeId) : Option NodeId :=
  match t.kind call with
  | .callExpression callee [argument] false =>
    if t.identifierName? callee = some "require" && (t.stringValue? argument).isSome then
      some argument
    else none
  | _ => none

def moduleRequest? (t : Tree) (id : NodeId) : Option ModuleRequest := do
  let literal ← match t.kind id with
    | .importDeclaration _ source | .exportAllDeclaration _ source
    | .exportNamedDeclaration _ _ (some source) => some source
    | .variableDeclarator _ (some init) => t.requireArgument? init
    | _ => none
  let specifier ← t.stringValue? literal
  return ⟨id, literal, specifier⟩

/-- Span of the name in an identifier, without a type that may follow it. -/
def nameSpan (t : Tree) (id : NodeId) : Span :=
  match t.identifierName? id with
  | some name => .sized (t.span id).start name.utf8ByteSize
  | none => t.span id

end Tree

namespace Source

def directory (s : Source) : Path := (Path.ofString s.path).parent?.getD Path.empty

def resolveSpecifier (s : Source) (specifier : Text) : Path :=
  (s.directory.join ⟨specifier⟩).normalize

def replaceString (s : Source) (literal : NodeId) (value : Text) : Patch :=
  let quote := (s.nodeText literal).head?.getD '\''
  .single ⟨s.tree.span literal, String.ofList (quote :: value ++ [quote])⟩

end Source

end ScriptLint
