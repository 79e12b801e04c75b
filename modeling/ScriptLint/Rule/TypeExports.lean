import ScriptLint.ModuleRequest
import ScriptLint.Rule.Basic
import ScriptLint.TypeDefinition

/-! What is imported from a package has to be exported by its type declarations. -/
namespace ScriptLint.TypeExports

def checkSpecifier (t : Tree) (d : TypeDefinition) (package : String) (isAlone : Bool)
    (id : NodeId) : Option Finding :=
  match t.kind id with
  | .importDefaultSpecifier binding =>
    if d.hasDefault || d.exportEquals then none
    else
      let fix := if isAlone then
          (t.identifierName? binding).map fun name =>
            Fix.suggestion (.single ⟨t.span id, s!"* as {name}"⟩)
              s!"Import \"{package}\" as a namespace."
        else none
      some ⟨t.span id, s!"\"{package}\" has no default export in its type declarations.", fix⟩
  | .importSpecifier imported _ => do
    let name ← (t.identifierName? imported).or (t.stringValue? imported)
    if name = "default" || d.exports? name != some false then none
    else
      return ⟨t.span imported,
        s!"\"{name}\" is not exported by the type declarations of \"{package}\".", none⟩
  | _ => none

def checkNode (files : FileSystem) (f : SourceFile) (id : NodeId) : Cached (List Finding) :=
  match f.tree.kind id with
  | .importDeclaration specifiers source =>
    match f.tree.stringValue? source with
    | some package => do
      if specifiers.isEmpty || (splitPackage? package.toList).isNone then return []
      match ← Cached.declarations files package.toList f.directory with
      | some d =>
        return specifiers.filterMap (checkSpecifier f.tree d package (specifiers.length == 1))
      | none => return []
    | none => return []
  | _ => return []

/-- Declarations are looked up for one import after the other, each time with what has been asked
before in mind. -/
def check (_ : Unit) (files : FileSystem) (f : SourceFile) : Cached (List Finding) := do
  return (← f.tree.preorder.mapM (checkNode files f)).flatten

def rule : Rule :=
  .ofCached ⟨"JS-STYLE-IMPORT-002", "import-type-exports",
      "Imports of packages match the exports of their type declarations.", true⟩
    (Schema.object []) () noOptions? check

end ScriptLint.TypeExports
