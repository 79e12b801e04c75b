import ScriptLint.Rule.ImportName

/-! A default export that has a name is named after its file. -/
namespace ScriptLint.ExportName

structure Options where
  casing : Casing

namespace Options

def default : Options := ⟨.default⟩

def decode? (v : Json) : Option Options := do
  match ← v.record? [("acronyms", .defaulted)] with
  | [acronyms] => return ⟨← Json.orDefault? ImportName.Options.casing? .default acronyms⟩
  | _ => none

end Options

/-- What is exported by name: the identifier to report, the variable, and the case of its name. -/
structure Export where
  identifier : NodeId
  bound : Option VariableId
  case : Case

def exported? (f : SourceFile) (declaration : NodeId) : Option Export :=
  match f.tree.kind declaration with
  | .functionDeclaration fn | .functionExpression fn =>
    fn.id.map fun id => ⟨id, f.scopes.binding? id, .camel⟩
  | .classDeclaration cls | .classExpression cls =>
    cls.id.map fun id => ⟨id, f.scopes.binding? id, .pascal⟩
  | .identifier .. => do
    let v ← (← f.scopes.referenceAt? declaration).resolved
    match (← f.scopes.varAt? v).kind with
    | .importBinding => none
    | .classBinding => return ⟨declaration, some v, .pascal⟩
    | _ => return ⟨declaration, some v, .camel⟩
  | _ => none

def checkNode (o : Options) (f : SourceFile) (id : NodeId) : Option Finding :=
  match f.tree.kind id with
  | .exportDefaultDeclaration declaration => do
    let e ← exported? f declaration
    let actual ← f.tree.identifierName? e.identifier
    let base ← (Path.ofString f.path).moduleBaseName?
    let expected := String.ofList (o.casing.convert base e.case)
    if actual = expected || !isValidIdentifier expected then none
    else
      return ⟨f.tree.span e.identifier,
        s!"Expected the default export \"{actual}\" to be named \"{expected}\" after its file.",
        e.bound.bind fun v => f.renameFix? v actual expected⟩
  | _ => none

def check (o : Options) (_ : FileSystem) (f : SourceFile) : List Finding :=
  f.tree.preorder.filterMap (checkNode o f)

def rule : Rule :=
  .of ⟨"JS-STYLE-NAME-002", "export-name-from-file", "Named default exports match the file name.",
      true⟩
    (Schema.object [("acronyms", Schema.strings)])
    .default Options.decode? check

end ScriptLint.ExportName
