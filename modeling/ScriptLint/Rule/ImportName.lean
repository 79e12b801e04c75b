import ScriptLint.Casing
import ScriptLint.ModuleRequest
import ScriptLint.Refactor.Rename
import ScriptLint.Regex.Whole
import ScriptLint.Rule.Basic

/-! Default and namespace imports are named after the module they import. -/
namespace ScriptLint

def SourceFile.renameFix? (f : SourceFile) (v : VariableId) (actual expected : String) :
    Option Fix :=
  (f.rename? v expected).map fun patch => .safe patch s!"Rename \"{actual}\" to \"{expected}\"."

namespace ImportName

inductive DefaultCase where
  | camel
  | pascal
  /-- Either; camel case is proposed. -/
  | any
  deriving DecidableEq, Repr

structure Mapping where
  pattern : WholePattern
  name : String

structure Options where
  defaultCase : DefaultCase
  mappings : List Mapping
  casing : Casing

namespace Options

def default : Options := ⟨.any, [], .default⟩

def defaultCase? : Json → Option DefaultCase :=
  Json.choice? [("camel", .camel), ("pascal", .pascal), ("any", .any)]

def mapping? (v : Json) : Option Mapping := do
  match ← v.record? [("pattern", .required), ("name", .required)] with
  | [some pattern, some name] => return ⟨← pattern.str?.bind WholePattern.parse?, ← name.str?⟩
  | _ => none

def casing? (v : Json) : Option Casing := v.strings?.bind Casing.ofPatterns?

def decode? (v : Json) : Option Options := do
  match ← v.record? [("default", .defaulted), ("mapping", .defaulted),
      ("acronyms", .defaulted)] with
  | [defaultCase, mapping, acronyms] =>
    return ⟨← Json.orDefault? defaultCase? .any defaultCase,
      ← Json.orDefault? (Json.list? mapping?) [] mapping,
      ← Json.orDefault? casing? .default acronyms⟩
  | _ => none

end Options

/-- Bindings of a whole module: the identifier, and whether it binds the namespace. -/
def bindings (t : Tree) (id : NodeId) : List (NodeId × Bool) :=
  match t.kind id with
  | .importDeclaration specifiers _ =>
    specifiers.filterMap fun specifier =>
      match t.kind specifier with
      | .importDefaultSpecifier binding => some (binding, false)
      | .importNamespaceSpecifier binding => some (binding, true)
      | _ => none
  | .variableDeclarator target _ =>
    if (t.identifierName? target).isSome then [(target, false)] else []
  | _ => []

def nameOfModule? (o : Options) (s : Source) (specifier : Text) (isNamespace : Bool)
    (actual : Text) : Option Text :=
  if !isRelativeSpecifier specifier then none
  else
    (s.resolveSpecifier specifier).moduleBaseName?.map fun base =>
      let camel := o.casing.convert base .camel
      let pascal := o.casing.convert base .pascal
      if isNamespace then pascal
      else match o.defaultCase with
        | .camel => camel
        | .pascal => pascal
        | .any => if actual = pascal then pascal else camel

/-- The name that a binding should have; the first mapping whose pattern matches decides. -/
def expected? (o : Options) (s : Source) (specifier : Text) (isNamespace : Bool) (actual : Text) :
    Option Text :=
  let mapped := o.mappings.findSome? fun m =>
    (m.pattern.match? specifier).map fun found => found.substitute m.name.toList
  mapped.or (nameOfModule? o s specifier isNamespace actual)

def checkBinding (o : Options) (f : SourceFile) (specifier : String) (identifier : NodeId)
    (isNamespace : Bool) : Option Finding := do
  let actual ← f.tree.identifierName? identifier
  let expected := String.ofList
    (← expected? o f.toSource specifier.toList isNamespace actual.toList)
  if actual = expected || !isValidIdentifier expected then none
  else
    return ⟨f.tree.span identifier,
      s!"Expected \"{actual}\" to be named \"{expected}\" after \"{specifier}\".",
      (f.scopes.binding? identifier).bind fun v => f.renameFix? v actual expected⟩

def checkNode (o : Options) (f : SourceFile) (id : NodeId) : List Finding :=
  match f.tree.moduleRequest? id with
  | some request =>
    (bindings f.tree id).filterMap fun b => checkBinding o f request.specifier b.1 b.2
  | none => []

def check (o : Options) (_ : FileSystem) (f : SourceFile) : List Finding :=
  f.tree.preorder.flatMap (checkNode o f)

def rule : Rule :=
  .of ⟨"JS-STYLE-NAME-001", "import-name-from-path",
      "Default and namespace imports are named after the imported module.", true⟩
    (Schema.object [("default", Schema.enum ["camel", "pascal", "any"]),
      ("mapping", Schema.array (Schema.object
        [("pattern", Schema.type "string"), ("name", Schema.type "string")] ["pattern", "name"])),
      ("acronyms", Schema.strings)])
    .default Options.decode? check

end ImportName

end ScriptLint
