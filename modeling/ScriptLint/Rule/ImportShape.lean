import ScriptLint.Rule.ImportName

/-! Imports of certain modules take certain bindings. -/
namespace ScriptLint.ImportShape

inductive Requirement where
  | present
  | absent
  /-- The binding is there under a name, which may use groups of the pattern. -/
  | named (template : String)
  deriving DecidableEq, Repr

structure ShapeRule where
  pattern : WholePattern
  defaultBinding : Option Requirement
  namespaceBinding : Option Requirement
  /-- Names that may be imported; `none` if all may. -/
  named : Option (List String)
  /-- Whether named imports may be renamed. -/
  mayRename : Bool
  case : Option Case

abbrev Options := List ShapeRule

namespace Options

def requirement? : Json → Option Requirement
  | .bool true => some .present
  | .bool false => some .absent
  | .str s => some (.named s)
  | _ => none

def case? : Json → Option Case := Json.choice? (Case.all.map fun c => (c.name, c))

def shapeRule? (v : Json) : Option ShapeRule := do
  match ← v.record? [("path", .required), ("default", .nullable), ("namespace", .nullable),
      ("named", .nullable), ("renameNamed", .defaulted), ("case", .nullable)] with
  | [some path, default, namespaceBinding, named, renameNamed, case] =>
    return ⟨← path.str?.bind WholePattern.parse?, ← Json.optional? requirement? default,
      ← Json.optional? requirement? namespaceBinding, ← Json.optional? Json.strings? named,
      ← Json.orDefault? Json.bool? true renameNamed, ← Json.optional? case? case⟩
  | _ => none

def decode? : Json → Option Options := Json.list? shapeRule?

end Options

structure NamedBinding where
  /-- The specifier or the property of a pattern. -/
  node : NodeId
  imported : String
  identifier : NodeId
  deriving DecidableEq, Repr

structure Shape where
  defaultBinding : Option NodeId := none
  namespaceBinding : Option NodeId := none
  named : List NamedBinding := []
  deriving DecidableEq, Repr

def addSpecifier (t : Tree) (shape : Shape) (specifier : NodeId) : Option Shape :=
  match t.kind specifier with
  | .importDefaultSpecifier binding => some { shape with defaultBinding := some binding }
  | .importNamespaceSpecifier binding => some { shape with namespaceBinding := some binding }
  | .importSpecifier imported renamed =>
    ((t.identifierName? imported).or (t.stringValue? imported)).map fun name =>
      { shape with named := shape.named ++ [⟨specifier, name, renamed.getD imported⟩] }
  | _ => some shape

def propertyBinding? (t : Tree) (property : NodeId) : Option NamedBinding :=
  match t.kind property with
  | .property value key _ false _ => do
    let imported ← t.staticKeyName? (t.keyOf value key) false
    let identifier := match t.kind value with
      | .assignmentPattern left _ => left
      | _ => value
    if (t.identifierName? identifier).isSome then some ⟨property, imported, identifier⟩ else none
  | _ => none

/-- The bindings of an import or of a declarator; `none` for an import that binds nothing. -/
def shape? (t : Tree) (id : NodeId) : Option Shape :=
  match t.kind id with
  | .importDeclaration [] _ => none
  | .importDeclaration specifiers _ => specifiers.foldlM (addSpecifier t) {}
  | .variableDeclarator target _ =>
    match t.kind target with
    | .identifier .. => some { defaultBinding := some target }
    | .objectPattern properties => some { named := properties.filterMap (propertyBinding? t) }
    | _ => none
  | _ => none

def checkBinding (f : SourceFile) (statement : NodeId) (specifier label : String)
    (binding : Option NodeId) (requirement : Option Requirement) (nameOf : String → String) :
    Option Finding :=
  match requirement, binding with
  | some .absent, some identifier =>
    some ⟨f.tree.span identifier, s!"Unexpected {label} import from \"{specifier}\".", none⟩
  | some .present, none | some (.named _), none =>
    some ⟨f.tree.span statement, s!"Expected a {label} import from \"{specifier}\".", none⟩
  | some (.named template), some identifier => do
    let actual ← f.tree.identifierName? identifier
    let expected := nameOf template
    if actual = expected then none
    else
      return ⟨f.tree.span identifier, s!"Expected the {label} import to be \"{expected}\".",
        (f.scopes.binding? identifier).bind fun v => f.renameFix? v actual expected⟩
  | _, _ => none

/-- Gives a binding the name it is imported by. The edit at the binding itself is widened to the
whole specifier. -/
def unrename? (f : SourceFile) (b : NamedBinding) : Option Patch := do
  let v ← f.scopes.binding? b.identifier
  let patch ← f.rename? v b.imported
  let name := f.tree.nameSpan b.identifier
  let others := patch.edits.filter fun e => e.span.start != name.start
  let whole : Edit := ⟨⟨(f.tree.span b.node).start, name.stop⟩, b.imported⟩
  (Patch.ofEdits (others ++ [whole])).toOption

def checkNamed (f : SourceFile) (r : ShapeRule) (specifier : String) (b : NamedBinding) :
    Option Finding :=
  if r.named.any fun allowed => !allowed.contains b.imported then
    some ⟨f.tree.span b.node, s!"Unexpected named import \"{b.imported}\" from \"{specifier}\".",
      none⟩
  else if !r.mayRename && f.tree.identifierName? b.identifier != some b.imported then
    some ⟨f.tree.span b.node, s!"Do not rename the named import \"{b.imported}\".",
      (unrename? f b).map fun patch => .safe patch s!"Import \"{b.imported}\" under its own name."⟩
  else none

def checkShape (f : SourceFile) (r : ShapeRule) (found : Match) (request : ModuleRequest)
    (shape : Shape) : List Finding :=
  let nameOf (template : String) : String :=
    let name := found.substitute template.toList
    String.ofList (match r.case with
      | some case => Casing.default.convert name case
      | none => name)
  let check (label : String) (b : Option NodeId) (req : Option Requirement) : List Finding :=
    (checkBinding f request.statement request.specifier label b req nameOf).toList
  check "default" shape.defaultBinding r.defaultBinding ++
    check "namespace" shape.namespaceBinding r.namespaceBinding ++
    shape.named.filterMap (checkNamed f r request.specifier)

/-- The first rule whose pattern matches decides. -/
def checkNode (o : Options) (f : SourceFile) (id : NodeId) : List Finding :=
  match f.tree.moduleRequest? id with
  | none => []
  | some request =>
    let found := o.findSome? fun r =>
      (r.pattern.match? request.specifier.toList).map fun m => (r, m)
    match found, shape? f.tree id with
    | some (r, m), some shape => checkShape f r m request shape
    | _, _ => []

def check (o : Options) (_ : FileSystem) (f : SourceFile) : List Finding :=
  f.tree.preorder.flatMap (checkNode o f)

def rule : Rule :=
  let requirement : Json := .mk [("oneOf", .arr [Schema.type "boolean", Schema.type "string"])]
  .of ⟨"JS-STYLE-IMPORT-001", "import-shape",
      "Imports of configured modules use the required bindings.", true⟩
    (Schema.array (Schema.object
      [("path", Schema.type "string"), ("default", requirement), ("namespace", requirement),
        ("named", Schema.strings), ("renameNamed", Schema.type "boolean"),
        ("case", Schema.enum (Case.all.map Case.name))] ["path"]))
    ([] : Options) Options.decode? check

end ScriptLint.ImportShape
