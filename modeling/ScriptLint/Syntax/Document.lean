import ScriptLint.Json.Basic
import ScriptLint.Text.Units
import ScriptLint.Syntax.Tree

/-! Reading one node of a syntax document: its span, its attributes and which of its members are
its children. What becomes of a child is left open, so that one table of node types serves to list
the children and to convert them. Documents follow the ESTree format, with offsets in UTF-16
units. -/
namespace ScriptLint

inductive LoadError where
  | json
  | notAProgram (found : String)
  | notANode
  | missingField (node field : String)
  | badRange (node : String)
  | tree (cause : TreeError)
  deriving DecidableEq, Repr

def LoadError.message : LoadError → Option String
  | json => none
  | notAProgram found => s!"Expected a Program node but found {found}."
  | notANode => "Expected a syntax node object."
  | missingField node field => s!"{node} node is missing the `{field}` field."
  | badRange node => s!"{node} node has no usable range."
  | tree cause => s!"Syntax tree is inconsistent: {cause.message}"

/-- A value together with where it stands: the numbers of the items and members that lead to it, the
innermost first. -/
structure Cell where
  address : List Nat
  value : Json

def Cell.under (c : Cell) (address : List Nat) : Cell := ⟨c.address ++ address, c.value⟩

namespace Document

open Json

def typeOf (o : Object) : String := ((o.get? "type").bind Json.str?).getD "Unknown"

def flag (o : Object) (name : String) : Bool := ((o.get? name).bind Json.bool?).getD false

def text? (o : Object) (name : String) : Option String := (o.get? name).bind Json.str?

def field (o : Object) (ty name : String) : Except LoadError Json :=
  match o.get? name with
  | some v => .ok v
  | none => .error (.missingField ty name)

def required (o : Object) (ty name : String) : Except LoadError Json := do
  let v ← field o ty name
  if v.isNull then .error (.missingField ty name) else .ok v

def items (o : Object) (ty name : String) : Except LoadError (List Json) := do
  match ← field o ty name with
  | .arr vs => .ok vs
  | _ => .error (.missingField ty name)

def text (o : Object) (ty name : String) : Except LoadError String :=
  match text? o name with
  | some s => .ok s
  | none => .error (.missingField ty name)

/-- The offsets of a node, from its `range` or else from `start` and `end`. -/
def offsets? (o : Object) : Option (Nat × Nat) :=
  match o.get? "range" with
  | some (.arr [a, b]) => do return (← a.nat?, ← b.nat?)
  | _ => do return (← (← o.get? "start").nat?, ← (← o.get? "end").nat?)

def span? (t : Text) (o : Object) : Option Span :=
  (offsets? o).bind fun p => t.spanOfUnits? p.1 p.2

def span (t : Text) (o : Object) (ty : String) : Except LoadError Span :=
  match span? t o with
  | some s => .ok s
  | none => .error (.badRange ty)

/-- A program spans the whole text, whatever its offsets say. -/
def nodeSpan (t : Text) (o : Object) : Except LoadError Span :=
  if typeOf o = "Program" then .ok ⟨0, t.size⟩ else span t o (typeOf o)

def skippedFields : List String :=
  ["type", "range", "loc", "start", "end", "parent", "tokens", "comments", "decorators"]

def isTyped : Json → Bool
  | .obj fields => Object.has fields "type"
  | _ => false

def typedAt (i : Nat) : Json → List Cell
  | .arr vs => (vs.zipIdx.filter fun e => isTyped e.1).map fun (v, j) => ⟨[j, i], v⟩
  | v => if isTyped v then [⟨[i], v⟩] else []

def typedCells (o : Object) : List Cell :=
  (o.zipIdx.filter fun e => !skippedFields.contains e.1.1).flatMap fun (f, i) => typedAt i f.2

def sourceTypeOf (o : Object) : SourceType :=
  if text? o "sourceType" = some "module" then .esModule else .script

def declarationKindOf (o : Object) : DeclarationKind :=
  match text? o "kind" with
  | some "var" => .varDecl
  | some "let" => .letDecl
  | _ => .constDecl

def methodKindOf (o : Object) : MethodKind :=
  match text? o "kind" with
  | some "constructor" => .constructor
  | some "get" => .getter
  | some "set" => .setter
  | _ => .method

def propertyKindOf (o : Object) : PropertyKind :=
  match text? o "kind" with
  | some "get" => .getter
  | some "set" => .setter
  | _ => .init

/-- The value of a literal. Values that JSON cannot hold have members of their own. -/
def literalOf (o : Object) : LiteralValue :=
  match (o.get? "regex").bind Json.obj? with
  | some r => .regex ((text? r "pattern").getD "") ((text? r "flags").getD "")
  | none =>
    match text? o "bigint" with
    | some digits => .bigint digits
    | none =>
      match o.get? "value" with
      | some (.str s) => .string s
      | some (.num n) => .number n.bits
      | some (.bool b) => .boolean b
      | _ => .null

def rawOf (o : Object) : String :=
  (((o.get? "value").bind fun v => v.get? "raw").bind Json.str?).getD ""

def slot (o : Object) (name : String) : List Nat := [o.findIdx fun f => name == f.1]

/-- An object that is read as a node of type `ty`. What becomes of a child is said by `node`. -/
structure Reading (m : Type → Type) (α : Type) where
  node : Cell → m α
  object : Object
  ty : String

namespace Reading

variable {m : Type → Type} [Monad m] [MonadLiftT (Except LoadError) m] {α : Type}
  (r : Reading m α) (name : String)

def flag : Bool := Document.flag r.object name

def text : m String := liftM (Document.text r.object r.ty name)

def child : m α := do
  r.node ⟨slot r.object name, ← required r.object r.ty name⟩

def optional : m (Option α) :=
  match r.object.get? name with
  | none | some .null => return none
  | some v => some <$> r.node ⟨slot r.object name, v⟩

def nodes : m (List α) := do
  (← items r.object r.ty name).zipIdx.mapM fun (v, i) => r.node ⟨i :: slot r.object name, v⟩

def holes : m (List (Option α)) := do
  (← items r.object r.ty name).zipIdx.mapM fun (v, i) =>
    if v.isNull then return none else some <$> r.node ⟨i :: slot r.object name, v⟩

/-- A shorthand property has no key of its own. -/
def key : m (Option α) :=
  if r.flag "shorthand" then return none else some <$> r.child "key"

/-- Two members that a parser emits as separate objects, also where both are one place in the
source. In that case only the first is a child. -/
def sharedPair (t : Text) (first second : String) : m (α × Option α) := do
  let a ← r.child first
  let place (v : Json) := v.obj?.bind (span? t)
  let v ← field r.object r.ty first
  let w ← field r.object r.ty second
  if (place v).isSome && place v == place w then return (a, none)
  else return (a, some (← r.node ⟨slot r.object second, w⟩))

def functionShape : m (FunctionShape α) :=
  return ⟨← r.optional "id", ← r.nodes "params", ← r.child "body", r.flag "async",
    r.flag "generator"⟩

def classShape : m (ClassShape α) :=
  return ⟨← r.optional "id", ← r.optional "superClass", ← r.child "body"⟩

/-- The kind of the node. Members are read in the order in which they stand here, and the first that
cannot be used is the error. -/
def kind (t : Text) : m (NodeKind α) :=
  match r.ty with
  | "Program" => return .program (← r.nodes "body") (sourceTypeOf r.object)
  | "ExpressionStatement" =>
    return .expressionStatement (← r.child "expression") (text? r.object "directive")
  | "BlockStatement" => return .blockStatement (← r.nodes "body")
  | "StaticBlock" => return .staticBlock (← r.nodes "body")
  | "EmptyStatement" => return .emptyStatement
  | "DebuggerStatement" => return .debuggerStatement
  | "ReturnStatement" => return .returnStatement (← r.optional "argument")
  | "IfStatement" =>
    return .ifStatement (← r.child "test") (← r.child "consequent") (← r.optional "alternate")
  | "ForStatement" =>
    return .forStatement (← r.optional "init") (← r.optional "test") (← r.optional "update")
      (← r.child "body")
  | "ForInStatement" =>
    return .forInStatement (← r.child "left") (← r.child "right") (← r.child "body")
  | "ForOfStatement" =>
    return .forOfStatement (← r.child "left") (← r.child "right") (← r.child "body")
      (r.flag "await")
  | "WhileStatement" => return .whileStatement (← r.child "test") (← r.child "body")
  | "DoWhileStatement" => return .doWhileStatement (← r.child "body") (← r.child "test")
  | "TryStatement" =>
    return .tryStatement (← r.child "block") (← r.optional "handler") (← r.optional "finalizer")
  | "CatchClause" => return .catchClause (← r.optional "param") (← r.child "body")
  | "ThrowStatement" => return .throwStatement (← r.child "argument")
  | "SwitchStatement" => return .switchStatement (← r.child "discriminant") (← r.nodes "cases")
  | "SwitchCase" => return .switchCase (← r.optional "test") (← r.nodes "consequent")
  | "BreakStatement" => return .breakStatement (← r.optional "label")
  | "ContinueStatement" => return .continueStatement (← r.optional "label")
  | "LabeledStatement" => return .labeledStatement (← r.child "label") (← r.child "body")
  | "VariableDeclaration" =>
    return .variableDeclaration (declarationKindOf r.object) (← r.nodes "declarations")
  | "VariableDeclarator" => return .variableDeclarator (← r.child "id") (← r.optional "init")
  | "FunctionDeclaration" => return .functionDeclaration (← r.functionShape)
  | "ClassDeclaration" => return .classDeclaration (← r.classShape)
  | "ClassBody" => return .classBody (← r.nodes "body")
  | "MethodDefinition" =>
    return .methodDefinition (← r.child "key") (← r.child "value") (methodKindOf r.object)
      (r.flag "computed") (r.flag "static")
  | "PropertyDefinition" | "ClassProperty" =>
    return .propertyDefinition (← r.child "key") (← r.optional "value") (r.flag "computed")
      (r.flag "static")
  | "ImportDeclaration" => return .importDeclaration (← r.nodes "specifiers") (← r.child "source")
  | "ImportDefaultSpecifier" => return .importDefaultSpecifier (← r.child "local")
  | "ImportNamespaceSpecifier" => return .importNamespaceSpecifier (← r.child "local")
  | "ImportSpecifier" => do
    let (imported, renamed) ← r.sharedPair t "imported" "local"
    return .importSpecifier imported renamed
  | "ExportNamedDeclaration" =>
    return .exportNamedDeclaration (← r.optional "declaration") (← r.nodes "specifiers")
      (← r.optional "source")
  | "ExportDefaultDeclaration" => return .exportDefaultDeclaration (← r.child "declaration")
  | "ExportAllDeclaration" =>
    return .exportAllDeclaration (← r.optional "exported") (← r.child "source")
  | "ExportSpecifier" => do
    let (binding, renamed) ← r.sharedPair t "local" "exported"
    return .exportSpecifier binding renamed
  | "Identifier" =>
    return .identifier (← r.text "name") (← r.optional "typeAnnotation") (r.flag "optional")
  | "PrivateIdentifier" => return .privateIdentifier (← r.text "name")
  | "JSXIdentifier" => return .jsxIdentifier (← r.text "name")
  | "Literal" => return .literal (literalOf r.object) ((text? r.object "raw").getD "")
  | "TemplateLiteral" => return .templateLiteral (← r.nodes "quasis") (← r.nodes "expressions")
  | "TemplateElement" => return .templateElement (rawOf r.object) (r.flag "tail")
  | "TaggedTemplateExpression" => return .taggedTemplate (← r.child "tag") (← r.child "quasi")
  | "ThisExpression" => return .thisExpression
  | "Super" => return .superReference
  | "ArrayExpression" => return .arrayExpression (← r.holes "elements")
  | "ObjectExpression" => return .objectExpression (← r.nodes "properties")
  | "Property" =>
    return .property (← r.child "value") (← r.key) (propertyKindOf r.object)
      (r.flag "computed") (r.flag "method")
  | "SpreadElement" => return .spreadElement (← r.child "argument")
  | "FunctionExpression" => return .functionExpression (← r.functionShape)
  | "ArrowFunctionExpression" => return .arrowFunction (← r.functionShape)
  | "ClassExpression" => return .classExpression (← r.classShape)
  | "UnaryExpression" => return .unaryExpression (← r.text "operator") (← r.child "argument")
  | "UpdateExpression" =>
    return .updateExpression (← r.text "operator") (r.flag "prefix") (← r.child "argument")
  | "BinaryExpression" =>
    return .binaryExpression (← r.text "operator") (← r.child "left") (← r.child "right")
  | "LogicalExpression" =>
    return .logicalExpression (← r.text "operator") (← r.child "left") (← r.child "right")
  | "AssignmentExpression" =>
    return .assignmentExpression (← r.text "operator") (← r.child "left") (← r.child "right")
  | "ConditionalExpression" =>
    return .conditionalExpression (← r.child "test") (← r.child "consequent")
      (← r.child "alternate")
  | "CallExpression" =>
    return .callExpression (← r.child "callee") (← r.nodes "arguments") (r.flag "optional")
  | "NewExpression" => return .newExpression (← r.child "callee") (← r.nodes "arguments")
  | "MemberExpression" =>
    return .memberExpression (← r.child "object") (← r.child "property") (r.flag "computed")
      (r.flag "optional")
  | "ChainExpression" => return .chainExpression (← r.child "expression")
  | "SequenceExpression" => return .sequenceExpression (← r.nodes "expressions")
  | "AwaitExpression" => return .awaitExpression (← r.child "argument")
  | "YieldExpression" => return .yieldExpression (← r.optional "argument") (r.flag "delegate")
  | "ImportExpression" => return .importExpression (← r.child "source")
  | "MetaProperty" => return .metaProperty (← r.child "meta") (← r.child "property")
  | "ObjectPattern" => return .objectPattern (← r.nodes "properties")
  | "ArrayPattern" => return .arrayPattern (← r.holes "elements")
  | "RestElement" => return .restElement (← r.child "argument")
  | "AssignmentPattern" => return .assignmentPattern (← r.child "left") (← r.child "right")
  | _ => return .other r.ty (← (typedCells r.object).mapM r.node)

end Reading

def checked (c : Cell) : Except LoadError Cell :=
  match c.value with
  | .obj _ => .ok c
  | _ => .error .notANode

def cells (t : Text) (o : Object) (ty : String) : Except LoadError (NodeKind Cell) :=
  Reading.kind ⟨checked, o, ty⟩ t

def kind (t : Text) (o : Object) (ty : String) : Except LoadError (NodeKind Json) :=
  NodeKind.map Cell.value <$> cells t o ty

end Document

end ScriptLint
