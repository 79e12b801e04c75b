import ScriptLint.Text.Span

/-! Kinds of syntax nodes, over any type of children: documents while a tree is being read, node
numbers once it is built. Node types that no rule inspects share one kind. -/
namespace ScriptLint

inductive SourceType where
  | script
  | esModule
  deriving DecidableEq, Repr

inductive DeclarationKind where
  | varDecl
  | letDecl
  | constDecl
  deriving DecidableEq, Repr

def DeclarationKind.keyword : DeclarationKind → String
  | varDecl => "var"
  | letDecl => "let"
  | constDecl => "const"

inductive PropertyKind where
  | init
  | getter
  | setter
  deriving DecidableEq, Repr

inductive MethodKind where
  | constructor
  | method
  | getter
  | setter
  deriving DecidableEq, Repr

inductive LiteralValue where
  | string (value : String)
  /-- A number, by the bits of its binary64 value. -/
  | number (bits : UInt64)
  | boolean (value : Bool)
  | null
  | regex (pattern flags : String)
  | bigint (digits : String)
  deriving DecidableEq, Repr

/-- What function declarations, function expressions and arrow functions have in common. The body
is a block, or any expression for an arrow function. -/
structure FunctionShape (α : Type) where
  id : Option α
  params : List α
  body : α
  isAsync : Bool
  isGenerator : Bool
  deriving DecidableEq, Repr

structure ClassShape (α : Type) where
  id : Option α
  superClass : Option α
  body : α
  deriving DecidableEq, Repr

inductive NodeKind (α : Type) where
  | program (body : List α) (sourceType : SourceType)
  | expressionStatement (expression : α) (directive : Option String)
  | blockStatement (body : List α)
  | staticBlock (body : List α)
  | emptyStatement
  | debuggerStatement
  | returnStatement (argument : Option α)
  | ifStatement (test : α) (consequent : α) (alternate : Option α)
  | forStatement (init : Option α) (test : Option α) (update : Option α) (body : α)
  | forInStatement (left : α) (right : α) (body : α)
  | forOfStatement (left : α) (right : α) (body : α) (isAwait : Bool)
  | whileStatement (test : α) (body : α)
  | doWhileStatement (body : α) (test : α)
  | tryStatement (block : α) (handler : Option α) (finalizer : Option α)
  | catchClause (param : Option α) (body : α)
  | throwStatement (argument : α)
  | switchStatement (discriminant : α) (cases : List α)
  | switchCase (test : Option α) (consequent : List α)
  | breakStatement (label : Option α)
  | continueStatement (label : Option α)
  | labeledStatement (label : α) (body : α)
  | variableDeclaration (kind : DeclarationKind) (declarations : List α)
  | variableDeclarator (id : α) (init : Option α)
  | functionDeclaration (fn : FunctionShape α)
  | classDeclaration (cls : ClassShape α)
  | classBody (body : List α)
  | methodDefinition (key : α) (value : α) (kind : MethodKind) (computed : Bool) (isStatic : Bool)
  | propertyDefinition (key : α) (value : Option α) (computed : Bool) (isStatic : Bool)
  | importDeclaration (specifiers : List α) (source : α)
  | importDefaultSpecifier (binding : α)
  | importNamespaceSpecifier (binding : α)
  /-- `renamed` is absent where the imported name is also the local one. -/
  | importSpecifier (imported : α) (renamed : Option α)
  | exportNamedDeclaration (declaration : Option α) (specifiers : List α) (source : Option α)
  | exportDefaultDeclaration (declaration : α)
  | exportAllDeclaration (exported : Option α) (source : α)
  /-- `renamed` is absent where the local name is also the exported one. -/
  | exportSpecifier (binding : α) (renamed : Option α)
  | identifier (name : String) (typeAnn : Option α) (optional : Bool)
  | privateIdentifier (name : String)
  | jsxIdentifier (name : String)
  | literal (value : LiteralValue) (raw : String)
  | templateLiteral (quasis : List α) (expressions : List α)
  | templateElement (raw : String) (tail : Bool)
  | taggedTemplate (tag : α) (quasi : α)
  | thisExpression
  | superReference
  | arrayExpression (elements : List (Option α))
  | objectExpression (properties : List α)
  /-- `key` is absent in a shorthand property, whose value is, or begins with, its key. -/
  | property (value : α) (key : Option α) (kind : PropertyKind) (computed : Bool) (method : Bool)
  | spreadElement (argument : α)
  | functionExpression (fn : FunctionShape α)
  | arrowFunction (fn : FunctionShape α)
  | classExpression (cls : ClassShape α)
  | unaryExpression (operator : String) (argument : α)
  | updateExpression (operator : String) (leading : Bool) (argument : α)
  | binaryExpression (operator : String) (left : α) (right : α)
  | logicalExpression (operator : String) (left : α) (right : α)
  | assignmentExpression (operator : String) (left : α) (right : α)
  | conditionalExpression (test : α) (consequent : α) (alternate : α)
  | callExpression (callee : α) (arguments : List α) (optional : Bool)
  | newExpression (callee : α) (arguments : List α)
  | memberExpression (object : α) (member : α) (computed : Bool) (optional : Bool)
  | chainExpression (expression : α)
  | sequenceExpression (expressions : List α)
  | awaitExpression (argument : α)
  | yieldExpression (argument : Option α) (delegate : Bool)
  | importExpression (source : α)
  | metaProperty (object : α) (member : α)
  | objectPattern (properties : List α)
  | arrayPattern (elements : List (Option α))
  | restElement (argument : α)
  | assignmentPattern (left : α) (right : α)
  /-- Any other node type. Its children keep the tree complete. -/
  | other (typeName : String) (children : List α)
  deriving DecidableEq, Repr

variable {α β : Type} {m : Type → Type} [Monad m]

def FunctionShape.traverse (f : α → m β) (s : FunctionShape α) : m (FunctionShape β) :=
  return ⟨← s.id.mapM f, ← s.params.mapM f, ← f s.body, s.isAsync, s.isGenerator⟩

def ClassShape.traverse (f : α → m β) (s : ClassShape α) : m (ClassShape β) :=
  return ⟨← s.id.mapM f, ← s.superClass.mapM f, ← f s.body⟩

namespace NodeKind

def typeName : NodeKind α → String
  | program .. => "Program"
  | expressionStatement .. => "ExpressionStatement"
  | blockStatement .. => "BlockStatement"
  | staticBlock .. => "StaticBlock"
  | emptyStatement => "EmptyStatement"
  | debuggerStatement => "DebuggerStatement"
  | returnStatement .. => "ReturnStatement"
  | ifStatement .. => "IfStatement"
  | forStatement .. => "ForStatement"
  | forInStatement .. => "ForInStatement"
  | forOfStatement .. => "ForOfStatement"
  | whileStatement .. => "WhileStatement"
  | doWhileStatement .. => "DoWhileStatement"
  | tryStatement .. => "TryStatement"
  | catchClause .. => "CatchClause"
  | throwStatement .. => "ThrowStatement"
  | switchStatement .. => "SwitchStatement"
  | switchCase .. => "SwitchCase"
  | breakStatement .. => "BreakStatement"
  | continueStatement .. => "ContinueStatement"
  | labeledStatement .. => "LabeledStatement"
  | variableDeclaration .. => "VariableDeclaration"
  | variableDeclarator .. => "VariableDeclarator"
  | functionDeclaration .. => "FunctionDeclaration"
  | classDeclaration .. => "ClassDeclaration"
  | classBody .. => "ClassBody"
  | methodDefinition .. => "MethodDefinition"
  | propertyDefinition .. => "PropertyDefinition"
  | importDeclaration .. => "ImportDeclaration"
  | importDefaultSpecifier .. => "ImportDefaultSpecifier"
  | importNamespaceSpecifier .. => "ImportNamespaceSpecifier"
  | importSpecifier .. => "ImportSpecifier"
  | exportNamedDeclaration .. => "ExportNamedDeclaration"
  | exportDefaultDeclaration .. => "ExportDefaultDeclaration"
  | exportAllDeclaration .. => "ExportAllDeclaration"
  | exportSpecifier .. => "ExportSpecifier"
  | identifier .. => "Identifier"
  | privateIdentifier .. => "PrivateIdentifier"
  | jsxIdentifier .. => "JSXIdentifier"
  | literal .. => "Literal"
  | templateLiteral .. => "TemplateLiteral"
  | templateElement .. => "TemplateElement"
  | taggedTemplate .. => "TaggedTemplateExpression"
  | thisExpression => "ThisExpression"
  | superReference => "Super"
  | arrayExpression .. => "ArrayExpression"
  | objectExpression .. => "ObjectExpression"
  | property .. => "Property"
  | spreadElement .. => "SpreadElement"
  | functionExpression .. => "FunctionExpression"
  | arrowFunction .. => "ArrowFunctionExpression"
  | classExpression .. => "ClassExpression"
  | unaryExpression .. => "UnaryExpression"
  | updateExpression .. => "UpdateExpression"
  | binaryExpression .. => "BinaryExpression"
  | logicalExpression .. => "LogicalExpression"
  | assignmentExpression .. => "AssignmentExpression"
  | conditionalExpression .. => "ConditionalExpression"
  | callExpression .. => "CallExpression"
  | newExpression .. => "NewExpression"
  | memberExpression .. => "MemberExpression"
  | chainExpression .. => "ChainExpression"
  | sequenceExpression .. => "SequenceExpression"
  | awaitExpression .. => "AwaitExpression"
  | yieldExpression .. => "YieldExpression"
  | importExpression .. => "ImportExpression"
  | metaProperty .. => "MetaProperty"
  | objectPattern .. => "ObjectPattern"
  | arrayPattern .. => "ArrayPattern"
  | restElement .. => "RestElement"
  | assignmentPattern .. => "AssignmentPattern"
  | other typeName _ => typeName

/-- Visits the children in reading order, the order in which the fields of a document are read. -/
def traverse (f : α → m β) : NodeKind α → m (NodeKind β)
  | .program body sourceType => return .program (← body.mapM f) sourceType
  | .expressionStatement expression directive =>
    return .expressionStatement (← f expression) directive
  | .blockStatement body => return .blockStatement (← body.mapM f)
  | .staticBlock body => return .staticBlock (← body.mapM f)
  | .emptyStatement => return .emptyStatement
  | .debuggerStatement => return .debuggerStatement
  | .returnStatement argument => return .returnStatement (← argument.mapM f)
  | .ifStatement test consequent alternate =>
    return .ifStatement (← f test) (← f consequent) (← alternate.mapM f)
  | .forStatement init test update body =>
    return .forStatement (← init.mapM f) (← test.mapM f) (← update.mapM f) (← f body)
  | .forInStatement left right body => return .forInStatement (← f left) (← f right) (← f body)
  | .forOfStatement left right body isAwait =>
    return .forOfStatement (← f left) (← f right) (← f body) isAwait
  | .whileStatement test body => return .whileStatement (← f test) (← f body)
  | .doWhileStatement body test => return .doWhileStatement (← f body) (← f test)
  | .tryStatement block handler finalizer =>
    return .tryStatement (← f block) (← handler.mapM f) (← finalizer.mapM f)
  | .catchClause param body => return .catchClause (← param.mapM f) (← f body)
  | .throwStatement argument => return .throwStatement (← f argument)
  | .switchStatement discriminant cases =>
    return .switchStatement (← f discriminant) (← cases.mapM f)
  | .switchCase test consequent => return .switchCase (← test.mapM f) (← consequent.mapM f)
  | .breakStatement label => return .breakStatement (← label.mapM f)
  | .continueStatement label => return .continueStatement (← label.mapM f)
  | .labeledStatement label body => return .labeledStatement (← f label) (← f body)
  | .variableDeclaration kind declarations =>
    return .variableDeclaration kind (← declarations.mapM f)
  | .variableDeclarator id init => return .variableDeclarator (← f id) (← init.mapM f)
  | .functionDeclaration fn => return .functionDeclaration (← fn.traverse f)
  | .classDeclaration cls => return .classDeclaration (← cls.traverse f)
  | .classBody body => return .classBody (← body.mapM f)
  | .methodDefinition key value kind computed isStatic =>
    return .methodDefinition (← f key) (← f value) kind computed isStatic
  | .propertyDefinition key value computed isStatic =>
    return .propertyDefinition (← f key) (← value.mapM f) computed isStatic
  | .importDeclaration specifiers source =>
    return .importDeclaration (← specifiers.mapM f) (← f source)
  | .importDefaultSpecifier binding => return .importDefaultSpecifier (← f binding)
  | .importNamespaceSpecifier binding => return .importNamespaceSpecifier (← f binding)
  | .importSpecifier imported renamed => return .importSpecifier (← f imported) (← renamed.mapM f)
  | .exportNamedDeclaration declaration specifiers source =>
    return .exportNamedDeclaration (← declaration.mapM f) (← specifiers.mapM f) (← source.mapM f)
  | .exportDefaultDeclaration declaration => return .exportDefaultDeclaration (← f declaration)
  | .exportAllDeclaration exported source =>
    return .exportAllDeclaration (← exported.mapM f) (← f source)
  | .exportSpecifier binding renamed => return .exportSpecifier (← f binding) (← renamed.mapM f)
  | .identifier name typeAnn optional => return .identifier name (← typeAnn.mapM f) optional
  | .privateIdentifier name => return .privateIdentifier name
  | .jsxIdentifier name => return .jsxIdentifier name
  | .literal value raw => return .literal value raw
  | .templateLiteral quasis expressions =>
    return .templateLiteral (← quasis.mapM f) (← expressions.mapM f)
  | .templateElement raw tail => return .templateElement raw tail
  | .taggedTemplate tag quasi => return .taggedTemplate (← f tag) (← f quasi)
  | .thisExpression => return .thisExpression
  | .superReference => return .superReference
  | .arrayExpression elements => return .arrayExpression (← elements.mapM fun e => e.mapM f)
  | .objectExpression properties => return .objectExpression (← properties.mapM f)
  | .property value key kind computed method =>
    return .property (← f value) (← key.mapM f) kind computed method
  | .spreadElement argument => return .spreadElement (← f argument)
  | .functionExpression fn => return .functionExpression (← fn.traverse f)
  | .arrowFunction fn => return .arrowFunction (← fn.traverse f)
  | .classExpression cls => return .classExpression (← cls.traverse f)
  | .unaryExpression operator argument => return .unaryExpression operator (← f argument)
  | .updateExpression operator leading argument =>
    return .updateExpression operator leading (← f argument)
  | .binaryExpression operator left right =>
    return .binaryExpression operator (← f left) (← f right)
  | .logicalExpression operator left right =>
    return .logicalExpression operator (← f left) (← f right)
  | .assignmentExpression operator left right =>
    return .assignmentExpression operator (← f left) (← f right)
  | .conditionalExpression test consequent alternate =>
    return .conditionalExpression (← f test) (← f consequent) (← f alternate)
  | .callExpression callee arguments optional =>
    return .callExpression (← f callee) (← arguments.mapM f) optional
  | .newExpression callee arguments => return .newExpression (← f callee) (← arguments.mapM f)
  | .memberExpression object member computed optional =>
    return .memberExpression (← f object) (← f member) computed optional
  | .chainExpression expression => return .chainExpression (← f expression)
  | .sequenceExpression expressions => return .sequenceExpression (← expressions.mapM f)
  | .awaitExpression argument => return .awaitExpression (← f argument)
  | .yieldExpression argument delegate => return .yieldExpression (← argument.mapM f) delegate
  | .importExpression source => return .importExpression (← f source)
  | .metaProperty object member => return .metaProperty (← f object) (← f member)
  | .objectPattern properties => return .objectPattern (← properties.mapM f)
  | .arrayPattern elements => return .arrayPattern (← elements.mapM fun e => e.mapM f)
  | .restElement argument => return .restElement (← f argument)
  | .assignmentPattern left right => return .assignmentPattern (← f left) (← f right)
  | .other typeName children => return .other typeName (← children.mapM f)

def inReadingOrder (k : NodeKind α) : List α :=
  ((k.traverse (m := StateM (List α)) fun a => modifyGet fun as => (a, a :: as)).run []).2.reverse

def map (f : α → β) (k : NodeKind α) : NodeKind β :=
  (k.traverse (m := Id) fun a => pure (f a)).run

def children : NodeKind α → List α
  | .doWhileStatement body test => [test, body]
  | .property value (some key) _ _ _ => [key, value]
  | k => k.inReadingOrder

def fn? : NodeKind α → Option (FunctionShape α)
  | .functionDeclaration fn | .functionExpression fn | .arrowFunction fn => some fn
  | _ => none

def cls? : NodeKind α → Option (ClassShape α)
  | .classDeclaration cls | .classExpression cls => some cls
  | _ => none

def statements? : NodeKind α → Option (List α)
  | .program body _ | .blockStatement body | .staticBlock body => some body
  | .switchCase _ consequent => some consequent
  | _ => none

end NodeKind

end ScriptLint
