import ScriptLint.Scope.Graph
import ScriptLint.Unicode.Letter

/-! What an identifier does where it stands: it binds a name, refers to a variable, or is only the
name of something else, such as a property or a label. -/
namespace ScriptLint

inductive Role where
  | binding
  | reference (access : Access)
  | none
  deriving DecidableEq, Repr

namespace Tree

def referenceParents : List String :=
  ["TSAsExpression", "TSNonNullExpression", "TSSatisfiesExpression", "TSTypeAssertion",
    "TSInstantiationExpression", "TSExportAssignment", "TSTypeQuery", "TSClassImplements",
    "TSInterfaceHeritage", "TSExpressionWithTypeArguments", "JSXExpressionContainer",
    "JSXSpreadAttribute", "JSXSpreadChild", "ParenthesizedExpression", "Decorator"]

def qualifierParents : List String :=
  ["TSTypeReference", "TSQualifiedName", "JSXMemberExpression", "JSXOpeningElement",
    "JSXClosingElement"]

/-- Climbs from `current`, a pattern around the identifier or the identifier itself, to the node
that decides whether the identifier binds, assigns or reads. -/
def patternRole (t : Tree) (identifier : NodeId) : Nat → NodeId → Role
  | 0, _ => .reference .read
  | fuel + 1, current =>
    match t.parent? current with
    | none => .reference .read
    | some parent =>
      match t.kind parent with
      | .objectPattern _ | .arrayPattern _ | .restElement _ => patternRole t identifier fuel parent
      | .property value .. =>
        let inPattern := match (t.parent? parent).map t.kind with
          | some (.objectPattern _) => true
          | _ => false
        if value = current && inPattern then patternRole t identifier fuel parent
        else .reference .read
      | .assignmentPattern left _ =>
        if left = current then patternRole t identifier fuel parent else .reference .read
      | .variableDeclarator target _ =>
        if target = current then .binding else .reference .read
      | .catchClause param _ => if param = some current then .binding else .reference .read
      | .functionDeclaration fn | .functionExpression fn | .arrowFunction fn =>
        if fn.params.contains current then .binding else .reference .read
      | .assignmentExpression operator left _ =>
        if left = current then
          if current = identifier && operator != "=" then .reference .readWrite
          else .reference .write
        else .reference .read
      | .forInStatement left .. | .forOfStatement left .. =>
        if left = current then .reference .write else .reference .read
      | .updateExpression .. =>
        if current = identifier then .reference .readWrite else .reference .read
      | _ => .reference .read

def jsxName? (t : Tree) (id : NodeId) : Option String :=
  match t.kind id with
  | .jsxIdentifier name => some name
  | _ => none

/-- Role of an identifier below a node of some other type. A JSX name that does not begin with a
capital is an element of the host language, except as the first part of a dotted name. -/
def roleInOther (t : Tree) (id : NodeId) (typeName : String) (children : List NodeId) : Role :=
  let isReference := referenceParents.contains typeName ||
    (children.head? == some id && qualifierParents.contains typeName)
  let isIntrinsic := match t.jsxName? id with
    | some name => !(name.toList.head?.any Unicode.isUppercase) && typeName != "JSXMemberExpression"
    | none => false
  if isReference && !isIntrinsic then .reference .read else .none

def plainRole (t : Tree) (id : NodeId) : Role :=
  if (t.jsxName? id).isSome then .none else t.patternRole id t.size id

def role (t : Tree) (id : NodeId) : Role :=
  match t.parent? id with
  | none => .reference .read
  | some parent =>
    match t.kind parent with
    | .memberExpression _ member computed _ =>
      if !computed && member = id then .none else t.plainRole id
    | .methodDefinition key _ _ computed _ | .propertyDefinition key _ computed _ =>
      if !computed && key = id then .none else t.plainRole id
    | .property _ key _ computed _ =>
      if !computed && key = some id then .none else t.plainRole id
    | .labeledStatement .. | .breakStatement _ | .continueStatement _ | .metaProperty ..
    | .exportAllDeclaration .. => .none
    | .importSpecifier imported renamed =>
      if renamed.getD imported = id then .binding else .none
    | .importDefaultSpecifier binding | .importNamespaceSpecifier binding =>
      if binding = id then .binding else .none
    | .exportSpecifier binding _ =>
      let fromElsewhere := match (t.parent? parent).map t.kind with
        | some (.exportNamedDeclaration _ _ (some _)) => true
        | _ => false
      if binding = id && !fromElsewhere then .reference .read else .none
    | .functionDeclaration fn | .functionExpression fn | .arrowFunction fn =>
      if fn.id = some id then .binding else t.plainRole id
    | .classDeclaration cls | .classExpression cls =>
      if cls.id = some id then .binding else t.plainRole id
    | .other typeName children => t.roleInOther id typeName children
    | _ => t.plainRole id

end Tree

end ScriptLint
