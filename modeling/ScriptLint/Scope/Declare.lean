import ScriptLint.Scope.Graph
import ScriptLint.Scope.Pattern

/-! The declaring pass: walks over the tree, creates the scopes and declares the variables. -/
namespace ScriptLint

namespace ScopeGraph

def addScope (g : ScopeGraph) (kind : ScopeKind) (node : NodeId) (parent : Option ScopeId) :
    ScopeGraph :=
  let id := g.scopes.size
  let scopes := g.scopes.push ⟨kind, node, parent, [], []⟩
  let scopes := match parent with
    | some p => scopes.modify p fun s => { s with children := s.children ++ [id] }
    | none => scopes
  { g with scopes }

/-- The variable of a name in a scope, which is created if the scope does not declare it yet. -/
def variableFor (g : ScopeGraph) (scope : ScopeId) (name : String) (kind : BindingKind) :
    ScopeGraph × VariableId :=
  match g.findInScope? scope name with
  | some v => (g, v)
  | none =>
    let v := g.vars.size
    ({ g with
        vars := g.vars.push ⟨name, scope, kind, [], [], []⟩
        scopes := g.scopes.modify scope fun s => { s with names := s.names ++ [(name, v)] } }, v)

def recordDeclared (g : ScopeGraph) (v : VariableId) (node : NodeId) : ScopeGraph :=
  { g with declared := g.declared.modify node fun vs => if vs.contains v then vs else vs ++ [v] }

def declare (t : Tree) (scope : ScopeId) (kind : BindingKind) (definition : NodeId)
    (nodes : List NodeId) (g : ScopeGraph) (identifier : NodeId) : ScopeGraph :=
  match t.identifierName? identifier with
  | none => g
  | some name =>
    let (g, v) := g.variableFor scope name kind
    let g := { g with
      vars := g.vars.modify v fun var =>
        { var with
          identifiers := var.identifiers ++ [identifier]
          definitions := var.definitions ++ [definition] }
      bindings := g.bindings.setIfInBounds identifier (some v) }
    nodes.foldl (fun g node => g.recordDeclared v node) g

/-- Where a hoisted variable goes: the nearest scope outwards that is no block and no class. -/
def hoistingTarget (g : ScopeGraph) (s : ScopeId) : ScopeId :=
  ((g.outwards s).find? fun s =>
    match g.scopes[s]? with
    | some scope => scope.kind != .blockScope && scope.kind != .classScope
    | none => false).getD s

end ScopeGraph

/-- The kind of scope that a node creates. The body of a function or of a catch clause shares the
scope of its owner. -/
def Tree.scopeKind? (t : Tree) (id : NodeId) : Option ScopeKind :=
  match t.kind id with
  | .functionDeclaration _ | .functionExpression _ | .arrowFunction _ | .staticBlock _ =>
    some .functionScope
  | .classDeclaration _ | .classExpression _ => some .classScope
  | .blockStatement _ =>
    match (t.parent? id).map t.kind with
    | some (.catchClause ..) => none
    | some owner => if owner.fn?.isSome then none else some .blockScope
    | none => some .blockScope
  | .forStatement .. | .forInStatement .. | .forOfStatement .. | .switchStatement ..
  | .catchClause .. => some .blockScope
  | _ => none

structure Declaring where
  graph : ScopeGraph
  /-- Binding identifiers with an initializer. -/
  initialized : List NodeId

namespace Declaring

open ScopeGraph

def declareAll (t : Tree) (scope : ScopeId) (kind : BindingKind) (definition : NodeId)
    (nodes identifiers : List NodeId) (d : Declaring) : Declaring :=
  { d with graph := identifiers.foldl (ScopeGraph.declare t scope kind definition nodes) d.graph }

def declarator (t : Tree) (scope : ScopeId) (kind : BindingKind) (declaration : NodeId)
    (d : Declaring) (declarator : NodeId) : Declaring :=
  match t.kind declarator with
  | .variableDeclarator id init =>
    let identifiers := t.bindingIdentifiers id
    let d := d.declareAll t scope kind declarator [declaration, declarator] identifiers
    if init.isSome then { d with initialized := d.initialized ++ identifiers } else d
  | _ => d

def specifier (t : Tree) (scope : ScopeId) (declaration : NodeId) (d : Declaring)
    (specifier : NodeId) : Declaring :=
  let binding := match t.kind specifier with
    | .importSpecifier imported renamed => [renamed.getD imported]
    | .importDefaultSpecifier binding | .importNamespaceSpecifier binding => [binding]
    | _ => []
  d.declareAll t scope .importBinding specifier [declaration, specifier] binding

def outerBindings (t : Tree) (node : NodeId) (scope : ScopeId) (d : Declaring) : Declaring :=
  match t.kind node with
  | .functionDeclaration fn => d.declareAll t scope .functionBinding node [node] fn.id.toList
  | .classDeclaration cls => d.declareAll t scope .classBinding node [node] cls.id.toList
  | .variableDeclaration kind declarations =>
    let (target, binding) := match kind with
      | .varDecl => (d.graph.hoistingTarget scope, BindingKind.varBinding)
      | .letDecl => (scope, .letBinding)
      | .constDecl => (scope, .constBinding)
    declarations.foldl (declarator t target binding node) d
  | .importDeclaration specifiers _ => specifiers.foldl (specifier t scope node) d
  | _ => d

def innerBindings (t : Tree) (node : NodeId) (scope : ScopeId) (d : Declaring) : Declaring :=
  let parameters (fn : FunctionShape NodeId) (d : Declaring) :=
    fn.params.foldl (fun d param =>
      d.declareAll t scope .parameter node [node] (t.bindingIdentifiers param)) d
  match t.kind node with
  | .functionExpression fn =>
    parameters fn (d.declareAll t scope .functionBinding node [node] fn.id.toList)
  | .functionDeclaration fn | .arrowFunction fn => parameters fn d
  | .classExpression cls => d.declareAll t scope .classBinding node [node] cls.id.toList
  | .catchClause (some param) _ =>
    d.declareAll t scope .catchParameter node [node] (t.bindingIdentifiers param)
  | _ => d

def place (node : NodeId) (scope : ScopeId) (d : Declaring) : Declaring :=
  { d with graph := { d.graph with nodeScopes := d.graph.nodeScopes.setIfInBounds node scope } }

/-- Deals with one node inside `outer`; the result names the scope of its children. -/
def visit (t : Tree) (node : NodeId) (outer : ScopeId) (d : Declaring) : Declaring × ScopeId :=
  let d := d.outerBindings t node outer
  match t.scopeKind? node with
  | some kind =>
    let scope := d.graph.scopes.size
    let d := { d with graph := d.graph.addScope kind node (some outer) }
    ((d.innerBindings t node scope).place node scope, scope)
  | none => (d.place node outer, outer)

def walk (t : Tree) : Nat → List (NodeId × ScopeId) → Declaring → Declaring
  | 0, _, d => d
  | _, [], d => d
  | fuel + 1, (node, outer) :: stack, d =>
    let (d, scope) := d.visit t node outer
    walk t fuel ((t.childrenOf node).map (fun child => (child, scope)) ++ stack) d

/-- A module has a scope of its own inside the global one. -/
def run (t : Tree) : Declaring :=
  let g := (ScopeGraph.empty t.size).addScope .globalScope t.root none
  let (g, top) := match t.kind t.root with
    | .program _ .esModule => (g.addScope .moduleScope t.root (some 0), 1)
    | _ => (g, 0)
  let d := Declaring.place t.root top ⟨g, []⟩
  walk t t.size ((t.childrenOf t.root).map fun child => (child, top)) d

end Declaring

end ScriptLint
