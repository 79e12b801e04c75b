import ScriptLint.Syntax.Tree

/-! Scopes, variables and references of a file. Scopes and variables are numbered in the order of
their creation, references in the order of the walk over the tree. -/
namespace ScriptLint

abbrev ScopeId := Nat
abbrev VariableId := Nat
abbrev ReferenceId := Nat

inductive ScopeKind where
  | globalScope
  | moduleScope
  | functionScope
  | blockScope
  | classScope
  deriving DecidableEq, Repr

inductive BindingKind where
  | varBinding
  | letBinding
  | constBinding
  | functionBinding
  | classBinding
  | parameter
  | importBinding
  | catchParameter
  deriving DecidableEq, Repr

inductive Access where
  | read
  | write
  | readWrite
  deriving DecidableEq, Repr

def Access.isRead : Access → Bool
  | read | readWrite => true
  | write => false

def Access.isWrite : Access → Bool
  | write | readWrite => true
  | read => false

structure Scope where
  kind : ScopeKind
  /-- The node that creates the scope. -/
  node : NodeId
  parent : Option ScopeId
  children : List ScopeId
  /-- Declared names with their variables, in the order of declaration. -/
  names : List (String × VariableId)
  deriving DecidableEq, Repr

structure Variable where
  name : String
  scope : ScopeId
  kind : BindingKind
  /-- Identifiers that bind the variable; several if it is declared repeatedly. -/
  identifiers : List NodeId
  /-- For each identifier the node that declares it. -/
  definitions : List NodeId
  references : List ReferenceId
  deriving DecidableEq, Repr

structure Reference where
  identifier : NodeId
  scope : ScopeId
  resolved : Option VariableId
  access : Access
  /-- A write by the initializer of the variable's own declaration. -/
  init : Bool
  deriving DecidableEq, Repr

structure ScopeGraph where
  scopes : Array Scope
  vars : Array Variable
  references : Array Reference
  /-- For each node the innermost scope around it; for a node with a scope, that scope. -/
  nodeScopes : Array ScopeId
  /-- For each node the variables that it declares. -/
  declared : Array (List VariableId)
  /-- For each binding identifier its variable. -/
  bindings : Array (Option VariableId)
  deriving Repr

namespace ScopeGraph

def empty (nodes : Nat) : ScopeGraph :=
  ⟨#[], #[], #[], Array.replicate nodes 0, Array.replicate nodes [], Array.replicate nodes none⟩

variable (g : ScopeGraph)

def scopeOf (node : NodeId) : ScopeId := g.nodeScopes[node]?.getD 0

def parent? (s : ScopeId) : Option ScopeId := g.scopes[s]?.bind Scope.parent

def outwardsFrom : Nat → Option ScopeId → List ScopeId
  | 0, _ => []
  | _, none => []
  | fuel + 1, some s => s :: outwardsFrom fuel (g.parent? s)

def outwards (s : ScopeId) : List ScopeId := g.outwardsFrom g.scopes.size (some s)

def findInScope? (s : ScopeId) (name : String) : Option VariableId :=
  g.scopes[s]?.bind fun scope => scope.names.lookup name

/-- The variable that a name means in a scope: the one of the nearest scope that declares it. -/
def resolve? (s : ScopeId) (name : String) : Option VariableId :=
  (g.outwards s).findSome? fun s => g.findInScope? s name

def isWithin (s ancestor : ScopeId) : Bool := (g.outwards s).contains ancestor

def varAt? (v : VariableId) : Option Variable := g.vars[v]?

def referencesOf (v : VariableId) : List Reference :=
  match g.vars[v]? with
  | some var => var.references.filterMap fun r => g.references[r]?
  | none => []

def referenceAt? (identifier : NodeId) : Option Reference :=
  g.references.find? fun r => r.identifier == identifier

def binding? (identifier : NodeId) : Option VariableId := (g.bindings[identifier]?).join

def declaredBy (node : NodeId) : List VariableId := g.declared[node]?.getD []

def unresolved : List Reference := g.references.toList.filter fun r => r.resolved.isNone

def isUsed (v : VariableId) : Bool := (g.referencesOf v).any fun r => r.access.isRead

end ScopeGraph

end ScriptLint
