import ScriptLint.Scope.Declare
import ScriptLint.Scope.Role

/-! The scope graph of a tree: first all declarations, then the references, which may come before
the declaration they refer to. -/
namespace ScriptLint.ScopeGraph

def addReference (g : ScopeGraph) (r : Reference) : ScopeGraph :=
  let id := g.references.size
  let vars := match r.resolved with
    | some v => g.vars.modify v fun var => { var with references := var.references ++ [id] }
    | none => g.vars
  { g with references := g.references.push r, vars }

def usedName? (t : Tree) (id : NodeId) : Option String :=
  match t.kind id with
  | .identifier name _ _ | .jsxIdentifier name => some name
  | _ => none

def collect (t : Tree) (initialized : List NodeId) (g : ScopeGraph) (id : NodeId) : ScopeGraph :=
  match usedName? t id with
  | none => g
  | some name =>
    let scope := g.scopeOf id
    match t.role id with
    | .reference access => g.addReference ⟨id, scope, g.resolve? scope name, access, false⟩
    | .binding =>
      if initialized.contains id then g.addReference ⟨id, scope, g.binding? id, .write, true⟩ else g
    | .none => g

def ofTree (t : Tree) : ScopeGraph :=
  let d := Declaring.run t
  t.preorder.foldl (collect t d.initialized) d.graph

end ScriptLint.ScopeGraph
