import Mathlib
import ScriptLint.Scope.Build

/-! What the declaring pass can do to its state, one step at a time. The walk over the tree is
followed once, here; an invariant of the scope tables is then an induction over four steps. -/
namespace ScriptLint

namespace ScopeGraph

theorem foldl_recordDeclared (v : VariableId) (nodes : List NodeId) (g : ScopeGraph) :
    ∃ declared, nodes.foldl (fun g node => g.recordDeclared v node) g = { g with declared } := by
  induction nodes generalizing g with
  | nil => exact ⟨g.declared, rfl⟩
  | cons node nodes ih =>
    obtain ⟨declared, h⟩ := ih (g.recordDeclared v node)
    exact ⟨declared, h⟩

theorem declare_eq (t : Tree) (scope : ScopeId) (kind : BindingKind) (definition : NodeId)
    (nodes : List NodeId) (g : ScopeGraph) {identifier : NodeId} {name : String}
    (h : t.identifierName? identifier = some name) :
    ∃ declared, g.declare t scope kind definition nodes identifier =
      { (g.variableFor scope name kind).1 with
        vars := (g.variableFor scope name kind).1.vars.modify (g.variableFor scope name kind).2
          fun var => { var with
            identifiers := var.identifiers ++ [identifier]
            definitions := var.definitions ++ [definition] }
        bindings := (g.variableFor scope name kind).1.bindings.setIfInBounds identifier
          (some (g.variableFor scope name kind).2)
        declared } := by
  unfold declare
  rw [h]
  exact foldl_recordDeclared _ _ _

theorem declare_eq_self (t : Tree) (scope : ScopeId) (kind : BindingKind) (definition : NodeId)
    (nodes : List NodeId) (g : ScopeGraph) {identifier : NodeId}
    (h : t.identifierName? identifier = none) :
    g.declare t scope kind definition nodes identifier = g := by
  unfold declare
  rw [h]

/-- What does not depend on the tables of variables, and is not changed by a new variable, is not
changed by a declaration. -/
theorem declare_frame {α : Type} (F : ScopeGraph → α) (t : Tree) (scope : ScopeId)
    (kind : BindingKind) (definition : NodeId) (nodes : List NodeId) (g : ScopeGraph)
    (identifier : NodeId) (hnew : ∀ name, F (g.variableFor scope name kind).1 = F g)
    (htables : ∀ (g : ScopeGraph) vars bindings declared,
      F { g with vars, bindings, declared } = F g) :
    F (g.declare t scope kind definition nodes identifier) = F g := by
  cases h : t.identifierName? identifier with
  | none => rw [declare_eq_self t scope kind definition nodes g h]
  | some name =>
    obtain ⟨declared, heq⟩ := declare_eq t scope kind definition nodes g h
    rw [heq, htables]
    exact hnew name

theorem size_scopes_addScope (g : ScopeGraph) (kind : ScopeKind) (node : NodeId)
    (parent : Option ScopeId) :
    (g.addScope kind node parent).scopes.size = g.scopes.size + 1 := by
  cases parent <;> simp [addScope]

theorem size_scopes_variableFor (g : ScopeGraph) (scope : ScopeId) (name : String)
    (kind : BindingKind) :
    (g.variableFor scope name kind).1.scopes.size = g.scopes.size := by
  unfold variableFor
  split <;> simp

theorem size_scopes_declare (t : Tree) (scope : ScopeId) (kind : BindingKind) (definition : NodeId)
    (nodes : List NodeId) (g : ScopeGraph) (identifier : NodeId) :
    (g.declare t scope kind definition nodes identifier).scopes.size = g.scopes.size :=
  declare_frame (·.scopes.size) t scope kind definition nodes g identifier
    (fun name => g.size_scopes_variableFor scope name kind) fun _ _ _ _ => rfl

theorem hoistingTarget_lt (g : ScopeGraph) {s : ScopeId} (hs : s < g.scopes.size) :
    g.hoistingTarget s < g.scopes.size := by
  unfold hoistingTarget
  cases h : (g.outwards s).find? _ with
  | none => exact hs
  | some target =>
    have hp := List.find?_some h
    simp only [Option.getD_some]
    refine Nat.lt_of_not_le fun hge => ?_
    rw [Array.getElem?_eq_none hge] at hp
    simp at hp

end ScopeGraph

theorem Tree.identifierName?_of_mem_collectBindings (t : Tree) {fuel : Nat} {stack : List NodeId}
    {id : NodeId} (h : id ∈ t.collectBindings fuel stack) : (t.identifierName? id).isSome := by
  fun_induction collectBindings t fuel stack with
  | case1 => simp at h
  | case2 => simp at h
  | case3 fuel head stack name ann opt hk ih =>
    rcases List.mem_cons.1 h with rfl | h
    · simp [Tree.identifierName?, hk]
    · exact ih h
  | case4 fuel head stack hk ih => exact ih h

theorem Tree.identifierName?_of_mem_bindingIdentifiers (t : Tree) {pattern id : NodeId}
    (h : id ∈ t.bindingIdentifiers pattern) : (t.identifierName? id).isSome :=
  t.identifierName?_of_mem_collectBindings (List.mem_mergeSort.1 h)

namespace Declaring

inductive Step (t : Tree) : Declaring → Declaring → Prop
  | addScope (d : Declaring) (kind : ScopeKind) (node : NodeId) {outer : ScopeId}
      (h : outer < d.graph.scopes.size) :
      Step t d { d with graph := d.graph.addScope kind node (some outer) }
  | declare (d : Declaring) {scope : ScopeId} (kind : BindingKind) (definition : NodeId)
      (nodes : List NodeId) (identifier : NodeId) (h : scope < d.graph.scopes.size) :
      Step t d { d with graph := d.graph.declare t scope kind definition nodes identifier }
  | markInitialized (d : Declaring) {identifiers : List NodeId}
      (h : ∀ id ∈ identifiers, (t.identifierName? id).isSome) :
      Step t d { d with initialized := d.initialized ++ identifiers }
  | place (d : Declaring) (node : NodeId) {scope : ScopeId} (h : scope < d.graph.scopes.size) :
      Step t d (d.place node scope)

abbrev Steps (t : Tree) : Declaring → Declaring → Prop := Relation.ReflTransGen (Step t)

theorem Step.size_le {t : Tree} {d e : Declaring} (h : Step t d e) :
    d.graph.scopes.size ≤ e.graph.scopes.size := by
  cases h with
  | addScope kind node h => simp only [ScopeGraph.size_scopes_addScope]; omega
  | declare kind definition nodes identifier h => simp only [ScopeGraph.size_scopes_declare]; omega
  | markInitialized h => exact Nat.le_refl _
  | place node h => exact Nat.le_refl _

theorem Steps.size_le {t : Tree} {d e : Declaring} (h : Steps t d e) :
    d.graph.scopes.size ≤ e.graph.scopes.size := by
  induction h with
  | refl => exact Nat.le_refl _
  | tail _ step ih => exact Nat.le_trans ih step.size_le

theorem Steps.preserve {t : Tree} {P : Declaring → Prop}
    (hstep : ∀ d e, Step t d e → P d → P e) {d e : Declaring} (h : Steps t d e) (hd : P d) :
    P e := by
  induction h with
  | refl => exact hd
  | tail _ step ih => exact hstep _ _ step ih

theorem steps_foldl {α : Type} {t : Tree} {f : Declaring → α → Declaring} {s : ScopeId}
    (hf : ∀ d a, s < d.graph.scopes.size → Steps t d (f d a)) (l : List α) (d : Declaring)
    (hs : s < d.graph.scopes.size) : Steps t d (l.foldl f d) := by
  induction l generalizing d with
  | nil => exact .refl
  | cons a l ih =>
    have head := hf d a hs
    exact head.trans (ih (f d a) (Nat.lt_of_lt_of_le hs head.size_le))

theorem steps_declareAll (t : Tree) (kind : BindingKind) (definition : NodeId)
    (nodes identifiers : List NodeId) (d : Declaring) {scope : ScopeId}
    (hs : scope < d.graph.scopes.size) :
    Steps t d (d.declareAll t scope kind definition nodes identifiers) := by
  induction identifiers generalizing d with
  | nil => exact .refl
  | cons identifier identifiers ih =>
    have head := Step.declare (t := t) d kind definition nodes identifier hs
    exact .head head (ih _ (Nat.lt_of_lt_of_le hs head.size_le))

theorem steps_declarator (t : Tree) (kind : BindingKind) (declaration : NodeId) (d : Declaring)
    (node : NodeId) {scope : ScopeId} (hs : scope < d.graph.scopes.size) :
    Steps t d (d.declarator t scope kind declaration node) := by
  unfold declarator
  split
  · rename_i id init hk
    have all := steps_declareAll t kind node [declaration, node] (t.bindingIdentifiers id) d hs
    split
    · exact all.tail (.markInitialized _ fun _ h => t.identifierName?_of_mem_bindingIdentifiers h)
    · exact all
  · exact .refl

theorem steps_specifier (t : Tree) (declaration : NodeId) (d : Declaring) (node : NodeId)
    {scope : ScopeId} (hs : scope < d.graph.scopes.size) :
    Steps t d (d.specifier t scope declaration node) :=
  steps_declareAll t _ node _ _ d hs

theorem steps_outerBindings (t : Tree) (node : NodeId) (d : Declaring) {scope : ScopeId}
    (hs : scope < d.graph.scopes.size) : Steps t d (d.outerBindings t node scope) := by
  unfold outerBindings
  split
  · exact steps_declareAll t _ _ _ _ d hs
  · exact steps_declareAll t _ _ _ _ d hs
  · rename_i kind declarations _
    cases kind with
    | varDecl =>
      exact steps_foldl (fun d a => steps_declarator t _ node d a) declarations d
        (d.graph.hoistingTarget_lt hs)
    | letDecl => exact steps_foldl (fun d a => steps_declarator t _ node d a) declarations d hs
    | constDecl => exact steps_foldl (fun d a => steps_declarator t _ node d a) declarations d hs
  · exact steps_foldl (fun d a => steps_specifier t node d a) _ d hs
  · exact .refl

theorem steps_innerBindings (t : Tree) (node : NodeId) (d : Declaring) {scope : ScopeId}
    (hs : scope < d.graph.scopes.size) : Steps t d (d.innerBindings t node scope) := by
  have parameters (fn : FunctionShape NodeId) (d : Declaring) (hs : scope < d.graph.scopes.size) :
      Steps t d (fn.params.foldl (fun d param =>
        d.declareAll t scope .parameter node [node] (t.bindingIdentifiers param)) d) :=
    steps_foldl (fun d param => steps_declareAll t _ _ _ _ d) fn.params d hs
  unfold innerBindings
  split
  · rename_i fn _
    have name := steps_declareAll t .functionBinding node [node] fn.id.toList d hs
    exact name.trans (parameters fn _ (Nat.lt_of_lt_of_le hs name.size_le))
  · exact parameters _ d hs
  · exact parameters _ d hs
  · exact steps_declareAll t _ _ _ _ d hs
  · exact steps_declareAll t _ _ _ _ d hs
  · exact .refl

/-- A visit takes steps, and the scope it hands to the children exists. -/
theorem steps_visit (t : Tree) (node : NodeId) (d : Declaring) {outer : ScopeId}
    (hs : outer < d.graph.scopes.size) :
    Steps t d (d.visit t node outer).1 ∧
      (d.visit t node outer).2 < (d.visit t node outer).1.graph.scopes.size := by
  have before := steps_outerBindings t node d hs
  have hs' := Nat.lt_of_lt_of_le hs before.size_le
  unfold visit
  cases t.scopeKind? node with
  | none => exact ⟨before.tail (.place _ node hs'), hs'⟩
  | some kind =>
    have scope := Step.addScope (t := t) _ kind node hs'
    have fresh : (d.outerBindings t node outer).graph.scopes.size <
        ((d.outerBindings t node outer).graph.addScope kind node (some outer)).scopes.size := by
      rw [ScopeGraph.size_scopes_addScope]
      omega
    have inner := steps_innerBindings t node
      { d.outerBindings t node outer with
        graph := (d.outerBindings t node outer).graph.addScope kind node (some outer) } fresh
    have fresh' := Nat.lt_of_lt_of_le fresh inner.size_le
    exact ⟨((before.tail scope).trans inner).tail (.place _ node fresh'), fresh'⟩

theorem steps_walk (t : Tree) (fuel : Nat) (stack : List (NodeId × ScopeId)) (d : Declaring)
    (hs : ∀ p ∈ stack, p.2 < d.graph.scopes.size) : Steps t d (walk t fuel stack d) := by
  fun_induction walk t fuel stack d with
  | case1 => exact .refl
  | case2 => exact .refl
  | case3 fuel node outer stack d d' scope hv ih =>
    have visited := steps_visit t node d (hs (node, outer) (by simp))
    rw [hv] at visited
    refine visited.1.trans (ih ?_)
    intro p hp
    rcases List.mem_append.1 hp with h | h
    · obtain ⟨child, -, rfl⟩ := List.mem_map.1 h
      exact visited.2
    · exact Nat.lt_of_lt_of_le (hs p (by simp [h])) visited.1.size_le

def start (t : Tree) : Declaring :=
  ⟨(ScopeGraph.empty t.size).addScope .globalScope t.root none, []⟩

theorem steps_run (t : Tree) : Steps t (start t) (run t) := by
  have walked (top : ScopeId) (d : Declaring) (h : top < d.graph.scopes.size) :
      Steps t d (walk t t.size ((t.childrenOf t.root).map fun child => (child, top))
        (d.place t.root top)) := by
    refine .head (.place d t.root h) (steps_walk t _ _ _ ?_)
    intro p hp
    obtain ⟨child, -, rfl⟩ := List.mem_map.1 hp
    exact h
  have global : 0 < (start t).graph.scopes.size := by simp [start, ScopeGraph.size_scopes_addScope]
  unfold run
  dsimp only
  split
  · refine .head (.addScope (start t) .moduleScope t.root global) (walked 1 _ ?_)
    simp [start, ScopeGraph.size_scopes_addScope, ScopeGraph.empty]
  · exact walked 0 (start t) global

end Declaring

end ScriptLint
