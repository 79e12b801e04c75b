import ScriptLint.Proofs.References
import ScriptLint.Proofs.TreeWalk

/-! The innermost scope around a node. A node that creates no scope is in the scope of its parent. -/
namespace ScriptLint

namespace ScopeGraph

theorem nodeScopes_declare (t : Tree) (scope : ScopeId) (kind : BindingKind) (definition : NodeId)
    (nodes : List NodeId) (g : ScopeGraph) (identifier : NodeId) :
    (g.declare t scope kind definition nodes identifier).nodeScopes = g.nodeScopes := by
  refine declare_frame nodeScopes t scope kind definition nodes g identifier (fun name => ?_)
    fun _ _ _ _ => rfl
  unfold variableFor
  split <;> rfl

end ScopeGraph

namespace Declaring

open ScopeGraph

variable {t : Tree}

theorem nodeScopes_foldl {α : Type} {f : Declaring → α → Declaring}
    (hf : ∀ d a, (f d a).graph.nodeScopes = d.graph.nodeScopes) (l : List α) (d : Declaring) :
    (l.foldl f d).graph.nodeScopes = d.graph.nodeScopes := by
  induction l generalizing d with
  | nil => rfl
  | cons a l ih => rw [List.foldl_cons, ih, hf]

theorem nodeScopes_declareAll (scope : ScopeId) (kind : BindingKind) (definition : NodeId)
    (nodes identifiers : List NodeId) (d : Declaring) :
    (d.declareAll t scope kind definition nodes identifiers).graph.nodeScopes =
      d.graph.nodeScopes := by
  induction identifiers generalizing d with
  | nil => rfl
  | cons identifier identifiers ih =>
    exact (ih { d with graph := d.graph.declare t scope kind definition nodes identifier }).trans
      (nodeScopes_declare t scope kind definition nodes d.graph identifier)

theorem nodeScopes_declarator (scope : ScopeId) (kind : BindingKind) (declaration : NodeId)
    (d : Declaring) (node : NodeId) :
    (d.declarator t scope kind declaration node).graph.nodeScopes = d.graph.nodeScopes := by
  unfold declarator
  split
  · dsimp only
    split <;> exact nodeScopes_declareAll ..
  · rfl

theorem nodeScopes_outerBindings (node : NodeId) (scope : ScopeId) (d : Declaring) :
    (d.outerBindings t node scope).graph.nodeScopes = d.graph.nodeScopes := by
  unfold outerBindings
  split
  · exact nodeScopes_declareAll ..
  · exact nodeScopes_declareAll ..
  · exact nodeScopes_foldl (fun d a => nodeScopes_declarator _ _ node d a) _ d
  · exact nodeScopes_foldl (fun d a => nodeScopes_declareAll _ _ _ _ _ d) _ d
  · rfl

theorem nodeScopes_innerBindings (node : NodeId) (scope : ScopeId) (d : Declaring) :
    (d.innerBindings t node scope).graph.nodeScopes = d.graph.nodeScopes := by
  have parameters (fn : FunctionShape NodeId) (d : Declaring) :
      (fn.params.foldl (fun d param =>
        d.declareAll t scope .parameter node [node] (t.bindingIdentifiers param)) d).graph.nodeScopes
        = d.graph.nodeScopes :=
    nodeScopes_foldl (fun d param => nodeScopes_declareAll _ _ _ _ _ d) fn.params d
  unfold innerBindings
  split
  · exact (parameters _ _).trans (nodeScopes_declareAll ..)
  · exact parameters _ d
  · exact parameters _ d
  · exact nodeScopes_declareAll ..
  · exact nodeScopes_declareAll ..
  · rfl

theorem nodeScopes_visit (node : NodeId) (outer : ScopeId) (d : Declaring) :
    (d.visit t node outer).1.graph.nodeScopes =
      d.graph.nodeScopes.setIfInBounds node (d.visit t node outer).2 := by
  unfold visit
  cases t.scopeKind? node with
  | none =>
    change (d.outerBindings t node outer).graph.nodeScopes.setIfInBounds node outer = _
    rw [nodeScopes_outerBindings]
  | some kind =>
    change Array.setIfInBounds (Declaring.graph _).nodeScopes node _ = _
    rw [nodeScopes_innerBindings]
    change Array.setIfInBounds (d.outerBindings t node outer).graph.nodeScopes node _ = _
    rw [nodeScopes_outerBindings]

theorem visit_snd_of_scopeKind?_eq_none {node : NodeId} (h : t.scopeKind? node = none)
    (outer : ScopeId) (d : Declaring) : (d.visit t node outer).2 = outer := by
  unfold visit
  rw [h]

theorem scopeOf_visit (node : NodeId) (outer : ScopeId) (d : Declaring) (id : NodeId)
    (hid : id < d.graph.nodeScopes.size) :
    (d.visit t node outer).1.graph.scopeOf id =
      if id = node then (d.visit t node outer).2 else d.graph.scopeOf id := by
  simp only [scopeOf, nodeScopes_visit, Array.getElem?_setIfInBounds]
  by_cases heq : id = node
  · subst heq
    simp [hid]
  · simp [heq, Ne.symm heq]

theorem size_nodeScopes_visit (node : NodeId) (outer : ScopeId) (d : Declaring) :
    (d.visit t node outer).1.graph.nodeScopes.size = d.graph.nodeScopes.size := by
  rw [nodeScopes_visit, Array.size_setIfInBounds]

theorem map_fst_entries (children : List NodeId) (scope : ScopeId)
    (stack : List (NodeId × ScopeId)) :
    (children.map (fun child => (child, scope)) ++ stack).map Prod.fst =
      children ++ stack.map Prod.fst := by
  simp [Function.comp_def]

theorem scopeOf_walk_of_not_mem {fuel : Nat} {stack : List (NodeId × ScopeId)} {d : Declaring}
    {id : NodeId} (hid : id < d.graph.nodeScopes.size)
    (h : id ∉ t.walk fuel (stack.map Prod.fst)) :
    (walk t fuel stack d).graph.scopeOf id = d.graph.scopeOf id := by
  induction fuel generalizing stack d with
  | zero => rfl
  | succ fuel ih =>
    cases stack with
    | nil => rfl
    | cons entry stack =>
      obtain ⟨node, outer⟩ := entry
      simp only [List.map_cons, Tree.walk, List.mem_cons, not_or] at h
      rw [walk]
      dsimp only
      rw [ih (by rwa [size_nodeScopes_visit]) (by rw [map_fst_entries]; exact h.2),
        scopeOf_visit _ _ _ _ hid, if_neg h.1]

/-- A walk that visits every node once, and the children of what it visits. -/
structure Full (t : Tree) (fuel : Nat) (stack : List NodeId) : Prop where
  perm : (t.walk fuel stack).Perm (stack ++ (t.walk fuel stack).flatMap t.childrenOf)
  nodup : (t.walk fuel stack).Nodup

theorem Full.step {fuel : Nat} {node : NodeId} {stack : List NodeId}
    (h : Full t (fuel + 1) (node :: stack)) :
    node ∉ t.walk fuel (t.childrenOf node ++ stack) ∧
      Full t fuel (t.childrenOf node ++ stack) := by
  have hnodup := h.nodup
  have hperm := h.perm
  rw [Tree.walk, List.nodup_cons] at hnodup
  rw [Tree.walk, List.cons_append, List.flatMap_cons] at hperm
  refine ⟨hnodup.1, hperm.cons_inv.trans ?_, hnodup.2⟩
  rw [← List.append_assoc]
  exact List.perm_append_comm.append_right _

theorem scopeOf_walk (fuel : Nat) (stack : List (NodeId × ScopeId)) (d : Declaring)
    (hfull : Full t fuel (stack.map Prod.fst))
    (hsize : ∀ id ∈ t.walk fuel (stack.map Prod.fst), id < d.graph.nodeScopes.size) :
    (∀ entry ∈ stack, t.scopeKind? entry.1 = none →
      (walk t fuel stack d).graph.scopeOf entry.1 = entry.2) ∧
    ∀ p ∈ t.walk fuel (stack.map Prod.fst), ∀ child ∈ t.childrenOf p, t.scopeKind? child = none →
      (walk t fuel stack d).graph.scopeOf child = (walk t fuel stack d).graph.scopeOf p := by
  induction fuel generalizing stack d with
  | zero =>
    have hempty := hfull.perm
    rw [Tree.walk, List.flatMap_nil, List.append_nil] at hempty
    have hnil := List.map_eq_nil_iff.1 hempty.symm.eq_nil
    simp [hnil, Tree.walk]
  | succ fuel ih =>
    cases stack with
    | nil => simp [Tree.walk]
    | cons entry stack =>
      obtain ⟨node, outer⟩ := entry
      obtain ⟨hnode, hrest⟩ := hfull.step
      rw [List.map_cons, Tree.walk] at hsize
      rw [walk]
      dsimp only
      have hin := hsize node (by simp)
      have ih := ih ((t.childrenOf node).map (fun child => (child, (d.visit t node outer).2)) ++
          stack) (d.visit t node outer).1 (by rwa [map_fst_entries]) (by
          intro id hid
          rw [map_fst_entries] at hid
          rw [size_nodeScopes_visit]
          exact hsize id (List.mem_cons_of_mem _ hid))
      -- The node is not visited again, so it stays where this visit puts it.
      have hplaced : (walk t fuel ((t.childrenOf node).map
          (fun child => (child, (d.visit t node outer).2)) ++ stack)
          (d.visit t node outer).1).graph.scopeOf node = (d.visit t node outer).2 := by
        rw [scopeOf_walk_of_not_mem (by rwa [size_nodeScopes_visit])
          (by rw [map_fst_entries]; exact hnode), scopeOf_visit _ _ _ _ hin, if_pos rfl]
      refine ⟨?_, ?_⟩
      · intro entry hentry hnone
        rcases List.mem_cons.1 hentry with rfl | hentry
        · rw [hplaced]
          exact visit_snd_of_scopeKind?_eq_none hnone outer d
        · exact ih.1 entry (List.mem_append_right _ hentry) hnone
      · intro p hp child hchild hnone
        rw [List.map_cons, Tree.walk] at hp
        rcases List.mem_cons.1 hp with rfl | hp
        · rw [hplaced]
          refine ih.1 (child, _) (List.mem_append_left _ ?_) hnone
          exact List.mem_map.2 ⟨child, hchild, rfl⟩
        · refine ih.2 p ?_ child hchild hnone
          rwa [map_fst_entries]

theorem nodeScopes_start (t : Tree) : (start t).graph.nodeScopes.size = t.size := by
  simp [start, ScopeGraph.addScope, ScopeGraph.empty]

theorem scopeOf_walk_root {p child : NodeId} (h : t.WellLinked) (hchild : child ∈ t.childrenOf p)
    (hnone : t.scopeKind? child = none) (top : ScopeId) {d : Declaring}
    (hd : d.graph.nodeScopes.size = t.size) :
    (walk t t.size ((t.childrenOf t.root).map fun child => (child, top))
        (d.place t.root top)).graph.scopeOf child =
      (walk t t.size ((t.childrenOf t.root).map fun child => (child, top))
        (d.place t.root top)).graph.scopeOf p := by
  have hall := h.root_cons_walk_perm_range
  have hnodup := List.nodup_cons.1 (hall.nodup_iff.2 List.nodup_range)
  have hp : p < t.size := h.lt_size hchild
  have hstack : ((t.childrenOf t.root).map fun child => (child, top)).map Prod.fst =
      t.childrenOf t.root := by simp [Function.comp_def]
  have hsize : (d.place t.root top).graph.nodeScopes.size = t.size := by
    simp [place, hd]
  have hwalk := scopeOf_walk t.size ((t.childrenOf t.root).map fun child => (child, top))
    (d.place t.root top) (by rw [hstack]; exact ⟨h.walk_size_perm, hnodup.2⟩)
    (by
      intro id hid
      rw [hstack] at hid
      rw [hsize]
      exact List.mem_range.1 (hall.subset (List.mem_cons_of_mem _ hid)))
  rcases List.mem_cons.1 (hall.symm.subset (List.mem_range.2 hp)) with rfl | hin
  · -- the root is placed before the walk, which does not come back to it
    rw [hwalk.1 (child, top) (List.mem_map.2 ⟨child, hchild, rfl⟩) hnone,
      scopeOf_walk_of_not_mem (by rwa [hsize]) (by rw [hstack]; exact hnodup.1)]
    simp [scopeOf, place, hd, hp]
  · exact hwalk.2 p (by rwa [hstack]) child hchild hnone

theorem scopeOf_run {p child : NodeId} (h : t.WellLinked) (hchild : child ∈ t.childrenOf p)
    (hnone : t.scopeKind? child = none) :
    (run t).graph.scopeOf child = (run t).graph.scopeOf p := by
  have hstart := nodeScopes_start t
  unfold run
  dsimp only
  split
  · exact scopeOf_walk_root h hchild hnone 1
      (d := ⟨((start t).graph.addScope .moduleScope t.root (some 0)), []⟩) hstart
  · exact scopeOf_walk_root h hchild hnone 0 hstart

end Declaring

theorem ScopeGraph.scopeOf_ofTree {t : Tree} {p child : NodeId} (h : t.WellLinked)
    (hchild : child ∈ t.childrenOf p) (hnone : t.scopeKind? child = none) :
    (ofTree t).scopeOf child = (ofTree t).scopeOf p := by
  have hext := (collected_ofTree t).extends_
  rw [hext.scopeOf, hext.scopeOf]
  exact Declaring.scopeOf_run h hchild hnone

end ScriptLint
