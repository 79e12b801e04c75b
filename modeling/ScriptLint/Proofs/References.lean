import ScriptLint.Proofs.ScopeTables

/-! References of a scope graph. The collecting pass changes nothing that resolution reads, so what
it records is said about the finished graph. -/
namespace ScriptLint

namespace ScopeGraph

structure Extends (g g' : ScopeGraph) : Prop where
  scopes : g'.scopes = g.scopes
  nodeScopes : g'.nodeScopes = g.nodeScopes
  bindings : g'.bindings = g.bindings
  homes : g'.homes = g.homes

namespace Extends

variable {g g' : ScopeGraph}

theorem trans {g'' : ScopeGraph} (h : g.Extends g') (h' : g'.Extends g'') : g.Extends g'' :=
  ⟨h'.scopes.trans h.scopes, h'.nodeScopes.trans h.nodeScopes, h'.bindings.trans h.bindings,
    h'.homes.trans h.homes⟩

theorem scopeOf (h : g.Extends g') (id : NodeId) : g'.scopeOf id = g.scopeOf id := by
  rw [ScopeGraph.scopeOf, ScopeGraph.scopeOf, h.nodeScopes]

theorem binding? (h : g.Extends g') (id : NodeId) : g'.binding? id = g.binding? id := by
  rw [ScopeGraph.binding?, ScopeGraph.binding?, h.bindings]

theorem outwards (h : g.Extends g') (s : ScopeId) : g'.outwards s = g.outwards s :=
  outwards_congr (fun s => by rw [parent?, parent?, h.scopes]) (by rw [h.scopes]) s

theorem resolve? (h : g.Extends g') (s : ScopeId) (name : String) :
    g'.resolve? s name = g.resolve? s name := by
  rw [ScopeGraph.resolve?, ScopeGraph.resolve?, h.outwards]
  simp only [findInScope?, h.scopes]

theorem size_vars (h : g.Extends g') : g'.vars.size = g.vars.size := by
  simpa [ScopeGraph.homes] using congrArg Array.size h.homes

end Extends

theorem extends_addReference (g : ScopeGraph) (r : Reference) : g.Extends (g.addReference r) := by
  refine ⟨rfl, rfl, rfl, ?_⟩
  unfold addReference
  cases r.resolved with
  | none => rfl
  | some v => exact g.homes_modify v _ fun _ => ⟨rfl, rfl⟩

/-- How a reference gets into the graph of a tree: as a use of a name, which is looked up from the
scope of its identifier, or as the write by which a declaration initializes its own variable. -/
inductive Recorded (t : Tree) (initialized : List NodeId) (g : ScopeGraph) : Reference → Prop
  | use {id : NodeId} {name : String} {access : Access} (hname : usedName? t id = some name)
      (hrole : t.role id = .reference access) :
      Recorded t initialized g
        ⟨id, g.scopeOf id, g.resolve? (g.scopeOf id) name, access, false⟩
  | init {id : NodeId} {name : String} (hname : usedName? t id = some name)
      (hrole : t.role id = .binding) (hinit : id ∈ initialized) :
      Recorded t initialized g ⟨id, g.scopeOf id, g.binding? id, .write, true⟩

theorem Recorded.congr {t : Tree} {initialized : List NodeId} {g g' : ScopeGraph} {r : Reference}
    (h : Recorded t initialized g r) (hext : g.Extends g') : Recorded t initialized g' r := by
  cases h with
  | use hname hrole =>
    rw [← hext.scopeOf, ← hext.resolve?]
    exact .use hname hrole
  | init hname hrole hinit =>
    rw [← hext.scopeOf, ← hext.binding?]
    exact .init hname hrole hinit

theorem collect_cases (t : Tree) (initialized : List NodeId) (g : ScopeGraph) (id : NodeId) :
    (∃ r, Recorded t initialized g r ∧ r.identifier = id ∧
      collect t initialized g id = g.addReference r) ∨
    collect t initialized g id = g ∧
      ∀ name access, usedName? t id = some name → t.role id ≠ .reference access := by
  unfold collect
  cases hname : usedName? t id with
  | none => exact .inr ⟨rfl, by simp⟩
  | some name =>
    cases hrole : t.role id with
    | none => exact .inr ⟨rfl, by simp⟩
    | reference access => exact .inl ⟨_, .use hname hrole, rfl, rfl⟩
    | binding =>
      by_cases hinit : id ∈ initialized
      · refine .inl ⟨_, .init hname hrole hinit, rfl, ?_⟩
        simp [hinit]
      · refine .inr ⟨?_, by simp⟩
        simp [hinit]

theorem references_addReference (g : ScopeGraph) (r : Reference) :
    (g.addReference r).references = g.references.push r := rfl

theorem getElem?_vars_addReference (g : ScopeGraph) (r : Reference) (v : Nat) :
    (g.addReference r).vars[v]? = if r.resolved = some v then
      g.vars[v]?.map fun var => { var with references := var.references ++ [g.references.size] }
      else g.vars[v]? := by
  unfold addReference
  cases hr : r.resolved with
  | none => simp
  | some w => simp only [Array.getElem?_modify, Option.some.injEq]

def Lists (g : ScopeGraph) : Prop :=
  ∀ i v : Nat, (∃ r, g.references[i]? = some r ∧ r.resolved = some v) ↔
    ∃ var, g.vars[v]? = some var ∧ i ∈ var.references

theorem Lists.addReference {g : ScopeGraph} (h : g.Lists) {r : Reference}
    (hr : ∀ v ∈ r.resolved, v < g.vars.size) : (g.addReference r).Lists := by
  intro i v
  rw [references_addReference, getElem?_vars_addReference, Array.getElem?_push]
  by_cases hi : i = g.references.size
  · subst hi
    have hnew (var : Variable) (hvar : g.vars[v]? = some var) :
        g.references.size ∉ var.references := by
      intro hmem
      obtain ⟨r', hr', -⟩ := (h g.references.size v).2 ⟨var, hvar, hmem⟩
      simp at hr'
    by_cases hv : r.resolved = some v
    · obtain ⟨var, hvar⟩ : ∃ var, g.vars[v]? = some var :=
        ⟨_, Array.getElem?_eq_getElem (hr v hv)⟩
      simp [hv, hvar]
    · simp only [↓reduceIte, Option.some.injEq, exists_eq_left', hv, false_iff, not_exists, not_and]
      exact hnew
  · rw [if_neg hi, h i v]
    by_cases hv : r.resolved = some v
    · rw [if_pos hv]
      cases g.vars[v]? with
      | none => simp
      | some var => simp [hi]
    · rw [if_neg hv]

structure Collected (t : Tree) (d : Declaring) (visited : List NodeId) (g : ScopeGraph) : Prop where
  extends_ : d.graph.Extends g
  sound : ∀ r ∈ g.references, r.identifier ∈ visited ∧ Recorded t d.initialized d.graph r
  complete : ∀ id ∈ visited, ∀ name access, usedName? t id = some name →
    t.role id = .reference access → ∃ r ∈ g.references, r.identifier = id
  lists : g.Lists
  identifiers : ∀ v : Nat, g.vars[v]?.map Variable.identifiers =
    d.graph.vars[v]?.map Variable.identifiers

theorem Collected.resolved_lt {t : Tree} {d : Declaring} (hd : d.Invariant t) {r : Reference}
    (h : Recorded t d.initialized d.graph r) : ∀ v ∈ r.resolved, v < d.graph.vars.size := by
  intro v hv
  cases h with
  | use hname hrole =>
    obtain ⟨home, -, hhome⟩ := hd.wellFormed.home_of_resolve? hv
    obtain ⟨var, hvar, -⟩ := WellFormed.varAt?_of_home hhome
    exact (Array.getElem?_eq_some_iff.1 hvar).1
  | init hname hrole hinit => exact hd.bound _ v hv

theorem Collected.step {t : Tree} {d : Declaring} (hd : d.Invariant t) {visited : List NodeId}
    {g : ScopeGraph} (h : Collected t d visited g) (id : NodeId) :
    Collected t d (visited ++ [id]) (collect t d.initialized g id) := by
  obtain ⟨r, hrec, rfl, heq⟩ | ⟨heq, hnone⟩ := collect_cases t d.initialized g id
  · have hback : g.Extends d.graph := ⟨h.extends_.scopes.symm, h.extends_.nodeScopes.symm,
      h.extends_.bindings.symm, h.extends_.homes.symm⟩
    have hrec' := hrec.congr hback
    rw [heq]
    refine ⟨h.extends_.trans (g.extends_addReference r), ?_, ?_, ?_, ?_⟩
    · intro r' hr'
      rw [references_addReference, Array.mem_push] at hr'
      rcases hr' with hr' | rfl
      · exact ⟨List.mem_append_left _ (h.sound r' hr').1, (h.sound r' hr').2⟩
      · exact ⟨by simp, hrec'⟩
    · intro id' hid' name access hname hrole
      rw [references_addReference]
      rcases List.mem_append.1 hid' with hid' | hid'
      · obtain ⟨r', hr', hid⟩ := h.complete id' hid' name access hname hrole
        exact ⟨r', Array.mem_push_of_mem r hr', hid⟩
      · exact ⟨r, Array.mem_push_self, (List.mem_singleton.1 hid').symm⟩
    · refine h.lists.addReference ?_
      rw [h.extends_.size_vars]
      exact Collected.resolved_lt hd hrec'
    · intro v
      rw [getElem?_vars_addReference, ← h.identifiers v]
      split
      · rw [Option.map_map]
        rfl
      · rfl
  · rw [heq]
    refine ⟨h.extends_, ?_, ?_, h.lists, h.identifiers⟩
    · intro r hr
      exact ⟨List.mem_append_left _ (h.sound r hr).1, (h.sound r hr).2⟩
    · intro id' hid' name access hname hrole
      rcases List.mem_append.1 hid' with hid' | hid'
      · exact h.complete id' hid' name access hname hrole
      · rw [List.mem_singleton.1 hid'] at hname hrole
        exact absurd hrole (hnone name access hname)

theorem Collected.foldl {t : Tree} {d : Declaring} (hd : d.Invariant t) (rest : List NodeId)
    {visited : List NodeId} {g : ScopeGraph} (h : Collected t d visited g) :
    Collected t d (visited ++ rest) (rest.foldl (collect t d.initialized) g) := by
  induction rest generalizing visited g with
  | nil => simpa using h
  | cons id rest ih => simpa using ih (h.step hd id)

theorem collected_ofTree (t : Tree) : Collected t (Declaring.run t) t.preorder (ofTree t) := by
  have hd := Declaring.invariant_run t
  have before : Collected t (Declaring.run t) [] (Declaring.run t).graph := by
    refine ⟨⟨rfl, rfl, rfl, rfl⟩, ?_, by simp, ?_, fun _ => rfl⟩
    · rw [hd.noReferences]
      simp
    · intro i v
      rw [hd.noReferences]
      constructor
      · simp
      · rintro ⟨var, hvar, hi⟩
        rw [hd.unused v var hvar] at hi
        simp at hi
  exact before.foldl hd t.preorder

theorem wellFormed_ofTree (t : Tree) : (ofTree t).WellFormed :=
  (Declaring.invariant_run t).wellFormed.congr (collected_ofTree t).extends_.scopes
    (collected_ofTree t).extends_.homes

theorem recorded_ofTree {t : Tree} {r : Reference} (h : r ∈ (ofTree t).references) :
    Recorded t (Declaring.run t).initialized (ofTree t) r :=
  ((collected_ofTree t).sound r h).2.congr (collected_ofTree t).extends_

theorem mem_referencesOf_ofTree {t : Tree} {v : VariableId} {r : Reference} :
    r ∈ (ofTree t).referencesOf v ↔ r ∈ (ofTree t).references ∧ r.resolved = some v := by
  have hlists := (collected_ofTree t).lists
  unfold referencesOf
  constructor
  · intro h
    split at h
    · rename_i var hvar
      obtain ⟨i, hi, hr⟩ := List.mem_filterMap.1 h
      obtain ⟨r', hr', hres⟩ := (hlists i v).2 ⟨var, hvar, hi⟩
      rw [hr, Option.some.injEq] at hr'
      subst hr'
      exact ⟨Array.mem_of_getElem? hr, hres⟩
    · simp at h
  · rintro ⟨hmem, hres⟩
    obtain ⟨i, hi⟩ := Array.getElem?_of_mem hmem
    obtain ⟨var, hvar, hlist⟩ := (hlists i v).1 ⟨r, hi, hres⟩
    rw [hvar]
    exact List.mem_filterMap.2 ⟨i, hlist, hi⟩

theorem identifierName?_of_mem_identifiers {t : Tree} {v : VariableId} {var : Variable}
    (hv : (ofTree t).varAt? v = some var) {id : NodeId} (hid : id ∈ var.identifiers) :
    t.identifierName? id = some var.name := by
  have hd := Declaring.invariant_run t
  have hc := collected_ofTree t
  have hids := hc.identifiers v
  have hhome := congrArg (·[v]?) hc.extends_.homes
  have hv' : (ofTree t).vars[v]? = some var := hv
  simp only [homes_getElem?, hv', Option.map_some] at hids hhome
  obtain ⟨old, hold, hsame⟩ := Option.map_eq_some_iff.1 hids.symm
  simp only [hold, Option.map_some, Option.some.injEq, Prod.mk.injEq] at hhome
  rw [hhome.1]
  exact hd.named v old hold id (hsame ▸ hid)

end ScopeGraph

end ScriptLint
