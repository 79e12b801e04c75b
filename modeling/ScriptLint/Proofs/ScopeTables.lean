import ScriptLint.Proofs.DeclaringSteps
import ScriptLint.Proofs.ScopeChain

/-! Consistency of the tables of a scope graph: a scope lists a variable under a name exactly if
the variable has that name and that scope, and a variable lists a reference exactly if the
reference resolves to it. -/
namespace ScriptLint

namespace ScopeGraph

def homes (g : ScopeGraph) : Array (String × ScopeId) := g.vars.map fun var => (var.name, var.scope)

theorem homes_getElem? (g : ScopeGraph) (v : VariableId) :
    g.homes[v]? = g.vars[v]?.map fun var => (var.name, var.scope) := by
  simp [homes]

structure WellFormed (g : ScopeGraph) : Prop where
  parentsPrecede : g.ParentsPrecede
  find_iff : ∀ s name v, g.findInScope? s name = some v ↔ g.homes[v]? = some (name, s)

theorem WellFormed.lt_size {g : ScopeGraph} (h : g.WellFormed) {v : VariableId} {name : String}
    {s : ScopeId} (hv : g.homes[v]? = some (name, s)) : s < g.scopes.size := by
  have hf := (h.find_iff s name v).2 hv
  refine Nat.lt_of_not_le fun hge => ?_
  rw [findInScope?, Array.getElem?_eq_none hge] at hf
  simp at hf

theorem WellFormed.eq_of_home {g : ScopeGraph} (h : g.WellFormed) {v w : VariableId} {name : String}
    {s : ScopeId} (hv : g.homes[v]? = some (name, s)) (hw : g.homes[w]? = some (name, s)) : v = w :=
  Option.some.inj (((h.find_iff s name v).2 hv).symm.trans ((h.find_iff s name w).2 hw))

theorem WellFormed.congr {g g' : ScopeGraph} (h : g.WellFormed) (hs : g'.scopes = g.scopes)
    (hv : g'.homes = g.homes) : g'.WellFormed where
  parentsPrecede s p hp := h.parentsPrecede s p (by simpa only [parent?, hs] using hp)
  find_iff s name v := by
    rw [hv, ← h.find_iff s name v, findInScope?, findInScope?, hs]

theorem homes_modify (g : ScopeGraph) (v : VariableId) (f : Variable → Variable)
    (hf : ∀ var, (f var).name = var.name ∧ (f var).scope = var.scope) :
    ({ g with vars := g.vars.modify v f } : ScopeGraph).homes = g.homes := by
  apply Array.ext_getElem?
  intro i
  rw [homes_getElem?, homes_getElem?, Array.getElem?_modify]
  split
  · rw [Option.map_map]
    apply Option.map_congr
    intro var _
    simp [hf var]
  · rfl

/-! A new scope. -/

theorem getElem?_scopes_addScope (g : ScopeGraph) (kind : ScopeKind) (node : NodeId)
    (parent : Option ScopeId) (s : Nat) :
    ∃ children, (g.addScope kind node parent).scopes[s]? =
      if s = g.scopes.size then some ⟨kind, node, parent, children, []⟩
      else g.scopes[s]?.map fun scope => { scope with children := scope.children ++ children } := by
  have hpush : (g.scopes.push ⟨kind, node, parent, [], []⟩)[s]? =
      if s = g.scopes.size then some ⟨kind, node, parent, [], []⟩ else g.scopes[s]? :=
    Array.getElem?_push
  cases parent with
  | none =>
    refine ⟨[], ?_⟩
    simp only [addScope, hpush, List.append_nil, Option.map_id']
  | some p =>
    simp only [addScope, Array.getElem?_modify, hpush]
    by_cases hs : s = g.scopes.size <;> by_cases hp : p = s
    · exact ⟨[g.scopes.size], by simp [hs, hp]⟩
    · exact ⟨[], by rw [if_neg hp, if_pos hs, if_pos hs]⟩
    · exact ⟨[g.scopes.size], by simp [hs, hp]⟩
    · exact ⟨[], by simp [hs, hp]⟩

theorem findInScope?_addScope (g : ScopeGraph) (kind : ScopeKind) (node : NodeId)
    (parent : Option ScopeId) (s : Nat) (name : String) :
    (g.addScope kind node parent).findInScope? s name = g.findInScope? s name := by
  obtain ⟨children, h⟩ := g.getElem?_scopes_addScope kind node parent s
  rw [findInScope?, findInScope?, h]
  split
  · rename_i hs
    simp [hs]
  · cases g.scopes[s]? <;> rfl

theorem parent?_addScope (g : ScopeGraph) (kind : ScopeKind) (node : NodeId)
    (parent : Option ScopeId) (s : Nat) :
    (g.addScope kind node parent).parent? s = if s = g.scopes.size then parent else g.parent? s := by
  obtain ⟨children, h⟩ := g.getElem?_scopes_addScope kind node parent s
  rw [parent?, parent?, h]
  split
  · rfl
  · cases g.scopes[s]? <;> rfl

theorem WellFormed.addScope {g : ScopeGraph} (h : g.WellFormed) (kind : ScopeKind) (node : NodeId)
    (parent : Option ScopeId) (hp : ∀ p ∈ parent, p < g.scopes.size) :
    (g.addScope kind node parent).WellFormed where
  parentsPrecede s p hs := by
    rw [parent?_addScope] at hs
    split at hs
    · rename_i heq
      rw [heq]
      exact hp p hs
    · exact h.parentsPrecede s p hs
  find_iff s name v := by
    rw [findInScope?_addScope]
    exact h.find_iff s name v

/-! A declared identifier. -/

theorem variableFor_of_some {g : ScopeGraph} {scope : ScopeId} {name : String} {v : VariableId}
    (hf : g.findInScope? scope name = some v) (kind : BindingKind) :
    g.variableFor scope name kind = (g, v) := by
  rw [variableFor, hf]

theorem findInScope?_variableFor (g : ScopeGraph) {scope : ScopeId} (name : String)
    (kind : BindingKind) (hs : scope < g.scopes.size) (s : ScopeId) (n : String) :
    (g.variableFor scope name kind).1.findInScope? s n =
      if s = scope ∧ n = name then some (g.variableFor scope name kind).2
      else g.findInScope? s n := by
  unfold variableFor
  split
  · rename_i v hv
    split
    · rename_i heq
      rw [heq.1, heq.2, hv]
    · rfl
  · rename_i hnone
    simp only [findInScope?, Array.getElem?_modify]
    by_cases hss : scope = s
    · subst hss
      have hscope : g.scopes[scope]? = some g.scopes[scope] := Array.getElem?_eq_getElem hs
      rw [findInScope?, hscope, Option.bind_some] at hnone
      simp only [hscope, ↓reduceIte, Option.map_some, Option.bind_some, List.lookup_append,
        true_and]
      by_cases hn : n = name
      · subst hn
        simp [hnone, List.lookup]
      · have hb : (n == name) = false := by simp [hn]
        simp [hn, List.lookup, hb]
    · have hss' : ¬ s = scope := fun h => hss h.symm
      simp [hss, hss']

theorem homes_variableFor (g : ScopeGraph) (scope : ScopeId) (name : String) (kind : BindingKind)
    (h : g.findInScope? scope name = none) :
    (g.variableFor scope name kind).1.homes = g.homes.push (name, scope) ∧
      (g.variableFor scope name kind).2 = g.homes.size := by
  unfold variableFor
  rw [h]
  simp [homes]

theorem WellFormed.variableFor {g : ScopeGraph} (h : g.WellFormed) {scope : ScopeId}
    (name : String) (kind : BindingKind) (hs : scope < g.scopes.size) :
    (g.variableFor scope name kind).1.WellFormed := by
  cases hf : g.findInScope? scope name with
  | some v =>
    rw [variableFor_of_some hf]
    exact h
  | none =>
    obtain ⟨hhomes, hv⟩ := g.homes_variableFor scope name kind hf
    constructor
    · intro s p hp
      refine h.parentsPrecede s p ?_
      unfold ScopeGraph.variableFor at hp
      rw [hf] at hp
      simp only [parent?, Array.getElem?_modify] at hp ⊢
      split at hp
      · rename_i heq
        subst heq
        cases hsc : g.scopes[scope]? <;> simp_all
      · exact hp
    · intro s n v
      rw [findInScope?_variableFor g name kind hs, hhomes, hv, Array.getElem?_push]
      by_cases hn : s = scope ∧ n = name
      · obtain ⟨rfl, rfl⟩ := hn
        have hnot : g.homes[v]? ≠ some (n, s) := by
          intro hv
          rw [← h.find_iff, hf] at hv
          simp at hv
        by_cases hvs : v = g.homes.size
        · simp [hvs]
        · simp [hvs, hnot, Ne.symm hvs]
      · rw [if_neg hn, h.find_iff]
        by_cases hvs : v = g.homes.size
        · subst hvs
          simp only [↓reduceIte, Option.some.injEq, Prod.mk.injEq]
          constructor
          · intro hsome
            rw [Array.getElem?_eq_none (Nat.le_refl _)] at hsome
            simp at hsome
          · rintro ⟨rfl, rfl⟩
            exact absurd ⟨rfl, rfl⟩ hn
        · simp [hvs]

theorem WellFormed.declare {g : ScopeGraph} (h : g.WellFormed) (t : Tree) {scope : ScopeId}
    (kind : BindingKind) (definition : NodeId) (nodes : List NodeId) (identifier : NodeId)
    (hs : scope < g.scopes.size) :
    (g.declare t scope kind definition nodes identifier).WellFormed := by
  cases hn : t.identifierName? identifier with
  | none =>
    rw [declare_eq_self t scope kind definition nodes g hn]
    exact h
  | some name =>
    obtain ⟨declared, heq⟩ := declare_eq t scope kind definition nodes g hn
    rw [heq]
    exact (h.variableFor name kind hs).congr rfl (homes_modify _ _ _ fun _ => ⟨rfl, rfl⟩)

theorem WellFormed.home_of_resolve? {g : ScopeGraph} (h : g.WellFormed) {s : ScopeId}
    {name : String} {v : VariableId} (hr : g.resolve? s name = some v) :
    ∃ home ∈ g.outwards s, g.homes[v]? = some (name, home) := by
  obtain ⟨home, hmem, hfind⟩ := List.exists_of_findSome?_eq_some hr
  exact ⟨home, hmem, (h.find_iff home name v).1 hfind⟩

theorem WellFormed.varAt?_of_home {g : ScopeGraph} {v : VariableId} {name : String} {s : ScopeId}
    (hv : g.homes[v]? = some (name, s)) :
    ∃ var, g.varAt? v = some var ∧ var.name = name ∧ var.scope = s := by
  rw [homes_getElem?] at hv
  obtain ⟨var, hvar, heq⟩ := Option.map_eq_some_iff.1 hv
  exact ⟨var, hvar, (Prod.mk.inj heq).1, (Prod.mk.inj heq).2⟩

end ScopeGraph

namespace Declaring

/-- What the declaring pass keeps true of its state. -/
structure Invariant (t : Tree) (d : Declaring) : Prop where
  wellFormed : d.graph.WellFormed
  noReferences : d.graph.references = #[]
  unused : ∀ (v : Nat) (var : Variable), d.graph.vars[v]? = some var → var.references = []
  named : ∀ (v : Nat) (var : Variable), d.graph.vars[v]? = some var →
    ∀ id ∈ var.identifiers, t.identifierName? id = some var.name
  bound : ∀ id v, d.graph.binding? id = some v → v < d.graph.vars.size
  initialized : ∀ id ∈ d.initialized, (t.identifierName? id).isSome

theorem invariant_start (t : Tree) : Invariant t (start t) where
  wellFormed := by
    have empty : (ScopeGraph.empty t.size).WellFormed := by
      constructor
      · intro s p hp
        simp [ScopeGraph.parent?, ScopeGraph.empty] at hp
      · intro s name v
        simp [ScopeGraph.findInScope?, ScopeGraph.homes, ScopeGraph.empty]
    exact empty.addScope .globalScope t.root none (by simp)
  noReferences := rfl
  unused v var h := by simp [start, ScopeGraph.addScope, ScopeGraph.empty] at h
  named v var h := by simp [start, ScopeGraph.addScope, ScopeGraph.empty] at h
  bound id v h := by
    simp [start, ScopeGraph.addScope, ScopeGraph.empty, ScopeGraph.binding?,
      Array.getElem?_replicate] at h
    split at h <;> simp at h
  initialized id h := by simp [start] at h

/-- Entries of the variables after a declaration: old ones, with the identifier put in at one of
the right name, or a fresh one. -/
theorem getElem?_vars_declare {t : Tree} {g : ScopeGraph} (h : g.WellFormed) {scope : ScopeId}
    (kind : BindingKind) (definition : NodeId) (nodes : List NodeId) {identifier : NodeId}
    {name : String} (hn : t.identifierName? identifier = some name) {i : Nat} {var : Variable}
    (hvar : (g.declare t scope kind definition nodes identifier).vars[i]? = some var) :
    (var.references = [] ∧ var.name = name ∧ var.identifiers = [identifier]) ∨
    ∃ old, g.vars[i]? = some old ∧ var.references = old.references ∧ var.name = old.name ∧
      (var.identifiers = old.identifiers ∨
        old.name = name ∧ var.identifiers = old.identifiers ++ [identifier]) := by
  obtain ⟨declared, heq⟩ := ScopeGraph.declare_eq t scope kind definition nodes g hn
  rw [heq] at hvar
  simp only [Array.getElem?_modify] at hvar
  cases hf : g.findInScope? scope name with
  | some v =>
    rw [ScopeGraph.variableFor_of_some hf] at hvar
    dsimp only at hvar
    split at hvar
    · rename_i hvi
      subst hvi
      obtain ⟨old, hold, rfl⟩ := Option.map_eq_some_iff.1 hvar
      have home := (h.find_iff scope name v).1 hf
      rw [ScopeGraph.homes_getElem?, hold] at home
      simp only [Option.map_some, Option.some.injEq, Prod.mk.injEq] at home
      exact .inr ⟨old, hold, rfl, rfl, .inr ⟨home.1, rfl⟩⟩
    · exact .inr ⟨var, hvar, rfl, rfl, .inl rfl⟩
  | none =>
    have hg : g.variableFor scope name kind = ({ g with
        vars := g.vars.push ⟨name, scope, kind, [], [], []⟩
        scopes := g.scopes.modify scope fun s =>
          { s with names := s.names ++ [(name, g.vars.size)] } }, g.vars.size) := by
      rw [ScopeGraph.variableFor, hf]
    rw [hg] at hvar
    simp only [Array.getElem?_push] at hvar
    by_cases hi : i = g.vars.size
    · subst hi
      simp only [↓reduceIte, Option.map_some, Option.some.injEq] at hvar
      subst hvar
      exact .inl ⟨rfl, rfl, rfl⟩
    · rw [if_neg (Ne.symm hi), if_neg hi] at hvar
      exact .inr ⟨var, hvar, rfl, rfl, .inl rfl⟩

theorem binding?_declare {t : Tree} {g : ScopeGraph} (h : g.WellFormed) {scope : ScopeId}
    (kind : BindingKind) (definition : NodeId) (nodes : List NodeId) {identifier : NodeId}
    {name : String} (hn : t.identifierName? identifier = some name)
    (hbound : ∀ id v, g.binding? id = some v → v < g.vars.size) {id v : Nat}
    (hb : (g.declare t scope kind definition nodes identifier).binding? id = some v) :
    v < (g.declare t scope kind definition nodes identifier).vars.size := by
  obtain ⟨declared, heq⟩ := ScopeGraph.declare_eq t scope kind definition nodes g hn
  rw [heq] at hb ⊢
  simp only [ScopeGraph.binding?, Array.getElem?_setIfInBounds, Array.size_modify] at hb ⊢
  have fresh : (g.variableFor scope name kind).2 < (g.variableFor scope name kind).1.vars.size ∧
      g.vars.size ≤ (g.variableFor scope name kind).1.vars.size ∧
      (g.variableFor scope name kind).1.bindings = g.bindings := by
    unfold ScopeGraph.variableFor
    split
    · rename_i v hf
      have home := (h.find_iff scope name v).1 hf
      rw [ScopeGraph.homes_getElem?] at home
      obtain ⟨var, hvar, -⟩ := Option.map_eq_some_iff.1 home
      exact ⟨(Array.getElem?_eq_some_iff.1 hvar).1, Nat.le_refl _, rfl⟩
    · simp
  rw [fresh.2.2] at hb
  split at hb
  · split at hb
    · simp only [Option.join_some, Option.some.injEq] at hb
      rw [← hb]
      exact fresh.1
    · simp at hb
  · exact Nat.lt_of_lt_of_le (hbound id v hb) fresh.2.1

theorem Invariant.step {t : Tree} (d e : Declaring) (hstep : Step t d e) (h : Invariant t d) :
    Invariant t e := by
  cases hstep with
  | @addScope kind node outer hs =>
    exact ⟨h.wellFormed.addScope kind node (some outer) (by simpa using hs), h.noReferences,
      h.unused, h.named, h.bound, h.initialized⟩
  | markInitialized hids =>
    refine ⟨h.wellFormed, h.noReferences, h.unused, h.named, h.bound, ?_⟩
    intro id hid
    rcases List.mem_append.1 hid with hid | hid
    · exact h.initialized id hid
    · exact hids id hid
  | place node hs =>
    exact ⟨h.wellFormed.congr rfl rfl, h.noReferences, h.unused, h.named, h.bound, h.initialized⟩
  | @declare scope kind definition nodes identifier hs =>
    cases hn : t.identifierName? identifier with
    | none =>
      rw [ScopeGraph.declare_eq_self t _ kind definition nodes d.graph hn]
      exact h
    | some name =>
      refine ⟨h.wellFormed.declare t kind definition nodes identifier hs, ?_, ?_, ?_, ?_,
        h.initialized⟩
      · obtain ⟨declared, heq⟩ := ScopeGraph.declare_eq t scope kind definition nodes d.graph hn
        rw [heq]
        dsimp only
        unfold ScopeGraph.variableFor
        split <;> exact h.noReferences
      · intro v var hvar
        obtain ⟨hr, -⟩ | ⟨old, hold, hr, -⟩ :=
          getElem?_vars_declare h.wellFormed kind definition nodes hn hvar
        · exact hr
        · rw [hr]
          exact h.unused v old hold
      · intro v var hvar id hid
        obtain ⟨-, hname, hids⟩ | ⟨old, hold, -, hname, hids⟩ :=
          getElem?_vars_declare h.wellFormed kind definition nodes hn hvar
        · rw [hids, List.mem_singleton] at hid
          rw [hid, hn, hname]
        · rw [hname]
          rcases hids with hids | ⟨hsame, hids⟩
          · exact h.named v old hold id (hids ▸ hid)
          · rw [hids, List.mem_append, List.mem_singleton] at hid
            rcases hid with hid | rfl
            · exact h.named v old hold id hid
            · rw [hn, hsame]
      · intro id v hb
        exact binding?_declare h.wellFormed kind definition nodes hn h.bound hb

theorem invariant_run (t : Tree) : Invariant t (run t) :=
  (steps_run t).preserve Invariant.step (invariant_start t)

end Declaring

end ScriptLint
