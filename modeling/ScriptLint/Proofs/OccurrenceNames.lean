import ScriptLint.Proofs.RenamedRoles

/-! Whatever counts as an occurrence of a variable is a name in the source, and it is the variable's
name. -/
namespace ScriptLint

open ScopeGraph

def ScopeGraph.BindsNames (t : Tree) (g : ScopeGraph) : Prop :=
  ∀ id v, g.binding? id = some v →
    ∃ name home, g.homes[v]? = some (name, home) ∧ t.identifierName? id = some name

theorem ScopeGraph.WellFormed.homes_variableFor {g : ScopeGraph} (h : g.WellFormed) (scope : ScopeId)
    (name : String) (kind : BindingKind) :
    (g.variableFor scope name kind).1.homes[(g.variableFor scope name kind).2]? =
        some (name, scope) ∧
      ∀ (v : Nat) (home : String × ScopeId), g.homes[v]? = some home →
        (g.variableFor scope name kind).1.homes[v]? = some home := by
  cases hfind : g.findInScope? scope name with
  | some v =>
    rw [variableFor_of_some hfind]
    exact ⟨(h.find_iff scope name v).1 hfind, fun _ _ hold => hold⟩
  | none =>
    obtain ⟨hhomes, hv⟩ := g.homes_variableFor scope name kind hfind
    rw [hhomes, hv]
    refine ⟨by simp, ?_⟩
    intro v home hold
    rw [Array.getElem?_push, if_neg, hold]
    have := (Array.getElem?_eq_some_iff.1 hold).1
    omega

theorem ScopeGraph.BindsNames.declare {t : Tree} {g : ScopeGraph} (hg : g.BindsNames t)
    (h : g.WellFormed) (scope : ScopeId) (kind : BindingKind) (definition : NodeId)
    (nodes : List NodeId) (identifier : NodeId) :
    (g.declare t scope kind definition nodes identifier).BindsNames t := by
  cases hname : t.identifierName? identifier with
  | none =>
    rw [declare_eq_self t scope kind definition nodes g hname]
    exact hg
  | some name =>
    obtain ⟨declared, heq⟩ := declare_eq t scope kind definition nodes g hname
    obtain ⟨hnew, hold⟩ := h.homes_variableFor scope name kind
    have hhomes : (g.declare t scope kind definition nodes identifier).homes =
        (g.variableFor scope name kind).1.homes := by
      rw [heq]
      exact homes_modify _ _ _ fun _ => ⟨rfl, rfl⟩
    have hbindings : (g.variableFor scope name kind).1.bindings = g.bindings := by
      unfold variableFor
      split <;> rfl
    intro id v hv
    rw [hhomes]
    simp only [heq, binding?, hbindings, Array.getElem?_setIfInBounds] at hv
    split at hv
    · rename_i hid
      subst hid
      split at hv
      · simp only [Option.join_some, Option.some.injEq] at hv
        subst hv
        exact ⟨name, scope, hnew, hname⟩
      · simp at hv
    · obtain ⟨name', home, hhome, hname'⟩ := hg id v hv
      exact ⟨name', home, hold v _ hhome, hname'⟩

theorem Declaring.bindsNames_run (t : Tree) : (Declaring.run t).graph.BindsNames t := by
  have hrun : Declaring.Invariant t (run t) ∧ (run t).graph.BindsNames t := by
    refine (steps_run t).preserve (P := fun d => Invariant t d ∧ d.graph.BindsNames t) ?_
      ⟨invariant_start t, ?_⟩
    · rintro d e hstep ⟨hd, hbinds⟩
      refine ⟨hd.step d e hstep, ?_⟩
      cases hstep with
      | addScope kind node hs => exact hbinds
      | markInitialized hids => exact hbinds
      | place node hs => exact hbinds
      | declare kind definition nodes identifier hs =>
        exact hbinds.declare hd.wellFormed _ kind definition nodes identifier
    · intro id v hv
      have := (invariant_start t).bound id v hv
      simp [start, addScope, ScopeGraph.empty] at this
  exact hrun.2

theorem ScopeGraph.bindsNames_ofTree (t : Tree) : (ofTree t).BindsNames t := by
  have hext := (collected_ofTree t).extends_
  intro id v hv
  rw [hext.binding?] at hv
  rw [hext.homes]
  exact Declaring.bindsNames_run t id v hv

theorem ScopeGraph.usedName?_of_identifierName? {t : Tree} {id : NodeId} {name : String}
    (h : t.identifierName? id = some name) : usedName? t id = some name := by
  unfold Tree.identifierName? at h
  split at h
  · rename_i hkind
    cases h
    simp only [usedName?, hkind]
  · simp at h

theorem ScopeGraph.usedName?_of_mem_referencesOf {t : Tree} {v : VariableId} {var : Variable}
    (hv : (ofTree t).varAt? v = some var) {r : Reference} (hr : r ∈ (ofTree t).referencesOf v) :
    usedName? t r.identifier = some var.name := by
  obtain ⟨hmem, hresolved⟩ := mem_referencesOf_ofTree.1 hr
  have hname {name : String} {home : ScopeId} (hhome : (ofTree t).homes[v]? = some (name, home)) :
      name = var.name := by
    obtain ⟨var', hvar', rfl, -⟩ := WellFormed.varAt?_of_home hhome
    rw [hv, Option.some.injEq] at hvar'
    rw [hvar']
  cases recorded_ofTree hmem with
  | use hused hrole =>
    obtain ⟨home, -, hhome⟩ := (wellFormed_ofTree t).home_of_resolve? hresolved
    rw [hused, hname hhome]
  | init hused hrole hinit =>
    -- Here the reference is the binding itself, which was resolved without its name.
    obtain ⟨name, home, hhome, hid⟩ := bindsNames_ofTree t _ v hresolved
    rw [usedName?_of_identifierName? hid, hname hhome]

namespace SourceFile

theorem usedName?_of_mem_occurrences {s : Source} {v : VariableId} {target : Variable}
    (hv : (ofSource s).scopes.varAt? v = some target) {id : NodeId}
    (hid : id ∈ (ofSource s).occurrences v target) : usedName? s.tree id = some target.name := by
  rcases mem_occurrences.1 hid with hid | ⟨r, hr, rfl⟩
  · exact usedName?_of_identifierName? (identifierName?_of_mem_identifiers hv hid)
  · exact usedName?_of_mem_referencesOf hv hr

end SourceFile

end ScriptLint
