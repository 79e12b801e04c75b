import ScriptLint.Proofs.DeclaringRun

/-! The identifiers that a finished scope graph has bound. They are those that some node declares,
each to the one variable that lists it. -/
namespace ScriptLint

namespace ScopeGraph

variable {t : Tree}

/-! The second pass changes nothing of this. -/

theorem map_vars_addReference (g : ScopeGraph) (r : Reference) :
    (g.addReference r).vars.map (fun var => { var with references := [] }) =
      g.vars.map fun var => { var with references := [] } := by
  apply Array.ext_getElem?
  intro v
  rw [Array.getElem?_map, Array.getElem?_map, getElem?_vars_addReference]
  split
  · rw [Option.map_map]
    rfl
  · rfl

theorem map_vars_ofTree (t : Tree) :
    (ofTree t).vars.map (fun var => { var with references := [] }) =
      (Declaring.run t).graph.vars := by
  have hfold (nodes : List NodeId) (g : ScopeGraph) :
      (nodes.foldl (collect t (Declaring.run t).initialized) g).vars.map
          (fun var => { var with references := [] }) =
        g.vars.map fun var => { var with references := [] } := by
    induction nodes generalizing g with
    | nil => rfl
    | cons node nodes ih =>
      rw [List.foldl_cons, ih]
      obtain ⟨r, -, -, heq⟩ | ⟨heq, -⟩ := collect_cases t (Declaring.run t).initialized g node
      · rw [heq, map_vars_addReference]
      · rw [heq]
  rw [ofTree, hfold]
  apply Array.ext_getElem?
  intro v
  rw [Array.getElem?_map]
  cases hvar : (Declaring.run t).graph.vars[v]? with
  | none => rfl
  | some var =>
    have hnone := (Declaring.invariant_run t).unused v var hvar
    rw [Option.map_some, ← hnone]

theorem getElem?_vars_run {v : Nat} {var : Variable} (hv : (ofTree t).vars[v]? = some var) :
    (Declaring.run t).graph.vars[v]? = some { var with references := [] } := by
  rw [← map_vars_ofTree, Array.getElem?_map, hv]
  rfl

def declarationLog (t : Tree) : DeclarationLog :=
  t.preorder.flatMap (Declaring.declarations t (ofTree t))

theorem declarations_ofTree (t : Tree) (node : NodeId) :
    Declaring.declarations t (ofTree t) node =
      Declaring.declarations t (Declaring.run t).graph node := by
  have hext := (collected_ofTree t).extends_
  have hscopeOf : (ofTree t).scopeOf = (Declaring.run t).graph.scopeOf :=
    funext fun n => hext.scopeOf n
  have htarget (s : ScopeId) : (ofTree t).outerTarget t node s =
      (Declaring.run t).graph.outerTarget t node s := by
    simp only [outerTarget, hoistingTarget, hext.outwards, hext.scopes]
  rw [Declaring.declarations, Declaring.declarations, htarget, Declaring.scopeAround,
    Declaring.scopeAround, hscopeOf]

def formTarget (t : Tree) (g : ScopeGraph) (node : NodeId) (form : Tree.DeclarationForm) :
    ScopeId :=
  if form.isOuter then g.outerTarget t node (Declaring.scopeAround t g node) else g.scopeOf node

theorem mem_declarations (h : t.WellLinked) {g : ScopeGraph} {node id : NodeId} {s : ScopeId} :
    (id, s) ∈ Declaring.declarations t g node ↔
      ∃ form, t.Declares node form id ∧ s = formTarget t g node form := by
  simp only [Declaring.declarations, List.mem_append, List.mem_map, Prod.mk.injEq,
    Tree.mem_outerIdentifiers h, Tree.mem_innerIdentifiers h]
  constructor
  · rintro (⟨id, ⟨form, hform, hdeclares⟩, rfl, rfl⟩ | ⟨id, ⟨form, hform, hdeclares⟩, rfl, rfl⟩)
    · exact ⟨form, hdeclares, by simp [formTarget, hform]⟩
    · exact ⟨form, hdeclares, by simp [formTarget, hform]⟩
  · rintro ⟨form, hdeclares, rfl⟩
    cases hform : form.isOuter with
    | true => exact .inl ⟨id, ⟨form, hform, hdeclares⟩, rfl, by simp [formTarget, hform]⟩
    | false => exact .inr ⟨id, ⟨form, hform, hdeclares⟩, rfl, by simp [formTarget, hform]⟩

theorem lt_size_of_declares {node id : NodeId} {form : Tree.DeclarationForm}
    (hdeclares : t.Declares node form id) : node < t.size := by
  refine Nat.lt_of_not_le fun hle => ?_
  have hkind := Tree.kind_of_size_le hle
  cases hdeclares <;> simp_all [NodeKind.fn?]

theorem mem_declarationLog (h : t.WellLinked) {id : NodeId} {s : ScopeId} :
    (id, s) ∈ declarationLog t ↔
      ∃ node form, t.Declares node form id ∧ s = formTarget t (ofTree t) node form := by
  simp only [declarationLog, List.mem_flatMap, mem_declarations h, h.mem_preorder]
  constructor
  · rintro ⟨node, -, form, hdeclares, rfl⟩
    exact ⟨node, form, hdeclares, rfl⟩
  · rintro ⟨node, form, hdeclares, rfl⟩
    exact ⟨node, lt_size_of_declares hdeclares, form, hdeclares, rfl⟩

theorem nodup_declarationLog (h : t.WellLinked) : ((declarationLog t).map Prod.fst).Nodup := by
  have hnodup := Tree.nodup_flatMap_declared h
    (h.preorder_perm_range.nodup_iff.2 List.nodup_range)
  have hfst (node : NodeId) : (Declaring.declarations t (ofTree t) node).map Prod.fst =
      t.outerIdentifiers node ++ t.innerIdentifiers node := by
    simp [Declaring.declarations, Function.comp_def]
  rw [declarationLog, List.map_flatMap]
  simpa only [hfst] using hnodup

theorem scope_unique (h : t.WellLinked) {id : NodeId} {s s' : ScopeId}
    (hs : (id, s) ∈ declarationLog t) (hs' : (id, s') ∈ declarationLog t) : s = s' :=
  congrArg Prod.snd (List.inj_on_of_nodup_map (nodup_declarationLog h) hs hs' rfl)

section Finished

variable (h : t.WellLinked) (hroot : ∃ body sourceType, t.kind t.root = .program body sourceType)
include h hroot

theorem logs_ofTree : (ofTree t).Logs t (declarationLog t) := by
  have hext := (collected_ofTree t).extends_
  have hlogs := (Declaring.placed_run h hroot).logged.logs
  have hlog : declarationLog t =
      t.preorder.flatMap (Declaring.declarations t (Declaring.run t).graph) := by
    rw [declarationLog, funext (declarations_ofTree t)]
  rw [← hlog] at hlogs
  refine ⟨?_, ?_, ?_, ?_, ?_, ?_, ?_⟩
  · rw [hext.bindings, hlogs.size_bindings]
  · intro v var hvar
    have := hlogs.identifiers v _ (getElem?_vars_run hvar)
    exact this
  · intro v var hvar
    have := hlogs.definitions v _ (getElem?_vars_run hvar)
    exact this
  · rw [hext.scopes]
    exact hlogs.keys
  · intro entry hentry name hname
    simpa only [findInScope?, hext.scopes] using hlogs.found entry hentry name hname
  · intro entry hentry hname
    rw [hext.binding?]
    exact hlogs.binds entry hentry hname
  · intro id v hv
    rw [hext.binding?] at hv
    obtain ⟨var, hvar, hid⟩ := hlogs.bound id v hv
    rw [← map_vars_ofTree, Array.getElem?_map] at hvar
    obtain ⟨new, hnew, rfl⟩ := Option.map_eq_some_iff.1 hvar
    exact ⟨new, hnew, hid⟩

theorem identifiers_ofTree {v : VariableId} {var : Variable}
    (hv : (ofTree t).varAt? v = some var) :
    var.identifiers = (declarationLog t).identifiers t var.name var.scope :=
  (logs_ofTree h hroot).identifiers v var hv

theorem mem_identifiers_iff {v : VariableId} {var : Variable}
    (hv : (ofTree t).varAt? v = some var) {id : NodeId} :
    id ∈ var.identifiers ↔
      (id, var.scope) ∈ declarationLog t ∧ t.identifierName? id = some var.name := by
  simp [identifiers_ofTree h hroot hv, DeclarationLog.identifiers, and_comm]

theorem binding?_eq_some_iff {id : NodeId} {v : VariableId} :
    (ofTree t).binding? id = some v ↔
      ∃ var, (ofTree t).varAt? v = some var ∧ id ∈ var.identifiers := by
  have hlogs := logs_ofTree h hroot
  constructor
  · exact hlogs.bound id v
  · rintro ⟨var, hvar, hid⟩
    obtain ⟨hin, hname⟩ := (mem_identifiers_iff h hroot hvar).1 hid
    obtain ⟨w, hw⟩ := Option.isSome_iff_exists.1
      (hlogs.binds _ hin (Option.isSome_of_eq_some hname))
    obtain ⟨other, hother, hid'⟩ := hlogs.bound id w hw
    obtain ⟨hin', hname'⟩ := (mem_identifiers_iff h hroot hother).1 hid'
    have hhome : (ofTree t).homes[v]? = some (var.name, var.scope) := by
      rw [homes_getElem?, show (ofTree t).vars[v]? = some var from hvar]
      rfl
    have hhome' : (ofTree t).homes[w]? = some (var.name, var.scope) := by
      rw [homes_getElem?, hother, scope_unique h hin hin',
        Option.some.inj (hname.symm.trans hname')]
      rfl
    have hfind := (wellFormed_ofTree t).find_iff var.scope var.name
    rw [hw, ← (hfind v).2 hhome, ← (hfind w).2 hhome']

theorem isSome_binding?_iff {id : NodeId} :
    ((ofTree t).binding? id).isSome ↔
      (t.identifierName? id).isSome ∧ ∃ node form, t.Declares node form id := by
  constructor
  · intro hbound
    obtain ⟨v, hv⟩ := Option.isSome_iff_exists.1 hbound
    obtain ⟨var, hvar, hid⟩ := (binding?_eq_some_iff h hroot).1 hv
    obtain ⟨hin, hname⟩ := (mem_identifiers_iff h hroot hvar).1 hid
    obtain ⟨node, form, hdeclares, -⟩ := (mem_declarationLog h).1 hin
    exact ⟨Option.isSome_of_eq_some hname, node, form, hdeclares⟩
  · rintro ⟨hname, node, form, hdeclares⟩
    exact (logs_ofTree h hroot).binds (id, _)
      ((mem_declarationLog h).2 ⟨node, form, hdeclares, rfl⟩) hname

end Finished

end ScopeGraph

end ScriptLint
