import ScriptLint.Proofs.DeclaredIdentifiers
import ScriptLint.Proofs.InnermostScopes
import ScriptLint.Proofs.OccurrenceNames

/-! The declaring pass kept as a log: which identifiers were declared so far, and in which scopes.
The log is a list that only grows, and the tables say what it says. -/
namespace ScriptLint

/-- Identifiers in the order of their declaration, with their scopes. -/
abbrev DeclarationLog := List (NodeId × ScopeId)

def DeclarationLog.identifiers (t : Tree) (log : DeclarationLog) (name : String) (scope : ScopeId) :
    List NodeId :=
  (log.filter fun entry => t.identifierName? entry.1 = some name ∧ entry.2 = scope).map Prod.fst

theorem DeclarationLog.identifiers_concat (t : Tree) (log : DeclarationLog) (id : NodeId)
    (home : ScopeId) (name : String) (scope : ScopeId) :
    (log ++ [(id, home)]).identifiers t name scope = log.identifiers t name scope ++
      if t.identifierName? id = some name ∧ home = scope then [id] else [] := by
  rw [identifiers, identifiers, List.filter_append, List.map_append]
  by_cases hsame : t.identifierName? id = some name ∧ home = scope <;> simp [hsame]

namespace ScopeGraph

def outline (g : ScopeGraph) : Array (ScopeKind × NodeId × Option ScopeId) :=
  g.scopes.map fun scope => (scope.kind, scope.node, scope.parent)

theorem size_outline (g : ScopeGraph) : g.outline.size = g.scopes.size := by
  simp [outline]

/-- The tables hold what a log says. -/
structure Logs (t : Tree) (log : DeclarationLog) (g : ScopeGraph) : Prop where
  size_bindings : g.bindings.size = t.size
  identifiers : ∀ (v : Nat) (var : Variable), g.vars[v]? = some var →
    var.identifiers = log.identifiers t var.name var.scope
  definitions : ∀ (v : Nat) (var : Variable), g.vars[v]? = some var →
    var.definitions.length = var.identifiers.length
  keys : ∀ (s : Nat) (scope : Scope), g.scopes[s]? = some scope →
    (scope.names.map Prod.fst).Nodup
  found : ∀ entry ∈ log, ∀ name, t.identifierName? entry.1 = some name →
    (g.findInScope? entry.2 name).isSome
  binds : ∀ entry ∈ log, (t.identifierName? entry.1).isSome → (g.binding? entry.1).isSome
  bound : ∀ id v, g.binding? id = some v →
    ∃ var, g.vars[v]? = some var ∧ id ∈ var.identifiers

theorem lt_size_of_identifierName? {t : Tree} {id : NodeId} (h : (t.identifierName? id).isSome) :
    id < t.size := by
  refine Nat.lt_of_not_le fun hle => ?_
  simp [Tree.identifierName?, Tree.kind_of_size_le hle] at h

variable {t : Tree} {log : DeclarationLog} {g : ScopeGraph}

theorem Logs.identifiers_eq_nil (h : g.Logs t log) {scope : ScopeId} {name : String}
    (hfind : g.findInScope? scope name = none) : log.identifiers t name scope = [] := by
  rw [DeclarationLog.identifiers, List.filter_eq_nil_iff.2]
  · rfl
  · intro entry hentry hsame
    simp only [decide_eq_true_eq] at hsame
    have := h.found entry hentry name hsame.1
    simp [hsame.2, hfind] at this

theorem notMem_names_of_findInScope? {scope : ScopeId} {name : String} {s : Scope}
    (hs : g.scopes[scope]? = some s) (hfind : g.findInScope? scope name = none) :
    name ∉ s.names.map Prod.fst := by
  intro hmem
  obtain ⟨entry, hentry, rfl⟩ := List.mem_map.1 hmem
  rw [findInScope?, hs, Option.bind_some, List.lookup_eq_none_iff] at hfind
  simpa using hfind entry hentry

theorem Logs.variableFor (h : g.Logs t log) {scope : ScopeId} (hs : scope < g.scopes.size)
    (name : String) (kind : BindingKind) : (g.variableFor scope name kind).1.Logs t log := by
  cases hfind : g.findInScope? scope name with
  | some v =>
    rw [variableFor_of_some hfind]
    exact h
  | none =>
    have hfound := g.findInScope?_variableFor name kind hs
    have heq : (g.variableFor scope name kind).1 = { g with
        vars := g.vars.push ⟨name, scope, kind, [], [], []⟩
        scopes := g.scopes.modify scope fun s =>
          { s with names := s.names ++ [(name, g.vars.size)] } } := by
      rw [ScopeGraph.variableFor, hfind]
    refine ⟨?_, ?_, ?_, ?_, ?_, ?_, ?_⟩
    · rw [heq]
      exact h.size_bindings
    · intro v var hvar
      rw [heq, Array.getElem?_push] at hvar
      split at hvar
      · cases hvar
        exact (h.identifiers_eq_nil hfind).symm
      · exact h.identifiers v var hvar
    · intro v var hvar
      rw [heq, Array.getElem?_push] at hvar
      split at hvar
      · cases hvar
        rfl
      · exact h.definitions v var hvar
    · intro s sc hsc
      rw [heq, Array.getElem?_modify] at hsc
      split at hsc
      · rename_i hss
        subst hss
        obtain ⟨old, hold, rfl⟩ := Option.map_eq_some_iff.1 hsc
        simpa using (h.keys scope old hold).concat (notMem_names_of_findInScope? hold hfind)
      · exact h.keys s sc hsc
    · intro entry hentry n hn
      rw [hfound]
      split
      · rfl
      · exact h.found entry hentry n hn
    · intro entry hentry hn
      rw [heq]
      exact h.binds entry hentry hn
    · intro id v hv
      rw [heq] at hv ⊢
      obtain ⟨var, hvar, hid⟩ := h.bound id v hv
      refine ⟨var, ?_, hid⟩
      have hlt := (Array.getElem?_eq_some_iff.1 hvar).1
      rw [Array.getElem?_push, if_neg (Nat.ne_of_lt hlt), hvar]

theorem binding?_setIfInBounds {identifier : NodeId} (hlt : identifier < g.bindings.size)
    (v : VariableId) (id : NodeId) :
    ScopeGraph.binding? { g with bindings := g.bindings.setIfInBounds identifier (some v) } id =
      if identifier = id then some v else g.binding? id := by
  simp only [ScopeGraph.binding?, Array.getElem?_setIfInBounds, hlt, ↓reduceIte]
  split <;> rfl

theorem Logs.identifiers_concat (h : g.Logs t log) (hg : g.WellFormed) {v : VariableId}
    {scope : ScopeId} {name : String} (hv : g.homes[v]? = some (name, scope)) {identifier : NodeId}
    (hname : t.identifierName? identifier = some name) {i : Nat} {var : Variable}
    (hvar : g.vars[i]? = some var) :
    (log ++ [(identifier, scope)]).identifiers t var.name var.scope =
      if v = i then var.identifiers ++ [identifier] else var.identifiers := by
  have hhome : g.homes[i]? = some (var.name, var.scope) := by
    rw [homes_getElem?, hvar]
    rfl
  rw [DeclarationLog.identifiers_concat, ← h.identifiers i var hvar]
  split
  · rename_i hsame
    cases hname.symm.trans hsame.1
    cases hsame.2
    rw [if_pos (hg.eq_of_home hv hhome)]
  · rename_i hother
    have hne : v ≠ i := by
      rintro rfl
      cases hv.symm.trans hhome
      exact hother ⟨hname, rfl⟩
    rw [if_neg hne, List.append_nil]

theorem Logs.enter (h : g.Logs t log) (hg : g.WellFormed) {v : VariableId} {scope : ScopeId}
    {name : String} (hv : g.homes[v]? = some (name, scope)) {identifier : NodeId}
    (hname : t.identifierName? identifier = some name) (definition : NodeId)
    (declared : Array (List VariableId)) :
    Logs t (log ++ [(identifier, scope)]) { g with
      vars := g.vars.modify v fun var => { var with
        identifiers := var.identifiers ++ [identifier]
        definitions := var.definitions ++ [definition] }
      bindings := g.bindings.setIfInBounds identifier (some v)
      declared } := by
  obtain ⟨home, hhome, -, -⟩ := WellFormed.varAt?_of_home hv
  have hhome : g.vars[v]? = some home := hhome
  have hvars (i : Nat) : (g.vars.modify v fun var => { var with
      identifiers := var.identifiers ++ [identifier]
      definitions := var.definitions ++ [definition] })[i]? = g.vars[i]?.map fun var =>
        if v = i then { var with
          identifiers := var.identifiers ++ [identifier]
          definitions := var.definitions ++ [definition] } else var := by
    rw [Array.getElem?_modify]
    split <;> simp
  have hlt : identifier < g.bindings.size := by
    rw [h.size_bindings]
    exact lt_size_of_identifierName? (by rw [hname]; rfl)
  refine ⟨by simpa using h.size_bindings, ?_, ?_, h.keys, ?_, ?_, ?_⟩
  · intro i var hvar
    rw [hvars] at hvar
    obtain ⟨old, hold, rfl⟩ := Option.map_eq_some_iff.1 hvar
    have hentry := h.identifiers_concat hg hv hname hold
    split <;> simp_all
  · intro i var hvar
    rw [hvars] at hvar
    obtain ⟨old, hold, rfl⟩ := Option.map_eq_some_iff.1 hvar
    have := h.definitions i old hold
    split <;> simp [this]
  · intro entry hin n hn
    rcases List.mem_append.1 hin with hin | hin
    · exact h.found entry hin n hn
    · cases List.mem_singleton.1 hin
      cases hname.symm.trans hn
      exact Option.isSome_of_eq_some ((hg.find_iff _ _ v).2 hv)
  · intro entry hin hn
    change (ScopeGraph.binding? { g with bindings := _ } entry.1).isSome
    rw [binding?_setIfInBounds hlt]
    split
    · rfl
    · rename_i hne
      rcases List.mem_append.1 hin with hin | hin
      · exact h.binds entry hin hn
      · cases List.mem_singleton.1 hin
        exact absurd rfl hne
  · intro id i hi
    change ScopeGraph.binding? { g with bindings := _ } id = some i at hi
    rw [binding?_setIfInBounds hlt] at hi
    simp only [hvars]
    split at hi
    · rename_i heq
      cases heq
      cases hi
      exact ⟨_, by rw [hhome]; rfl, by simp⟩
    · obtain ⟨var, hvar, hmem⟩ := h.bound id i hi
      refine ⟨_, by rw [hvar]; rfl, ?_⟩
      split
      · exact List.mem_append_left _ hmem
      · exact hmem

theorem Logs.declare (h : g.Logs t log) (hg : g.WellFormed) {scope : ScopeId}
    (hs : scope < g.scopes.size) (kind : BindingKind) (definition : NodeId) (nodes : List NodeId)
    (identifier : NodeId) :
    (g.declare t scope kind definition nodes identifier).Logs t (log ++ [(identifier, scope)]) := by
  cases hname : t.identifierName? identifier with
  | none =>
    rw [declare_eq_self t scope kind definition nodes g hname]
    have hsame (name : String) (s : ScopeId) :
        (log ++ [(identifier, scope)]).identifiers t name s = log.identifiers t name s := by
      rw [DeclarationLog.identifiers_concat, hname, if_neg (fun h => nomatch h.1), List.append_nil]
    refine ⟨h.size_bindings, ?_, h.definitions, h.keys, ?_, ?_, h.bound⟩
    · intro v var hvar
      rw [hsame]
      exact h.identifiers v var hvar
    · intro entry hin name hn
      rcases List.mem_append.1 hin with hin | hin
      · exact h.found entry hin name hn
      · cases List.mem_singleton.1 hin
        simp [hname] at hn
    · intro entry hin hn
      rcases List.mem_append.1 hin with hin | hin
      · exact h.binds entry hin hn
      · cases List.mem_singleton.1 hin
        simp [hname] at hn
  | some name =>
    obtain ⟨declared, heq⟩ := declare_eq t scope kind definition nodes g hname
    rw [heq]
    exact (h.variableFor hs name kind).enter (hg.variableFor name kind hs)
      (hg.homes_variableFor scope name kind).1 hname definition declared

theorem outline_declare (scope : ScopeId) (kind : BindingKind) (definition : NodeId)
    (nodes : List NodeId) (identifier : NodeId) :
    (g.declare t scope kind definition nodes identifier).outline = g.outline := by
  refine declare_frame outline t scope kind definition nodes g identifier (fun name => ?_)
    fun _ _ _ _ => rfl
  unfold ScopeGraph.variableFor
  split
  · rfl
  · apply Array.ext_getElem?
    intro s
    simp only [outline, Array.getElem?_map, Array.getElem?_modify]
    split <;> simp [Function.comp_def]

theorem Logs.addScope (h : g.Logs t log) (kind : ScopeKind) (node : NodeId)
    (parent : Option ScopeId) : (g.addScope kind node parent).Logs t log := by
  refine ⟨h.size_bindings, h.identifiers, h.definitions, ?_, ?_, h.binds, h.bound⟩
  · intro s scope hscope
    obtain ⟨children, heq⟩ := g.getElem?_scopes_addScope kind node parent s
    rw [heq] at hscope
    split at hscope
    · cases hscope
      exact List.nodup_nil
    · obtain ⟨old, hold, rfl⟩ := Option.map_eq_some_iff.1 hscope
      exact h.keys s old hold
  · intro entry hentry name hname
    rw [findInScope?_addScope]
    exact h.found entry hentry name hname

def outerTarget (t : Tree) (g : ScopeGraph) (node : NodeId) (outer : ScopeId) : ScopeId :=
  match t.kind node with
  | .variableDeclaration .varDecl _ => g.hoistingTarget outer
  | _ => outer

end ScopeGraph

namespace Declaring

variable {t : Tree} {entries entries' log : DeclarationLog} {d e f : Declaring}

structure Logged (t : Tree) (log : DeclarationLog) (d : Declaring) : Prop where
  invariant : d.Invariant t
  logs : d.graph.Logs t log
  initialized : ∀ id ∈ d.initialized, id ∈ log.map Prod.fst

structure Enters (t : Tree) (entries : DeclarationLog) (d e : Declaring) : Prop where
  outline : e.graph.outline = d.graph.outline
  nodeScopes : e.graph.nodeScopes = d.graph.nodeScopes
  logged : ∀ {log : DeclarationLog}, Logged t log d → Logged t (log ++ entries) e

theorem Enters.size_scopes (h : Enters t entries d e) :
    e.graph.scopes.size = d.graph.scopes.size := by
  rw [← e.graph.size_outline, h.outline, d.graph.size_outline]

theorem Enters.nothing : Enters t [] d d :=
  ⟨rfl, rfl, fun h => by rwa [List.append_nil]⟩

theorem Enters.trans (h : Enters t entries d e) (h' : Enters t entries' e f) :
    Enters t (entries ++ entries') d f :=
  ⟨h'.outline.trans h.outline, h'.nodeScopes.trans h.nodeScopes, fun hlog => by
    rw [← List.append_assoc]
    exact h'.logged (h.logged hlog)⟩

theorem enters_declareAll {scope : ScopeId} (hs : scope < d.graph.scopes.size)
    (kind : BindingKind) (definition : NodeId) (nodes identifiers : List NodeId) :
    Enters t (identifiers.map (·, scope)) d
      (d.declareAll t scope kind definition nodes identifiers) := by
  induction identifiers generalizing d with
  | nil => exact .nothing
  | cons identifier identifiers ih =>
    have hone : Enters t [(identifier, scope)] d
        { d with graph := d.graph.declare t scope kind definition nodes identifier } := by
      refine ⟨ScopeGraph.outline_declare .., ScopeGraph.nodeScopes_declare .., ?_⟩
      intro log h
      refine ⟨h.invariant.step d _ (.declare d kind definition nodes identifier hs),
        h.logs.declare h.invariant.wellFormed hs kind definition nodes identifier, ?_⟩
      intro id hid
      rw [List.map_append]
      exact List.mem_append_left _ (h.initialized id hid)
    exact hone.trans (ih (by rwa [hone.size_scopes]))

theorem enters_foldl {α : Type} {step : Declaring → α → Declaring} {identifiers : α → List NodeId}
    {scope : ScopeId}
    (hstep : ∀ d a, scope < d.graph.scopes.size →
      Enters t ((identifiers a).map (·, scope)) d (step d a))
    (l : List α) (hs : scope < d.graph.scopes.size) :
    Enters t ((l.flatMap identifiers).map (·, scope)) d (l.foldl step d) := by
  induction l generalizing d with
  | nil => exact .nothing
  | cons a l ih =>
    have hhead := hstep d a hs
    rw [List.flatMap_cons, List.map_append]
    exact hhead.trans (ih (by rwa [hhead.size_scopes]))

theorem enters_declarator {scope : ScopeId} (hs : scope < d.graph.scopes.size)
    (kind : BindingKind) (declaration node : NodeId) :
    Enters t ((t.declaratorIdentifiers node).map (·, scope)) d
      (d.declarator t scope kind declaration node) := by
  unfold declarator Tree.declaratorIdentifiers
  cases t.kind node with
  | variableDeclarator target init =>
    have hall := enters_declareAll (t := t) hs kind node [declaration, node]
      (t.bindingIdentifiers target)
    cases init with
    | none => exact hall
    | some init =>
      refine ⟨hall.outline, hall.nodeScopes, fun h => ?_⟩
      obtain ⟨hinvariant, hlogs, hinit⟩ := hall.logged h
      refine ⟨hinvariant.step _ _ (.markInitialized _ fun _ hid =>
        t.identifierName?_of_mem_bindingIdentifiers hid), hlogs, ?_⟩
      intro id hid
      rcases List.mem_append.1 hid with hid | hid
      · exact hinit id hid
      · rw [List.map_append, List.map_map]
        exact List.mem_append_right _ (List.mem_map.2 ⟨id, hid, rfl⟩)
  | _ => exact .nothing

theorem enters_specifier {scope : ScopeId} (hs : scope < d.graph.scopes.size)
    (declaration node : NodeId) :
    Enters t ((t.importBinding? node).toList.map (·, scope)) d
      (d.specifier t scope declaration node) := by
  unfold specifier Tree.importBinding?
  cases t.kind node <;> exact enters_declareAll hs ..

theorem enters_outerBindings {outer : ScopeId} (hs : outer < d.graph.scopes.size) (node : NodeId) :
    Enters t ((t.outerIdentifiers node).map (·, d.graph.outerTarget t node outer)) d
      (d.outerBindings t node outer) := by
  unfold outerBindings Tree.outerIdentifiers ScopeGraph.outerTarget
  cases t.kind node with
  | functionDeclaration | classDeclaration => exact enters_declareAll hs ..
  | variableDeclaration kind declarations =>
    cases kind with
    | varDecl =>
      exact enters_foldl (fun d a h => enters_declarator h ..) declarations
        (d.graph.hoistingTarget_lt hs)
    | letDecl | constDecl =>
      exact enters_foldl (fun d a h => enters_declarator h ..) declarations hs
  | importDeclaration => exact enters_foldl (fun d a h => enters_specifier h ..) _ hs
  | _ => exact .nothing

theorem enters_innerBindings {scope : ScopeId} (hs : scope < d.graph.scopes.size) (node : NodeId) :
    Enters t ((t.innerIdentifiers node).map (·, scope)) d (d.innerBindings t node scope) := by
  have hparameters (fn : FunctionShape NodeId) {d : Declaring} (hs : scope < d.graph.scopes.size) :
      Enters t ((t.parameterIdentifiers fn).map (·, scope)) d (fn.params.foldl (fun d param =>
        d.declareAll t scope .parameter node [node] (t.bindingIdentifiers param)) d) :=
    enters_foldl (fun d param h => enters_declareAll h ..) fn.params hs
  unfold innerBindings Tree.innerIdentifiers
  cases t.kind node with
  | functionExpression fn =>
    have hname := enters_declareAll (t := t) hs .functionBinding node [node] fn.id.toList
    rw [List.map_append]
    exact hname.trans (hparameters fn (by rwa [hname.size_scopes]))
  | functionDeclaration fn | arrowFunction fn => exact hparameters fn hs
  | classExpression => exact enters_declareAll hs ..
  | catchClause param body =>
    cases param with
    | none => exact .nothing
    | some param => exact enters_declareAll hs ..
  | _ => exact .nothing

end Declaring

end ScriptLint
