import ScriptLint.Proofs.ScopeMirror

/-! Names, variables and references of a finished scope graph agree with one another: each table can
be read off the others, and a use of a name means the variable of the nearest scope that declares
it. -/
namespace ScriptLint

namespace ScopeGraph

def IsDeclaredIn (g : ScopeGraph) (s : ScopeId) (name : String) (v : VariableId) : Prop :=
  ∃ var, g.varAt? v = some var ∧ var.name = name ∧ var.scope = s

def DeclaresName (t : Tree) (g : ScopeGraph) (s : ScopeId) (name : String) : Prop :=
  ∃ node form id, t.Declares node form id ∧ t.identifierName? id = some name ∧
    Demands t g node form s

/-- The nearest scope outwards that declares the name has this variable for it. -/
def Nearest (t : Tree) (g : ScopeGraph) (s : ScopeId) (name : String) (v : VariableId) : Prop :=
  ∃ inner home outer, g.outwards s = inner ++ home :: outer ∧
    (∀ a ∈ inner, ¬DeclaresName t g a name) ∧ g.IsDeclaredIn home name v

structure Integrity (t : Tree) (g : ScopeGraph) : Prop where
  find_iff : ∀ s name v, g.findInScope? s name = some v ↔ g.IsDeclaredIn s name v
  names_nodup : ∀ (s : Nat) scope, g.scopes[s]? = some scope →
    (scope.names.map Prod.fst).Nodup ∧ (scope.names.map Prod.snd).Nodup
  names_iff : ∀ (s : Nat) scope, g.scopes[s]? = some scope →
    ∀ name v, (name, v) ∈ scope.names ↔ g.IsDeclaredIn s name v
  declares_iff : ∀ s name, (∃ v, g.IsDeclaredIn s name v) ↔ DeclaresName t g s name
  /-- Uses, wherever the declaration stands. -/
  use : ∀ r ∈ g.references, r.init = false → ∃ name, usedName? t r.identifier = some name ∧
    r.scope = g.scopeOf r.identifier ∧ (∀ v, r.resolved = some v ↔ Nearest t g r.scope name v) ∧
    (r.resolved = none ↔ ∀ a ∈ g.outwards r.scope, ¬DeclaresName t g a name)
  /-- Writes by which declarations initialize their own variables. -/
  init : ∀ r ∈ g.references, r.init = true →
    ∃ v, r.resolved = some v ∧ g.binding? r.identifier = some v
  listed : ∀ (i v : Nat), (∃ r, g.references[i]? = some r ∧ r.resolved = some v) ↔
    ∃ var, g.varAt? v = some var ∧ i ∈ var.references
  increasing : ∀ v var, g.varAt? v = some var → var.references.Pairwise (· < ·)
  preorder : (g.references.toList.map Reference.identifier).Sublist t.preorder
  once : ∀ (i j : Nat) r r', g.references[i]? = some r → g.references[j]? = some r' →
    r.identifier = r'.identifier → i = j
  binding_iff : ∀ id v, g.binding? id = some v ↔
    ∃ var, g.varAt? v = some var ∧ id ∈ var.identifiers
  owned : ∀ node form id, t.Declares node form id → (t.identifierName? id).isSome →
    ∃! v, ∃ var, g.varAt? v = some var ∧ id ∈ var.identifiers
  identifiers_nodup : ∀ v var, g.varAt? v = some var → var.identifiers.Nodup
  definitions : ∀ v var, g.varAt? v = some var → var.definitions.length = var.identifiers.length

/-! Scopes and their names. -/

theorem WellFormed.isDeclaredIn_iff {g : ScopeGraph} (hg : g.WellFormed) {s : ScopeId}
    {name : String} {v : VariableId} :
    g.IsDeclaredIn s name v ↔ g.findInScope? s name = some v := by
  rw [hg.find_iff]
  constructor
  · rintro ⟨var, hvar, rfl, rfl⟩
    rw [homes_getElem?, show g.vars[v]? = some var from hvar]
    rfl
  · exact fun hhome => WellFormed.varAt?_of_home hhome

theorem mem_names_iff {names : List (String × VariableId)} (hkeys : (names.map Prod.fst).Nodup)
    {name : String} {v : VariableId} : (name, v) ∈ names ↔ names.lookup name = some v := by
  constructor
  · intro hmem
    cases hlookup : names.lookup name with
    | none =>
      have := List.lookup_eq_none_iff.1 hlookup (name, v) hmem
      simp at this
    | some w =>
      obtain ⟨l, r, rfl, -⟩ := List.lookup_eq_some_iff.1 hlookup
      have := List.inj_on_of_nodup_map hkeys hmem (show (name, w) ∈ _ by simp) rfl
      rw [Prod.mk.injEq] at this
      rw [this.2]
  · intro hlookup
    obtain ⟨l, r, rfl, -⟩ := List.lookup_eq_some_iff.1 hlookup
    simp

theorem Hoists.unique {g : ScopeGraph} {s a b : ScopeId} (ha : g.Hoists s a) (hb : g.Hoists s b) :
    a = b := by
  have hfind {target : ScopeId} (h : g.Hoists s target) :
      (g.outwards s).find? g.takesHoisted = some target := by
    obtain ⟨inner, outer, hsplit, hinner, htarget⟩ := h
    refine List.find?_eq_some_iff_append.2 ⟨?_, inner, outer, hsplit, ?_⟩
    · rcases htarget with hkind | hkind | hkind <;> simp [takesHoisted, hkind]
    · intro x hx
      rcases hinner x hx with hkind | hkind <;> simp [takesHoisted, hkind]
  exact Option.some.inj ((hfind ha).symm.trans (hfind hb))

theorem Demands.unique {t : Tree} {g : ScopeGraph} {node : NodeId} {form : Tree.DeclarationForm}
    {a b : ScopeId} (ha : Demands t g node form a) (hb : Demands t g node form b) : a = b := by
  have haround (ha : ∃ p, t.parent? node = some p ∧ a = g.scopeOf p)
      (hb : ∃ p, t.parent? node = some p ∧ b = g.scopeOf p) : a = b := by
    obtain ⟨p, hp, rfl⟩ := ha
    obtain ⟨q, hq, rfl⟩ := hb
    rw [Option.some.inj (hp.symm.trans hq)]
  cases form with
  | functionDeclaration | classDeclaration | imported => exact haround ha hb
  | variableDeclaration kind =>
    cases kind with
    | varDecl =>
      obtain ⟨p, hp, ha⟩ := ha
      obtain ⟨q, hq, hb⟩ := hb
      cases hp.symm.trans hq
      exact ha.unique hb
    | letDecl | constDecl => exact haround ha hb
  | functionExpression | parameter | classExpression | catchParameter => exact ha.trans hb.symm

theorem identifiers_ne_nil_run (t : Tree) {v : Nat} {var : Variable}
    (hv : (Declaring.run t).graph.vars[v]? = some var) : var.identifiers ≠ [] := by
  have hrun : Declaring.Invariant t (Declaring.run t) ∧ ∀ (v : Nat) (var : Variable),
      (Declaring.run t).graph.vars[v]? = some var → var.identifiers ≠ [] := by
    refine (Declaring.steps_run t).preserve
      (P := fun d => d.Invariant t ∧ ∀ (v : Nat) (var : Variable),
        d.graph.vars[v]? = some var → var.identifiers ≠ []) ?_
      ⟨Declaring.invariant_start t, by simp [Declaring.start, addScope, ScopeGraph.empty]⟩
    rintro d e hstep ⟨hd, hids⟩
    refine ⟨hd.step d e hstep, ?_⟩
    cases hstep with
    | addScope kind node hs => exact hids
    | markInitialized hids' => exact hids
    | place node hs => exact hids
    | declare kind definition nodes identifier hs =>
      intro v var hvar
      cases hname : t.identifierName? identifier with
      | none =>
        rw [declare_eq_self t _ kind definition nodes d.graph hname] at hvar
        exact hids v var hvar
      | some name =>
        obtain ⟨-, -, hnew⟩ | ⟨old, hold, -, -, hsame | ⟨-, hlonger⟩⟩ :=
          Declaring.getElem?_vars_declare hd.wellFormed kind definition nodes hname hvar
        · simp [hnew]
        · rw [hsame]
          exact hids v old hold
        · simp [hlonger]
  exact hrun.2 v var hv

/-! The order of the references. -/

structure InOrder (visited : List NodeId) (g : ScopeGraph) : Prop where
  sublist : (g.references.toList.map Reference.identifier).Sublist visited
  below : ∀ (v : Nat) var, g.vars[v]? = some var → ∀ i ∈ var.references, i < g.references.size
  increasing : ∀ (v : Nat) var, g.vars[v]? = some var → var.references.Pairwise (· < ·)

theorem InOrder.addReference {visited : List NodeId} {g : ScopeGraph} (h : InOrder visited g)
    (r : Reference) : InOrder (visited ++ [r.identifier]) (g.addReference r) := by
  refine ⟨?_, ?_, ?_⟩
  · rw [references_addReference, Array.toList_push, List.map_append]
    exact h.sublist.append (List.Sublist.refl _)
  · intro v var hvar i hi
    rw [getElem?_vars_addReference] at hvar
    rw [references_addReference, Array.size_push]
    split at hvar
    · obtain ⟨old, hold, rfl⟩ := Option.map_eq_some_iff.1 hvar
      rcases List.mem_append.1 hi with hi | hi
      · exact Nat.lt_succ_of_lt (h.below v old hold i hi)
      · rw [List.mem_singleton.1 hi]
        exact Nat.lt_succ_self _
    · exact Nat.lt_succ_of_lt (h.below v var hvar i hi)
  · intro v var hvar
    rw [getElem?_vars_addReference] at hvar
    split at hvar
    · obtain ⟨old, hold, rfl⟩ := Option.map_eq_some_iff.1 hvar
      refine List.pairwise_append.2 ⟨h.increasing v old hold, List.pairwise_singleton _ _, ?_⟩
      intro i hi j hj
      rw [List.mem_singleton.1 hj]
      exact h.below v old hold i hi
    · exact h.increasing v var hvar

theorem inOrder_ofTree (t : Tree) : InOrder t.preorder (ofTree t) := by
  have hd := Declaring.invariant_run t
  have hstart : InOrder [] (Declaring.run t).graph := by
    refine ⟨by simp [hd.noReferences], ?_, ?_⟩
    · intro v var hvar
      simp [hd.unused v var hvar]
    · intro v var hvar
      simp [hd.unused v var hvar]
  have hfold (rest visited : List NodeId) {g : ScopeGraph} (h : InOrder visited g) :
      InOrder (visited ++ rest) (rest.foldl (collect t (Declaring.run t).initialized) g) := by
    induction rest generalizing visited g with
    | nil => simpa using h
    | cons id rest ih =>
      have hstep : InOrder (visited ++ [id]) (collect t (Declaring.run t).initialized g id) := by
        obtain ⟨r, -, rfl, heq⟩ | ⟨heq, -⟩ := collect_cases t (Declaring.run t).initialized g id
        · rw [heq]
          exact h.addReference r
        · rw [heq]
          exact ⟨h.sublist.trans (List.sublist_append_left ..), h.below, h.increasing⟩
      simpa using ih (visited ++ [id]) hstep
  exact hfold t.preorder [] hstart

section Finished

variable {t : Tree} (h : t.WellLinked)
  (hroot : ∃ body sourceType, t.kind t.root = .program body sourceType)
include h hroot

theorem exists_isDeclaredIn_iff {s : ScopeId} {name : String} :
    (∃ v, (ofTree t).IsDeclaredIn s name v) ↔ DeclaresName t (ofTree t) s name := by
  constructor
  · rintro ⟨v, var, hvar, rfl, rfl⟩
    obtain ⟨id, hid⟩ := List.exists_mem_of_ne_nil _
      (identifiers_ne_nil_run t (getElem?_vars_run (show (ofTree t).vars[v]? = some var from hvar)))
    obtain ⟨hname, node, form, hdeclares, hdemands⟩ :=
      exists_declares_of_mem_identifiers h hroot hvar hid
    exact ⟨node, form, id, hdeclares, hname, hdemands⟩
  · rintro ⟨node, form, id, hdeclares, hname, hdemands⟩
    obtain ⟨v, var, -, hvar, hid, hdemands'⟩ :=
      exists_variable_of_declares h hroot hdeclares (Option.isSome_of_eq_some hname)
    have hname' := (exists_declares_of_mem_identifiers h hroot hvar hid).1
    exact ⟨v, var, hvar, Option.some.inj (hname'.symm.trans hname), hdemands'.unique hdemands⟩

theorem findInScope?_eq_none_iff {s : ScopeId} {name : String} :
    (ofTree t).findInScope? s name = none ↔ ¬DeclaresName t (ofTree t) s name := by
  rw [← exists_isDeclaredIn_iff h hroot, Option.eq_none_iff_forall_ne_some, not_exists]
  simp only [(wellFormed_ofTree t).isDeclaredIn_iff, ne_eq]

theorem resolve?_eq_some_iff {s : ScopeId} {name : String} {v : VariableId} :
    (ofTree t).resolve? s name = some v ↔ Nearest t (ofTree t) s name v := by
  rw [resolve?, List.findSome?_eq_some_iff, Nearest]
  simp only [findInScope?_eq_none_iff h hroot, (wellFormed_ofTree t).isDeclaredIn_iff, and_comm]

theorem resolve?_eq_none_iff {s : ScopeId} {name : String} :
    (ofTree t).resolve? s name = none ↔
      ∀ a ∈ (ofTree t).outwards s, ¬DeclaresName t (ofTree t) a name := by
  rw [resolve?, List.findSome?_eq_none_iff]
  simp only [findInScope?_eq_none_iff h hroot]

theorem isSome_binding?_of_mem_initialized {id : NodeId}
    (hid : id ∈ (Declaring.run t).initialized) : ((ofTree t).binding? id).isSome := by
  have hlogged := (Declaring.placed_run h hroot).logged
  obtain ⟨entry, hentry, rfl⟩ := List.mem_map.1 (hlogged.initialized id hid)
  rw [(collected_ofTree t).extends_.binding?]
  exact hlogged.logs.binds entry hentry (hlogged.invariant.initialized _ hid)

theorem integrity_ofTree : (ofTree t).Integrity t := by
  have hwf := wellFormed_ofTree t
  have hlogs := logs_ofTree h hroot
  have horder := inOrder_ofTree t
  have hnames (s : Nat) (scope : Scope) (hscope : (ofTree t).scopes[s]? = some scope)
      (name : String) (v : VariableId) :
      (name, v) ∈ scope.names ↔ (ofTree t).IsDeclaredIn s name v := by
    rw [hwf.isDeclaredIn_iff, findInScope?, hscope, Option.bind_some]
    exact mem_names_iff (hlogs.keys s scope hscope)
  refine ⟨?_, ?_, hnames, ?_, ?_, ?_, ?_, ?_, horder.sublist, ?_, ?_, ?_, ?_, ?_⟩
  · intro s name v
    exact hwf.isDeclaredIn_iff.symm
  · intro s scope hscope
    have hkeys := hlogs.keys s scope hscope
    refine ⟨hkeys, List.Nodup.map_on ?_ hkeys.of_map⟩
    rintro ⟨name, v⟩ hmem ⟨name', v'⟩ hmem' heq
    cases heq
    obtain ⟨var, hvar, rfl, -⟩ := (hnames s scope hscope name v).1 hmem
    obtain ⟨var', hvar', rfl, -⟩ := (hnames s scope hscope name' v).1 hmem'
    rw [Option.some.inj (hvar.symm.trans hvar')]
  · intro s name
    exact exists_isDeclaredIn_iff h hroot
  · intro r hr hinit
    cases recorded_ofTree hr with
    | use hname hrole =>
      exact ⟨_, hname, rfl, fun v => resolve?_eq_some_iff h hroot, resolve?_eq_none_iff h hroot⟩
    | init hname hrole hmem => simp at hinit
  · intro r hr hinit
    cases recorded_ofTree hr with
    | use hname hrole => simp at hinit
    | init hname hrole hmem =>
      obtain ⟨v, hv⟩ := Option.isSome_iff_exists.1 (isSome_binding?_of_mem_initialized h hroot hmem)
      exact ⟨v, hv, hv⟩
  · exact (collected_ofTree t).lists
  · exact fun v var hvar => horder.increasing v var hvar
  · intro i j r r' hi hj heq
    have hnodup := horder.sublist.nodup (h.preorder_perm_range.nodup_iff.2 List.nodup_range)
    have hget {k : Nat} {q : Reference} (hk : (ofTree t).references[k]? = some q) :
        ((ofTree t).references.toList.map Reference.identifier)[k]? = some q.identifier := by
      simp [hk]
    have hi' := hget hi
    exact (List.getElem?_inj (List.getElem?_eq_some_iff.1 hi').1 hnodup).1
      (hi'.trans (heq ▸ (hget hj).symm))
  · exact fun id v => binding?_eq_some_iff h hroot
  · intro node form id hdeclares hname
    obtain ⟨v, var, hv, hvar, hid, -⟩ := exists_variable_of_declares h hroot hdeclares hname
    refine ⟨v, ⟨var, hvar, hid⟩, ?_⟩
    intro w hw
    exact Option.some.inj (((binding?_eq_some_iff h hroot).2 hw).symm.trans hv)
  · intro v var hvar
    rw [identifiers_ofTree h hroot hvar, DeclarationLog.identifiers]
    exact (List.filter_sublist.map Prod.fst).nodup (nodup_declarationLog h)
  · exact fun v var hvar => hlogs.definitions v var hvar

end Finished

end ScopeGraph

namespace SourceFile

open ScopeGraph

theorem integrity_ofSource {path : String} {text : Text} {doc : Json} {s : Source}
    (h : Source.ofDocument path text doc = .ok s) : (ofSource s).scopes.Integrity s.tree :=
  integrity_ofTree (Source.wellLinked_of_ofDocument h)
    (Source.nested_of_ofDocument h).2.whole.program

/-- `a; let a = b;`, which uses `a` before its declaration, and a name that is never declared. -/
def earlyDocument : Json := .obj [
  ("body", .arr [
    .obj [
      ("expression", .obj [("name", .str "a"), ("range", .arr [.nat 0, .nat 1]),
        ("type", .str "Identifier")]),
      ("range", .arr [.nat 0, .nat 2]), ("type", .str "ExpressionStatement")],
    .obj [
      ("declarations", .arr [.obj [
        ("id", .obj [("name", .str "a"), ("range", .arr [.nat 7, .nat 8]),
          ("type", .str "Identifier")]),
        ("init", .obj [("name", .str "b"), ("range", .arr [.nat 11, .nat 12]),
          ("type", .str "Identifier")]),
        ("range", .arr [.nat 7, .nat 12]), ("type", .str "VariableDeclarator")]]),
      ("kind", .str "let"), ("range", .arr [.nat 3, .nat 13]),
      ("type", .str "VariableDeclaration")]]),
  ("sourceType", .str "script"), ("type", .str "Program")]

def earlySource : Source where
  path := "a.js"
  text := "a; let a = b;".toList
  tree :=
    { nodes := #[
        ⟨.identifier "b" none false, ⟨11, 12⟩⟩,
        ⟨.identifier "a" none false, ⟨7, 8⟩⟩,
        ⟨.variableDeclarator 1 (some 0), ⟨7, 12⟩⟩,
        ⟨.variableDeclaration .letDecl [2], ⟨3, 13⟩⟩,
        ⟨.identifier "a" none false, ⟨0, 1⟩⟩,
        ⟨.expressionStatement 4 none, ⟨0, 2⟩⟩,
        ⟨.program [5, 3] .script, ⟨0, 13⟩⟩]
      children := #[[], [], [1, 0], [2], [], [4], [5, 3]]
      parents := #[some 2, some 2, some 3, some 6, some 5, some 6, none]
      root := 6 }
  tokens := TokenIndex.ofList []

theorem ofDocument_early :
    Source.ofDocument "a.js" earlySource.text earlyDocument = .ok earlySource := by
  have hload : Loader.load earlySource.text earlyDocument = .ok earlySource.tree.nodes := by
    decide +kernel
  have htree : Tree.ofNodes earlySource.tree.nodes 6 = .ok earlySource.tree := by cbv
  have htokens : Loader.tokens earlySource.text earlyDocument = [] := by rfl
  rw [Source.ofDocument_eq "a.js" hload htree, htokens]
  rfl

theorem integrity_ofSource_early :
    Source.ofDocument "a.js" earlySource.text earlyDocument = .ok earlySource ∧
    (ofSource earlySource).scopes.Integrity earlySource.tree ∧
    (ofSource earlySource).scopes.references.toList.map
        (fun r => (r.identifier, r.resolved, r.init)) =
      [(4, some 0, false), (1, some 0, true), (0, none, false)] :=
  ⟨ofDocument_early, integrity_ofSource ofDocument_early, by cbv⟩

end SourceFile

end ScriptLint
