import ScriptLint.Proofs.BoundIdentifiers
import ScriptLint.SourceFile

/-! The scopes of a file mirror its tree: there is one for each node that creates a scope, inside the
scope of the node's parent, and every name is declared in the scope that its form demands. -/
namespace ScriptLint

namespace ScopeGraph

def kindAt? (g : ScopeGraph) (s : ScopeId) : Option ScopeKind := g.scopes[s]?.map Scope.kind

def Hoists (g : ScopeGraph) (s target : ScopeId) : Prop :=
  ∃ inner outer, g.outwards s = inner ++ target :: outer ∧
    (∀ a ∈ inner, g.kindAt? a = some .blockScope ∨ g.kindAt? a = some .classScope) ∧
    (g.kindAt? target = some .functionScope ∨ g.kindAt? target = some .moduleScope ∨
      g.kindAt? target = some .globalScope)

def takesHoisted (g : ScopeGraph) (s : ScopeId) : Bool :=
  (g.kindAt? s).any fun kind => kind != .blockScope && kind != .classScope

theorem hoistingTarget_eq (g : ScopeGraph) (s : ScopeId) :
    g.hoistingTarget s = ((g.outwards s).find? g.takesHoisted).getD s := by
  unfold hoistingTarget
  congr 2
  funext a
  simp only [takesHoisted, kindAt?]
  cases g.scopes[a]? <;> rfl

theorem hoists_hoistingTarget {g : ScopeGraph} (hg : g.ParentsPrecede)
    (houter : ∀ s, s < g.scopes.size → g.parent? s = none → g.kindAt? s = some .globalScope)
    {s : Nat} (hs : s < g.scopes.size) : g.Hoists s (g.hoistingTarget s) := by
  -- The chain ends at the global scope, so the search does not fail.
  have hfound : ((g.outwards s).find? g.takesHoisted).isSome := by
    induction s using chain_induction hg with
    | outside s hge => omega
    | step s _ ih =>
      rw [outwards_eq_cons hg hs, List.find?_cons]
      split
      · rfl
      · rename_i hno
        cases hp : g.parent? s with
        | none => simp [takesHoisted, houter s hs hp] at hno
        | some p => exact ih p hp (Nat.lt_trans (hg s p hp) hs)
  obtain ⟨target, htarget⟩ := Option.isSome_iff_exists.1 hfound
  obtain ⟨hkind, inner, outer, hsplit, hinner⟩ := List.find?_eq_some_iff_append.1 htarget
  rw [hoistingTarget_eq, htarget, Option.getD_some]
  refine ⟨inner, outer, hsplit, ?_, ?_⟩
  · intro a ha
    have hin : a ∈ g.outwards s := hsplit ▸ List.mem_append_left _ ha
    have hlt := Nat.lt_of_le_of_lt (le_of_mem_outwards hg hin) hs
    have hno := hinner a ha
    have hscope : g.kindAt? a = some g.scopes[a].kind := by
      rw [kindAt?, Array.getElem?_eq_getElem hlt]
      rfl
    rw [takesHoisted, hscope] at hno
    rw [hscope]
    revert hno
    cases g.scopes[a].kind <;> simp
  · revert hkind
    rw [takesHoisted]
    cases g.kindAt? target with
    | none => simp
    | some kind => cases kind <;> simp

/-- Where a declaration of a form has to put its name. -/
def Demands (t : Tree) (g : ScopeGraph) (node : NodeId) : Tree.DeclarationForm → ScopeId → Prop
  | .functionDeclaration, s | .classDeclaration, s | .imported, s
  | .variableDeclaration .letDecl, s | .variableDeclaration .constDecl, s =>
    ∃ p, t.parent? node = some p ∧ s = g.scopeOf p
  | .variableDeclaration .varDecl, s => ∃ p, t.parent? node = some p ∧ g.Hoists (g.scopeOf p) s
  | .functionExpression, s | .parameter, s | .classExpression, s | .catchParameter, s =>
    s = g.scopeOf node

theorem Demands.cases {t : Tree} {g : ScopeGraph} {node : NodeId} {form : Tree.DeclarationForm}
    {s : ScopeId} (h : Demands t g node form s) :
    (∃ p, t.parent? node = some p ∧ s = g.scopeOf p) ∨
      (form = .variableDeclaration .varDecl ∧
        ∃ p, t.parent? node = some p ∧ g.Hoists (g.scopeOf p) s) ∨
      s = g.scopeOf node := by
  cases form with
  | functionDeclaration | classDeclaration | imported => exact .inl h
  | variableDeclaration kind =>
    cases kind with
    | varDecl => exact .inr (.inl ⟨rfl, h⟩)
    | letDecl | constDecl => exact .inl h
  | functionExpression | parameter | classExpression | catchParameter => exact .inr (.inr h)

/-- Scopes and declarations as the tree has them. -/
structure Mirrors (t : Tree) (g : ScopeGraph) : Prop where
  script : ∀ body, t.kind t.root = .program body .script → g.scopeOf t.root = 0 ∧
    ∃ scope, g.scopes[0]? = some scope ∧ scope.kind = .globalScope ∧ scope.parent = none
  esModule : ∀ body, t.kind t.root = .program body .esModule → g.scopeOf t.root = 1 ∧
    (∃ scope, g.scopes[0]? = some scope ∧ scope.kind = .globalScope ∧ scope.parent = none) ∧
    ∃ scope, g.scopes[1]? = some scope ∧ scope.kind = .moduleScope ∧ scope.parent = some 0
  placed : ∀ n : Nat, n < t.size → n ≠ t.root → ∃ p, t.parent? n = some p ∧
    (t.scopeKind? n = none → g.scopeOf n = g.scopeOf p) ∧
    ∀ kind, t.scopeKind? n = some kind →
      ∃ scope, g.scopes[g.scopeOf n]? = some scope ∧ scope.kind = kind ∧ scope.node = n ∧
        scope.parent = some (g.scopeOf p)
  /-- There are no scopes but these. -/
  created : ∀ (s : Nat) scope, g.scopeOf t.root < s → g.scopes[s]? = some scope →
    t.scopeKind? scope.node = some scope.kind ∧ g.scopeOf scope.node = s
  numbered : (g.scopes.toList.drop (g.scopeOf t.root + 1)).map Scope.node =
    t.preorder.filter fun n => (t.scopeKind? n).isSome
  declared : ∀ node form id, t.Declares node form id → (t.identifierName? id).isSome →
    ∃ v var, g.binding? id = some v ∧ g.varAt? v = some var ∧ id ∈ var.identifiers ∧
      Demands t g node form var.scope
  declares : ∀ v var, g.varAt? v = some var → ∀ id ∈ var.identifiers,
    g.binding? id = some v ∧ ∃ node form, t.Declares node form id ∧ Demands t g node form var.scope

theorem map_node_created (t : Tree) (around : NodeId → ScopeId) (nodes : List NodeId) :
    (nodes.flatMap fun n => (Declaring.created? t n (around n)).toList).map (·.2.1) =
      nodes.filter fun n => (t.scopeKind? n).isSome := by
  induction nodes with
  | nil => rfl
  | cons n nodes ih =>
    rw [List.flatMap_cons, List.map_append, ih, List.filter_cons]
    cases hkind : t.scopeKind? n <;> simp [Declaring.created?, hkind]

section Finished

variable {t : Tree}

theorem getElem?_scopes_ofTree {s : Nat} {kind : ScopeKind} {node : NodeId} {parent : Option ScopeId}
    (hs : (Declaring.run t).graph.outline[s]? = some (kind, node, parent)) :
    ∃ scope, (ofTree t).scopes[s]? = some scope ∧ scope.kind = kind ∧ scope.node = node ∧
      scope.parent = parent := by
  rw [(collected_ofTree t).extends_.scopes]
  rw [outline, Array.getElem?_map] at hs
  obtain ⟨scope, hscope, heq⟩ := Option.map_eq_some_iff.1 hs
  cases heq
  exact ⟨scope, hscope, rfl, rfl, rfl⟩

theorem getElem?_outline_run {s : Nat} {scope : Scope} (hs : (ofTree t).scopes[s]? = some scope) :
    (Declaring.run t).graph.outline[s]? = some (scope.kind, scope.node, scope.parent) := by
  rw [(collected_ofTree t).extends_.scopes] at hs
  rw [outline, Array.getElem?_map, hs]
  rfl

variable (h : t.WellLinked) (hroot : ∃ body sourceType, t.kind t.root = .program body sourceType)
include h hroot

theorem outline_fileScopes {s : Nat} {entry : ScopeKind × NodeId × Option ScopeId}
    (hs : (Declaring.fileScopes t)[s]? = some entry) :
    (Declaring.run t).graph.outline[s]? = some entry := by
  have hlt := (List.getElem?_eq_some_iff.1 hs).1
  rw [← Array.getElem?_toList, (Declaring.placed_run h hroot).outline,
    List.getElem?_append_left hlt, hs]

theorem kindAt?_of_parent?_eq_none {s : Nat} (hs : s < (ofTree t).scopes.size)
    (hnone : (ofTree t).parent? s = none) : (ofTree t).kindAt? s = some .globalScope := by
  have hscope := Array.getElem?_eq_getElem hs
  have hentry := getElem?_outline_run hscope
  rw [parent?, hscope, Option.bind_some] at hnone
  rw [kindAt?, hscope, Option.map_some, Option.some.injEq]
  rw [← Array.getElem?_toList, (Declaring.placed_run h hroot).outline, hnone] at hentry
  rcases List.mem_append.1 (List.mem_of_getElem? hentry) with hfile | hnode
  · unfold Declaring.fileScopes at hfile
    split at hfile <;> simp at hfile <;> exact hfile.1
  · obtain ⟨n, -, hin⟩ := List.mem_flatMap.1 hnode
    simp [Declaring.created?] at hin

theorem demands_formTarget {node id : NodeId} {form : Tree.DeclarationForm}
    (hdeclares : t.Declares node form id) :
    Demands t (ofTree t) node form (formTarget t (ofTree t) node form) := by
  have hplaced := Declaring.placed_run h hroot
  have hext := (collected_ofTree t).extends_
  have hnode := lt_size_of_declares hdeclares
  obtain ⟨p, hp⟩ : ∃ p, t.parent? node = some p := by
    refine Tree.exists_parent?_of_ne_root h hnode ?_
    rintro rfl
    obtain ⟨body, sourceType, hkind⟩ := hroot
    cases hdeclares <;> simp_all [NodeKind.fn?]
  have haround : Declaring.scopeAround t (ofTree t) node = (ofTree t).scopeOf p := by
    simp [Declaring.scopeAround, hp]
  have hlt : (ofTree t).scopeOf p < (ofTree t).scopes.size := by
    rw [hext.scopeOf, hext.scopes]
    exact hplaced.scopeOf_lt p (h.mem_preorder.2 (h.lt_size ((h.parent?_iff node p).1 hp)))
  cases hdeclares with
  | functionDeclaration hkind hid | classDeclaration hkind hid | imported hkind hmem hid =>
    refine ⟨p, hp, ?_⟩
    rw [← haround]
    simp [formTarget, Tree.DeclarationForm.isOuter, outerTarget, hkind]
  | @variableDeclaration kind declarations declarator target init id hkind hmem htarget hid =>
    cases kind with
    | varDecl =>
      refine ⟨p, hp, ?_⟩
      rw [← haround] at hlt ⊢
      simpa [formTarget, Tree.DeclarationForm.isOuter, outerTarget, hkind] using
        hoists_hoistingTarget (wellFormed_ofTree t).parentsPrecede
          (fun s hs => kindAt?_of_parent?_eq_none h hroot hs) hlt
    | letDecl | constDecl =>
      refine ⟨p, hp, ?_⟩
      rw [← haround]
      simp [formTarget, Tree.DeclarationForm.isOuter, outerTarget, hkind]
  | functionExpression | parameter | classExpression | catchParameter => rfl

theorem exists_variable_of_declares {node id : NodeId} {form : Tree.DeclarationForm}
    (hdeclares : t.Declares node form id) (hname : (t.identifierName? id).isSome) :
    ∃ v var, (ofTree t).binding? id = some v ∧ (ofTree t).varAt? v = some var ∧
      id ∈ var.identifiers ∧ Demands t (ofTree t) node form var.scope := by
  obtain ⟨v, hv⟩ := Option.isSome_iff_exists.1
    ((isSome_binding?_iff h hroot).2 ⟨hname, node, form, hdeclares⟩)
  obtain ⟨var, hvar, hid⟩ := (binding?_eq_some_iff h hroot).1 hv
  refine ⟨v, var, hv, hvar, hid, ?_⟩
  -- The log has one scope for the identifier: the demanded one.
  have hlog := ((mem_identifiers_iff h hroot hvar).1 hid).1
  rw [scope_unique h hlog ((mem_declarationLog h).2 ⟨node, form, hdeclares, rfl⟩)]
  exact demands_formTarget h hroot hdeclares

theorem exists_declares_of_mem_identifiers {v : VariableId} {var : Variable}
    (hvar : (ofTree t).varAt? v = some var) {id : NodeId} (hid : id ∈ var.identifiers) :
    t.identifierName? id = some var.name ∧
      ∃ node form, t.Declares node form id ∧ Demands t (ofTree t) node form var.scope := by
  obtain ⟨hlog, hname⟩ := (mem_identifiers_iff h hroot hvar).1 hid
  obtain ⟨node, form, hdeclares, hscope⟩ := (mem_declarationLog h).1 hlog
  refine ⟨hname, node, form, hdeclares, ?_⟩
  rw [hscope]
  exact demands_formTarget h hroot hdeclares

theorem exists_globalScope : ∃ scope, (ofTree t).scopes[0]? = some scope ∧
    scope.kind = .globalScope ∧ scope.parent = none := by
  have hfirst : (Declaring.fileScopes t)[0]? = some (.globalScope, t.root, none) := by
    unfold Declaring.fileScopes
    split <;> rfl
  obtain ⟨scope, hscope, hkind, -, hparent⟩ :=
    getElem?_scopes_ofTree (outline_fileScopes h hroot hfirst)
  exact ⟨scope, hscope, hkind, hparent⟩

theorem map_node_drop_scopes : ((ofTree t).scopes.toList.drop (Declaring.topScope t + 1)).map
    Scope.node = t.preorder.filter fun n => (t.scopeKind? n).isSome := by
  have hnodes := congrArg (List.map (·.2.1)) (Declaring.placed_run h hroot).outline
  rw [List.map_append, map_node_created] at hnodes
  have hdrop := congrArg (List.drop (Declaring.topScope t + 1)) hnodes
  rw [List.drop_left' (by rw [List.length_map, Declaring.length_fileScopes])] at hdrop
  rw [← hdrop, (collected_ofTree t).extends_.scopes, ← List.map_drop, outline]
  simp [Function.comp_def]

theorem mirrors_ofTree : (ofTree t).Mirrors t := by
  have hplaced := Declaring.placed_run h hroot
  have hext := (collected_ofTree t).extends_
  have hglobal := exists_globalScope h hroot
  have htop : (ofTree t).scopeOf t.root = Declaring.topScope t := by
    rw [hext.scopeOf, hplaced.scopeOf_root]
  refine ⟨?_, ?_, ?_, ?_, ?_, ?_, ?_⟩
  · intro body hkind
    refine ⟨?_, hglobal⟩
    simp [htop, Declaring.topScope, hkind]
  · intro body hkind
    have hsecond : (Declaring.fileScopes t)[1]? = some (.moduleScope, t.root, some 0) := by
      simp [Declaring.fileScopes, hkind]
    obtain ⟨scope, hscope, hkind', -, hparent⟩ :=
      getElem?_scopes_ofTree (outline_fileScopes h hroot hsecond)
    refine ⟨?_, hglobal, scope, hscope, hkind', hparent⟩
    simp [htop, Declaring.topScope, hkind]
  · intro n hn hne
    obtain ⟨p, hp⟩ := Tree.exists_parent?_of_ne_root h hn hne
    have hvisited := h.mem_preorder.2 hn
    refine ⟨p, hp, ?_⟩
    rw [hext.scopeOf, hext.scopeOf]
    exact ⟨hplaced.inherits n hvisited p hp, fun kind hkind =>
      getElem?_scopes_ofTree (hplaced.creates n hvisited p kind hp hkind)⟩
  · intro s scope hs hscope
    rw [htop] at hs
    obtain ⟨-, hkind, hscopeOf⟩ := hplaced.numbered s _ hs (getElem?_outline_run hscope)
    rw [hext.scopeOf]
    exact ⟨hkind, hscopeOf⟩
  · rw [htop]
    exact map_node_drop_scopes h hroot
  · exact fun node form id => exists_variable_of_declares h hroot
  · intro v var hvar id hid
    exact ⟨(binding?_eq_some_iff h hroot).2 ⟨var, hvar, hid⟩,
      (exists_declares_of_mem_identifiers h hroot hvar hid).2⟩

end Finished

end ScopeGraph

namespace SourceFile

open ScopeGraph

theorem mirrors_ofSource {path : String} {text : Text} {doc : Json} {s : Source}
    (h : Source.ofDocument path text doc = .ok s) : (ofSource s).scopes.Mirrors s.tree :=
  mirrors_ofTree (Source.wellLinked_of_ofDocument h)
    (Source.nested_of_ofDocument h).2.whole.program

/-- `function f(a) { { var b; } }` as a module. The inner block has a scope of its own, the body of
the function has none, and `b` is declared in the scope of the function. -/
def hoistedDocument : Json := .obj [
  ("body", .arr [.obj [
    ("body", .obj [
      ("body", .arr [.obj [
        ("body", .arr [.obj [
          ("declarations", .arr [.obj [
            ("id", .obj [("name", .str "b"), ("range", .arr [.nat 22, .nat 23]),
              ("type", .str "Identifier")]),
            ("init", .null), ("range", .arr [.nat 22, .nat 23]),
            ("type", .str "VariableDeclarator")]]),
          ("kind", .str "var"), ("range", .arr [.nat 18, .nat 24]),
          ("type", .str "VariableDeclaration")]]),
        ("range", .arr [.nat 16, .nat 26]), ("type", .str "BlockStatement")]]),
      ("range", .arr [.nat 14, .nat 28]), ("type", .str "BlockStatement")]),
    ("id", .obj [("name", .str "f"), ("range", .arr [.nat 9, .nat 10]),
      ("type", .str "Identifier")]),
    ("params", .arr [.obj [("name", .str "a"), ("range", .arr [.nat 11, .nat 12]),
      ("type", .str "Identifier")]]),
    ("range", .arr [.nat 0, .nat 28]), ("type", .str "FunctionDeclaration")]]),
  ("sourceType", .str "module"), ("type", .str "Program")]

def hoistedSource : Source where
  path := "a.js"
  text := "function f(a) { { var b; } }".toList
  tree :=
    { nodes := #[
        ⟨.identifier "b" none false, ⟨22, 23⟩⟩,
        ⟨.variableDeclarator 0 none, ⟨22, 23⟩⟩,
        ⟨.variableDeclaration .varDecl [1], ⟨18, 24⟩⟩,
        ⟨.blockStatement [2], ⟨16, 26⟩⟩,
        ⟨.blockStatement [3], ⟨14, 28⟩⟩,
        ⟨.identifier "a" none false, ⟨11, 12⟩⟩,
        ⟨.identifier "f" none false, ⟨9, 10⟩⟩,
        ⟨.functionDeclaration ⟨some 6, [5], 4, false, false⟩, ⟨0, 28⟩⟩,
        ⟨.program [7] .esModule, ⟨0, 28⟩⟩]
      children := #[[], [0], [1], [2], [3], [], [], [6, 5, 4], [7]]
      parents := #[some 1, some 2, some 3, some 4, some 7, some 7, some 7, some 8, none]
      root := 8 }
  tokens := TokenIndex.ofList []

theorem ofDocument_hoisted :
    Source.ofDocument "a.js" hoistedSource.text hoistedDocument = .ok hoistedSource := by
  have hload : Loader.load hoistedSource.text hoistedDocument =
      .ok hoistedSource.tree.nodes := by decide +kernel
  have htree : Tree.ofNodes hoistedSource.tree.nodes 8 = .ok hoistedSource.tree := by cbv
  have htokens : Loader.tokens hoistedSource.text hoistedDocument = [] := by rfl
  rw [Source.ofDocument_eq "a.js" hload htree, htokens]
  rfl

theorem mirrors_ofSource_hoisted :
    Source.ofDocument "a.js" hoistedSource.text hoistedDocument = .ok hoistedSource ∧
    (ofSource hoistedSource).scopes.Mirrors hoistedSource.tree ∧
    (ofSource hoistedSource).scopes.scopes.toList.map Scope.node = [8, 8, 7, 3] ∧
    (ofSource hoistedSource).scopes.vars.toList.map (fun var => (var.name, var.scope)) =
      [("f", 1), ("a", 2), ("b", 2)] :=
  ⟨ofDocument_hoisted, mirrors_ofSource ofDocument_hoisted, by cbv, by cbv⟩

end SourceFile

end ScriptLint
