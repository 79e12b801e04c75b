import ScriptLint.Proofs.DeclarationLog
import ScriptLint.Proofs.NestedSpans

/-! The declaring pass over a whole tree. It visits the nodes in preorder, each in the scope in which
its parent was placed; so what one visit keeps true of the nodes visited so far is true of all. -/
namespace ScriptLint

namespace ScopeGraph

variable {g g' : ScopeGraph}

/-! New scopes are added behind the old ones, and change nothing about where these lie. -/

theorem outline_addScope (g : ScopeGraph) (kind : ScopeKind) (node : NodeId)
    (parent : Option ScopeId) :
    (g.addScope kind node parent).outline = g.outline.push (kind, node, parent) := by
  apply Array.ext_getElem?
  intro s
  obtain ⟨children, heq⟩ := g.getElem?_scopes_addScope kind node parent s
  rw [outline, Array.getElem?_map, heq, Array.getElem?_push, size_outline]
  split
  · rfl
  · rw [outline, Array.getElem?_map, Option.map_map]
    rfl

theorem parent?_eq_outline (g : ScopeGraph) (s : Nat) :
    g.parent? s = g.outline[s]?.bind fun entry => entry.2.2 := by
  rw [parent?, outline, Array.getElem?_map]
  cases g.scopes[s]? <;> rfl

/-- All scopes of `g` are scopes of `g'`, with the same numbers. -/
def Grows (g g' : ScopeGraph) : Prop := g.outline.toList <+: g'.outline.toList

namespace Grows

theorem getElem?_outline (h : g.Grows g') {s : Nat} (hs : s < g.scopes.size) :
    g'.outline[s]? = g.outline[s]? := by
  obtain ⟨rest, hrest⟩ := h
  rw [← Array.getElem?_toList, ← Array.getElem?_toList, ← hrest, List.getElem?_append_left]
  simpa [size_outline] using hs

theorem size_le (h : g.Grows g') : g.scopes.size ≤ g'.scopes.size := by
  simpa [size_outline] using h.length_le

variable (h : g.Grows g') (hg : g.ParentsPrecede) (hg' : g'.ParentsPrecede)
include h hg hg'

theorem outwards {s : Nat} (hs : s < g.scopes.size) : g'.outwards s = g.outwards s := by
  induction s using Nat.strongRecOn with
  | ind s ih =>
    have hparent : g'.parent? s = g.parent? s := by
      rw [parent?_eq_outline, parent?_eq_outline, h.getElem?_outline hs]
    rw [outwards_eq_cons hg hs, outwards_eq_cons hg' (Nat.lt_of_lt_of_le hs h.size_le), hparent]
    cases hp : g.parent? s with
    | none => rfl
    | some p =>
      have hlt := hg s p hp
      rw [Option.map_some, Option.map_some, ih p hlt (Nat.lt_trans hlt hs)]

theorem hoistingTarget {s : Nat} (hs : s < g.scopes.size) :
    g'.hoistingTarget s = g.hoistingTarget s := by
  rw [ScopeGraph.hoistingTarget, ScopeGraph.hoistingTarget, h.outwards hg hg' hs]
  congr 1
  apply List.find?_congr
  intro a ha
  have hlt : a < g.scopes.size := Nat.lt_of_le_of_lt (le_of_mem_outwards hg ha) hs
  have hsame := congrArg (Option.map Prod.fst) (h.getElem?_outline hlt)
  simp only [outline, Array.getElem?_map, Option.map_map] at hsame
  cases hold : g.scopes[a]? with
  | none => simp_all
  | some old =>
    obtain ⟨new, hnew, hkind⟩ : ∃ new, g'.scopes[a]? = some new ∧ new.kind = old.kind := by
      simpa [hold, Option.map_eq_some_iff] using hsame
    simp only [hnew, hkind]

theorem outerTarget {s : Nat} (hs : s < g.scopes.size) (t : Tree) (node : NodeId) :
    g'.outerTarget t node s = g.outerTarget t node s := by
  unfold ScopeGraph.outerTarget
  split
  · exact h.hoistingTarget hg hg' hs
  · rfl

end Grows

end ScopeGraph

namespace Declaring

variable {t : Tree}

/-! The order of the visits. -/

def topScope (t : Tree) : Nat :=
  match t.kind t.root with
  | .program _ .esModule => 1
  | _ => 0

def atRoot (t : Tree) : Declaring :=
  let g := match t.kind t.root with
    | .program _ .esModule => (start t).graph.addScope .moduleScope t.root (some 0)
    | _ => (start t).graph
  place t.root (topScope t) ⟨g, []⟩

theorem run_eq_walk (t : Tree) :
    run t = walk t t.size ((t.childrenOf t.root).map (·, topScope t)) (atRoot t) := by
  unfold run atRoot topScope
  cases t.kind t.root with
  | program body sourceType => cases sourceType <;> rfl
  | _ => rfl

theorem nodeScopes_atRoot (t : Tree) :
    (atRoot t).graph.nodeScopes = (Array.replicate t.size 0).setIfInBounds t.root (topScope t) := by
  unfold atRoot place
  dsimp only
  split <;> rfl

theorem size_nodeScopes_atRoot (t : Tree) : (atRoot t).graph.nodeScopes.size = t.size := by
  rw [nodeScopes_atRoot, Array.size_setIfInBounds, Array.size_replicate]

theorem scopeOf_atRoot (h : t.WellLinked) : (atRoot t).graph.scopeOf t.root = topScope t := by
  have hroot : t.root < t.size := Nat.lt_of_succ_le (Nat.le_of_eq h.root_eq)
  simp [ScopeGraph.scopeOf, nodeScopes_atRoot, hroot]

/-- A property that every visit keeps, of a node whose parent was visited before, holds after the
walk of all that it visits. -/
theorem walk_induction (h : t.WellLinked) {P : List NodeId → Declaring → Prop}
    (hvisit : ∀ visited d node p, P visited d → node ∉ visited → t.parent? node = some p →
      p ∈ visited → P (visited ++ [node]) (d.visit t node (d.graph.scopeOf p)).1)
    {stack rest : List NodeId} (hwalks : t.Walks stack rest) {fuel : Nat}
    {entries : List (NodeId × ScopeId)} {visited : List NodeId} {d : Declaring}
    (hfst : entries.map Prod.fst = stack) (hfuel : rest.length ≤ fuel)
    (hnodup : (visited ++ rest).Nodup) (hsize : d.graph.nodeScopes.size = t.size)
    (hentries : ∀ entry ∈ entries, ∃ p ∈ visited, t.parent? entry.1 = some p ∧
      d.graph.scopeOf p = entry.2)
    (hP : P visited d) : P (visited ++ rest) (walk t fuel entries d) := by
  induction hwalks generalizing fuel entries visited d with
  | done =>
    rw [List.map_eq_nil_iff.1 hfst, List.append_nil]
    cases fuel <;> exact hP
  | @visit top stack rest _ ih =>
    obtain ⟨⟨node, outer⟩, entries, rfl, rfl, rfl⟩ := List.map_eq_cons_iff.1 hfst
    obtain ⟨fuel, rfl⟩ : ∃ n, fuel = n + 1 := ⟨fuel - 1, by simp at hfuel; omega⟩
    obtain ⟨p, hp, hparent, hscope⟩ := hentries _ List.mem_cons_self
    have hparent : t.parent? node = some p := hparent
    have hscope : d.graph.scopeOf p = outer := hscope
    have hsplit : visited ++ node :: rest = (visited ++ [node]) ++ rest := by simp
    have hfresh : node ∉ visited := fun hmem =>
      (List.nodup_append.1 hnodup).2.2 node hmem node List.mem_cons_self rfl
    have hstep : walk t (fuel + 1) ((node, outer) :: entries) d =
        walk t fuel ((t.childrenOf node).map (fun child => (child, (d.visit t node outer).2)) ++
          entries) (d.visit t node outer).1 := rfl
    rw [hstep, hsplit]
    refine ih (map_fst_entries ..) (by simpa using hfuel) (hsplit ▸ hnodup)
      (by rw [size_nodeScopes_visit, hsize]) ?_ 
      (hscope ▸ hvisit visited d node p hP hfresh hparent hp)
    -- Parents of what is on the stack are visited, so their places are final.
    intro entry hentry
    rcases List.mem_append.1 hentry with hchild | hentry
    · obtain ⟨child, hin, rfl⟩ := List.mem_map.1 hchild
      refine ⟨node, by simp, (h.parent?_iff child node).2 hin, ?_⟩
      rw [scopeOf_visit, if_pos rfl]
      rw [hsize]
      exact Tree.lt_size_of_parent? h hparent
    · obtain ⟨q, hq, hqparent, hqscope⟩ := hentries entry (List.mem_cons_of_mem _ hentry)
      refine ⟨q, List.mem_append_left _ hq, hqparent, ?_⟩
      have hne : q ≠ node := fun heq => hfresh (heq ▸ hq)
      rw [scopeOf_visit, if_neg hne, hqscope]
      rw [hsize]
      exact h.lt_size ((h.parent?_iff entry.1 q).1 hqparent)

theorem run_induction (h : t.WellLinked) {P : List NodeId → Declaring → Prop}
    (hroot : P [t.root] (atRoot t))
    (hvisit : ∀ visited d node p, P visited d → node ∉ visited → t.parent? node = some p →
      p ∈ visited → P (visited ++ [node]) (d.visit t node (d.graph.scopeOf p)).1) :
    P t.preorder (run t) := by
  have hwalks := h.walks_preorder
  have hperm := h.preorder_perm_range
  revert hwalks hperm
  generalize t.preorder = visited
  intro hwalks hperm
  cases hwalks with
  | @visit _ _ rest hrest =>
    rw [List.append_nil] at hrest
    have hlength := hperm.length_eq
    have hnodup := hperm.nodup_iff.2 List.nodup_range
    rw [List.length_cons, List.length_range] at hlength
    rw [run_eq_walk]
    change P ([t.root] ++ rest) _
    refine walk_induction h hvisit hrest ?_ (by omega) hnodup (size_nodeScopes_atRoot t) ?_ hroot
    · simp [Function.comp_def]
    · intro entry hentry
      obtain ⟨child, hchild, rfl⟩ := List.mem_map.1 hentry
      exact ⟨t.root, List.mem_singleton.2 rfl, (h.parent?_iff child t.root).2 hchild,
        scopeOf_atRoot h⟩

/-! What one visit does. -/

theorem innerIdentifiers_of_scopeKind? {node : NodeId} (h : t.scopeKind? node = none) :
    t.innerIdentifiers node = [] := by
  unfold Tree.scopeKind? at h
  unfold Tree.innerIdentifiers
  cases hkind : t.kind node with
  | functionDeclaration | functionExpression | arrowFunction | classExpression | catchClause =>
    simp [hkind] at h
  | _ => rfl

theorem Logged.place {log : DeclarationLog} {d : Declaring} (h : Logged t log d) (node : NodeId)
    {scope : ScopeId} (hs : scope < d.graph.scopes.size) : Logged t log (d.place node scope) :=
  ⟨h.invariant.step d _ (.place d node hs), ⟨h.logs.size_bindings, h.logs.identifiers,
    h.logs.definitions, h.logs.keys, h.logs.found, h.logs.binds, h.logs.bound⟩, h.initialized⟩

theorem Logged.addScope {log : DeclarationLog} {d : Declaring} (h : Logged t log d)
    (kind : ScopeKind) (node : NodeId) {outer : ScopeId} (hs : outer < d.graph.scopes.size) :
    Logged t log { d with graph := d.graph.addScope kind node (some outer) } :=
  ⟨h.invariant.step d _ (.addScope d kind node hs), h.logs.addScope kind node (some outer),
    h.initialized⟩

def created? (t : Tree) (node : NodeId) (outer : ScopeId) :
    Option (ScopeKind × NodeId × Option ScopeId) :=
  (t.scopeKind? node).map fun kind => (kind, node, some outer)

structure Visited (t : Tree) (node : NodeId) (outer : ScopeId) (d e : Declaring) (scope : ScopeId) :
    Prop where
  scope_eq : scope = if (t.scopeKind? node).isSome then d.graph.scopes.size else outer
  outline : e.graph.outline.toList = d.graph.outline.toList ++ (created? t node outer).toList
  logged : ∀ {log : DeclarationLog}, Logged t log d →
    Logged t (log ++ ((t.outerIdentifiers node).map (·, d.graph.outerTarget t node outer) ++
      (t.innerIdentifiers node).map (·, scope))) e

theorem visited_visit (node : NodeId) {outer : ScopeId} {d : Declaring}
    (hs : outer < d.graph.scopes.size) :
    Visited t node outer d (d.visit t node outer).1 (d.visit t node outer).2 := by
  have houter := enters_outerBindings (t := t) hs node
  have hs' : outer < (d.outerBindings t node outer).graph.scopes.size := by
    rwa [houter.size_scopes]
  unfold visit
  cases hkind : t.scopeKind? node with
  | none =>
    refine ⟨by simp [hkind], ?_, ?_⟩
    · change (d.outerBindings t node outer).graph.outline.toList = _
      simp [houter.outline, created?, hkind]
    · intro log h
      rw [innerIdentifiers_of_scopeKind? hkind, List.map_nil, List.append_nil]
      exact (houter.logged h).place node hs'
  | some kind =>
    have hsize : (d.outerBindings t node outer).graph.scopes.size <
        ((d.outerBindings t node outer).graph.addScope kind node (some outer)).scopes.size := by
      rw [ScopeGraph.size_scopes_addScope]
      omega
    have hinner := enters_innerBindings (t := t)
      (d := { d.outerBindings t node outer with
        graph := (d.outerBindings t node outer).graph.addScope kind node (some outer) }) hsize node
    refine ⟨?_, ?_, ?_⟩
    · simp [hkind, houter.size_scopes]
    · refine (congrArg Array.toList hinner.outline).trans ?_
      simp [ScopeGraph.outline_addScope, houter.outline, created?, hkind]
    · intro log h
      rw [← List.append_assoc]
      refine (hinner.logged ((houter.logged h).addScope kind node hs')).place node ?_
      rwa [hinner.size_scopes]

namespace Visited

variable {node : NodeId} {outer scope : ScopeId} {d e : Declaring}
  (hv : Visited t node outer d e scope)
include hv

theorem grows : d.graph.Grows e.graph := ⟨_, hv.outline.symm⟩

theorem size_scopes :
    e.graph.scopes.size = d.graph.scopes.size + (created? t node outer).toList.length := by
  rw [← ScopeGraph.size_outline, ← ScopeGraph.size_outline, ← Array.length_toList, hv.outline,
    List.length_append, Array.length_toList]

theorem getElem?_outline {kind : ScopeKind} (hkind : t.scopeKind? node = some kind) :
    scope = d.graph.scopes.size ∧ e.graph.outline[scope]? = some (kind, node, some outer) := by
  have heq : scope = d.graph.scopes.size := by simp [hv.scope_eq, hkind]
  refine ⟨heq, ?_⟩
  rw [← Array.getElem?_toList, hv.outline, heq, ← d.graph.size_outline]
  simp [created?, hkind]

theorem scope_lt (houter : outer < d.graph.scopes.size) : scope < e.graph.scopes.size := by
  cases hkind : t.scopeKind? node with
  | none =>
    have hsame : scope = outer := by simp [hv.scope_eq, hkind]
    exact hsame ▸ Nat.lt_of_lt_of_le houter hv.grows.size_le
  | some kind =>
    rw [← e.graph.size_outline]
    exact (Array.getElem?_eq_some_iff.1 (hv.getElem?_outline hkind).2).1

theorem eq_of_getElem?_outline {s : Nat} {entry : ScopeKind × NodeId × Option ScopeId}
    (hs : d.graph.scopes.size ≤ s) (hentry : e.graph.outline[s]? = some entry) :
    s = scope ∧ ∃ kind, t.scopeKind? node = some kind ∧ entry = (kind, node, some outer) := by
  have hlt := (Array.getElem?_eq_some_iff.1 hentry).1
  rw [ScopeGraph.size_outline, hv.size_scopes] at hlt
  cases hkind : t.scopeKind? node with
  | none =>
    simp only [created?, hkind, Option.map_none, Option.toList_none, List.length_nil] at hlt
    omega
  | some kind =>
    simp only [created?, hkind, Option.map_some, Option.toList_some, List.length_singleton] at hlt
    obtain ⟨heq, hnew⟩ := hv.getElem?_outline hkind
    have hlast : s = scope := Eq.trans (by omega) heq.symm
    rw [hlast, hnew, Option.some.injEq] at hentry
    exact ⟨hlast, kind, rfl, hentry.symm⟩

end Visited

/-! The nodes visited so far. -/

def scopeAround (t : Tree) (g : ScopeGraph) (node : NodeId) : ScopeId :=
  ((t.parent? node).map g.scopeOf).getD 0

def declarations (t : Tree) (g : ScopeGraph) (node : NodeId) : DeclarationLog :=
  (t.outerIdentifiers node).map (·, g.outerTarget t node (scopeAround t g node)) ++
    (t.innerIdentifiers node).map (·, g.scopeOf node)

def fileScopes (t : Tree) : List (ScopeKind × NodeId × Option ScopeId) :=
  match t.kind t.root with
  | .program _ .esModule => [(.globalScope, t.root, none), (.moduleScope, t.root, some 0)]
  | _ => [(.globalScope, t.root, none)]

structure Placed (t : Tree) (visited : List NodeId) (d : Declaring) : Prop where
  size_nodeScopes : d.graph.nodeScopes.size = t.size
  root_mem : t.root ∈ visited
  closed : ∀ n ∈ visited, ∀ p, t.parent? n = some p → p ∈ visited
  scopeOf_lt : ∀ n ∈ visited, d.graph.scopeOf n < d.graph.scopes.size
  scopeOf_root : d.graph.scopeOf t.root = topScope t
  inherits : ∀ n ∈ visited, ∀ p, t.parent? n = some p → t.scopeKind? n = none →
    d.graph.scopeOf n = d.graph.scopeOf p
  creates : ∀ n ∈ visited, ∀ p kind, t.parent? n = some p → t.scopeKind? n = some kind →
    d.graph.outline[d.graph.scopeOf n]? = some (kind, n, some (d.graph.scopeOf p))
  outline : d.graph.outline.toList =
    fileScopes t ++ visited.flatMap fun n => (created? t n (scopeAround t d.graph n)).toList
  numbered : ∀ (s : Nat) entry, topScope t < s → d.graph.outline[s]? = some entry →
    entry.2.1 ∈ visited ∧ t.scopeKind? entry.2.1 = some entry.1 ∧ d.graph.scopeOf entry.2.1 = s
  logged : Logged t (visited.flatMap (declarations t d.graph)) d

theorem logged_atRoot (t : Tree) : Logged t [] (atRoot t) := by
  have hstart : Logged t [] (start t) := by
    refine ⟨invariant_start t, ScopeGraph.Logs.addScope ?_ .globalScope t.root none, by simp [start]⟩
    refine ⟨by simp [ScopeGraph.empty], ?_, ?_, ?_, by simp, by simp, ?_⟩
    · intro v var hvar
      simp [ScopeGraph.empty] at hvar
    · intro v var hvar
      simp [ScopeGraph.empty] at hvar
    · intro s scope hscope
      simp [ScopeGraph.empty] at hscope
    · intro id v hv
      have := (invariant_start t).bound id v hv
      simp [start, ScopeGraph.addScope, ScopeGraph.empty] at this
  have hglobal : 0 < (start t).graph.scopes.size := by simp [start, ScopeGraph.size_scopes_addScope]
  unfold atRoot topScope
  dsimp only
  split
  · refine (hstart.addScope .moduleScope t.root hglobal).place t.root ?_
    rw [ScopeGraph.size_scopes_addScope]
    exact Nat.succ_lt_succ hglobal
  · exact hstart.place t.root hglobal

theorem outline_atRoot (t : Tree) : (atRoot t).graph.outline.toList = fileScopes t := by
  have hstart : (start t).graph.outline = #[(.globalScope, t.root, none)] := by
    rw [start, ScopeGraph.outline_addScope]
    simp [ScopeGraph.outline, ScopeGraph.empty]
  unfold atRoot fileScopes place
  dsimp only
  split
  · change ((start t).graph.addScope .moduleScope t.root (some 0)).outline.toList = _
    rw [ScopeGraph.outline_addScope, hstart]
    rfl
  · change (start t).graph.outline.toList = _
    rw [hstart]

theorem length_fileScopes (t : Tree) : (fileScopes t).length = topScope t + 1 := by
  unfold fileScopes topScope
  split <;> rfl

theorem placed_atRoot (h : t.WellLinked)
    (hroot : ∃ body sourceType, t.kind t.root = .program body sourceType) :
    Placed t [t.root] (atRoot t) := by
  obtain ⟨body, sourceType, hkind⟩ := hroot
  have hnone : t.scopeKind? t.root = none := by simp only [Tree.scopeKind?, hkind]
  have hparent (p : NodeId) : t.parent? t.root ≠ some p := fun hp =>
    h.root_free p ((h.parent?_iff t.root p).1 hp)
  have hsize : (atRoot t).graph.scopes.size = topScope t + 1 := by
    rw [← ScopeGraph.size_outline, ← Array.length_toList, outline_atRoot, length_fileScopes]
  refine ⟨size_nodeScopes_atRoot t, List.mem_singleton.2 rfl, ?_, ?_, scopeOf_atRoot h, ?_, ?_, ?_,
    ?_, ?_⟩
  · intro n hn p hp
    cases List.mem_singleton.1 hn
    exact absurd hp (hparent p)
  · intro n hn
    cases List.mem_singleton.1 hn
    rw [scopeOf_atRoot h, hsize]
    exact Nat.lt_succ_self _
  · intro n hn p hp
    cases List.mem_singleton.1 hn
    exact absurd hp (hparent p)
  · intro n hn p _ hp
    cases List.mem_singleton.1 hn
    exact absurd hp (hparent p)
  · simp [outline_atRoot, created?, hnone]
  · intro s entry hs hentry
    have := (Array.getElem?_eq_some_iff.1 hentry).1
    rw [ScopeGraph.size_outline, hsize] at this
    omega
  · have hempty : [t.root].flatMap (declarations t (atRoot t).graph) = [] := by
      simp [declarations, Tree.outerIdentifiers, Tree.innerIdentifiers, hkind]
    rw [hempty]
    exact logged_atRoot t

theorem scopeOf_visit_of_ne {node id : NodeId} (h : id ≠ node) (outer : ScopeId) (d : Declaring) :
    (d.visit t node outer).1.graph.scopeOf id = d.graph.scopeOf id := by
  simp only [ScopeGraph.scopeOf, nodeScopes_visit, Array.getElem?_setIfInBounds, if_neg h.symm]

theorem Placed.scopeAround_lt {visited : List NodeId} {d : Declaring} (hd : Placed t visited d)
    {n : NodeId} (hn : n ∈ visited) : scopeAround t d.graph n < d.graph.scopes.size := by
  unfold scopeAround
  cases hq : t.parent? n with
  | none => exact Nat.lt_of_le_of_lt (Nat.zero_le _) (hd.scopeOf_lt _ hd.root_mem)
  | some q => exact hd.scopeOf_lt q (hd.closed n hn q hq)

/-! Nodes that keep their scopes, in a graph that grows, keep what is around them and what they
declare. -/
section Kept

variable {visited : List NodeId} {d : Declaring} (hd : Placed t visited d) {g : ScopeGraph}
  (hold : ∀ n ∈ visited, g.scopeOf n = d.graph.scopeOf n)
include hd hold

theorem Placed.scopeAround_congr {n : NodeId} (hn : n ∈ visited) :
    scopeAround t g n = scopeAround t d.graph n := by
  unfold scopeAround
  cases hq : t.parent? n with
  | none => rfl
  | some q => exact hold q (hd.closed n hn q hq)

theorem Placed.declarations_congr (hgrows : d.graph.Grows g) (hg : g.ParentsPrecede) {n : NodeId}
    (hn : n ∈ visited) : declarations t g n = declarations t d.graph n := by
  rw [declarations, declarations, hd.scopeAround_congr hold hn, hold n hn,
    hgrows.outerTarget hd.logged.invariant.wellFormed.parentsPrecede hg (hd.scopeAround_lt hn)]

end Kept

/-- What is said of the nodes visited so far stays true, and becomes true of one more. -/
theorem Placed.visit (h : t.WellLinked) {visited : List NodeId} {d : Declaring}
    (hd : Placed t visited d) {node p : NodeId} (hfresh : node ∉ visited)
    (hparent : t.parent? node = some p) (hp : p ∈ visited) :
    Placed t (visited ++ [node]) (d.visit t node (d.graph.scopeOf p)).1 := by
  have hv := visited_visit (t := t) node (hd.scopeOf_lt p hp)
  have hnew : (d.visit t node (d.graph.scopeOf p)).1.graph.scopeOf node =
      (d.visit t node (d.graph.scopeOf p)).2 := by
    rw [scopeOf_visit, if_pos rfl]
    rw [hd.size_nodeScopes]
    exact Tree.lt_size_of_parent? h hparent
  have hold : ∀ n ∈ visited,
      (d.visit t node (d.graph.scopeOf p)).1.graph.scopeOf n = d.graph.scopeOf n := by
    intro n hn
    apply scopeOf_visit_of_ne
    rintro rfl
    exact hfresh hn
  have hsize := size_nodeScopes_visit (t := t) node (d.graph.scopeOf p) d
  revert hv hnew hold hsize
  generalize (d.visit t node (d.graph.scopeOf p)).1 = e
  generalize (d.visit t node (d.graph.scopeOf p)).2 = scope
  intro hv hnew hold hsize
  have hlogged := hv.logged hd.logged
  have hg := hd.logged.invariant.wellFormed.parentsPrecede
  have hg' := hlogged.invariant.wellFormed.parentsPrecede
  have haround : scopeAround t e.graph node = d.graph.scopeOf p := by
    simp [scopeAround, hparent, hold p hp]
  have hsame {q : NodeId} (hq : t.parent? node = some q) : q = p :=
    Option.some.inj (hq.symm.trans hparent)
  refine ⟨hsize.trans hd.size_nodeScopes, List.mem_append_left _ hd.root_mem,
    List.forall_mem_append.2 ⟨?_, List.forall_mem_singleton.2 ?_⟩,
    List.forall_mem_append.2 ⟨?_, List.forall_mem_singleton.2 ?_⟩, ?_,
    List.forall_mem_append.2 ⟨?_, List.forall_mem_singleton.2 ?_⟩,
    List.forall_mem_append.2 ⟨?_, List.forall_mem_singleton.2 ?_⟩, ?_, ?_, ?_⟩
  · intro n hn q hq
    exact List.mem_append_left _ (hd.closed n hn q hq)
  · intro q hq
    exact List.mem_append_left _ (hsame hq ▸ hp)
  · intro n hn
    rw [hold n hn]
    exact Nat.lt_of_lt_of_le (hd.scopeOf_lt n hn) hv.grows.size_le
  · exact hnew ▸ hv.scope_lt (hd.scopeOf_lt p hp)
  · rw [hold _ hd.root_mem, hd.scopeOf_root]
  · intro n hn q hq hkind
    rw [hold n hn, hold q (hd.closed n hn q hq)]
    exact hd.inherits n hn q hq hkind
  · intro q hq hkind
    rw [hsame hq, hnew, hold p hp]
    simp [hv.scope_eq, hkind]
  · intro n hn q kind hq hkind
    rw [hold n hn, hold q (hd.closed n hn q hq),
      hv.grows.getElem?_outline (hd.scopeOf_lt n hn)]
    exact hd.creates n hn q kind hq hkind
  · intro q kind hq hkind
    rw [hsame hq, hnew, hold p hp]
    exact (hv.getElem?_outline hkind).2
  · rw [hv.outline, hd.outline, List.flatMap_append, List.flatMap_singleton, haround,
      List.append_assoc]
    congr 2
    apply List.flatMap_congr
    intro n hn
    rw [hd.scopeAround_congr hold hn]
  · intro s entry hs hentry
    by_cases hlt : s < d.graph.scopes.size
    · rw [hv.grows.getElem?_outline hlt] at hentry
      obtain ⟨hn, hkind, hscopeOf⟩ := hd.numbered s entry hs hentry
      exact ⟨List.mem_append_left _ hn, hkind, (hold _ hn).trans hscopeOf⟩
    · obtain ⟨rfl, kind, hkind, rfl⟩ := hv.eq_of_getElem?_outline (Nat.le_of_not_lt hlt) hentry
      exact ⟨by simp, hkind, hnew⟩
  · have hbefore := List.flatMap_congr fun n hn => hd.declarations_congr hold hv.grows hg' hn
    have hlast : declarations t e.graph node =
        (t.outerIdentifiers node).map (·, d.graph.outerTarget t node (d.graph.scopeOf p)) ++
          (t.innerIdentifiers node).map (·, scope) := by
      rw [declarations, haround, hnew, hv.grows.outerTarget hg hg' (hd.scopeOf_lt p hp)]
    rwa [List.flatMap_append, List.flatMap_singleton, hbefore, hlast]

theorem placed_run (h : t.WellLinked)
    (hroot : ∃ body sourceType, t.kind t.root = .program body sourceType) :
    Placed t t.preorder (run t) :=
  run_induction h (placed_atRoot h hroot) fun _ _ _ _ hd hfresh hparent hp =>
    hd.visit h hfresh hparent hp

end Declaring

end ScriptLint
