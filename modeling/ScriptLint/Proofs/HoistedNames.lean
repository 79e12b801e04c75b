import ScriptLint.Proofs.Initializers
import ScriptLint.Proofs.SiblingScopes

/-! The scopes that a name of a renamed variable passes on its way to the scope of the variable. Where
a name counts as a use, the rename looks at these scopes. A hoisted name without an initializer is no
use, and nothing keeps it from a block that declares the new name. -/
namespace ScriptLint

namespace ScopeGraph

/-- Going outwards from `s`, no scope before `home` declares the name. -/
def ClearUpTo (g : ScopeGraph) (s home : ScopeId) (name : String) : Prop :=
  ∃ inner outer, g.outwards s = inner ++ home :: outer ∧
    ∀ a ∈ inner, g.findInScope? a name = none

/-- The node stands around another one, and makes a scope inside `home`. -/
structure MakesScopeAround (t : Tree) (g : ScopeGraph) (home : ScopeId) (node n : NodeId) : Prop where
  around : t.Under node n
  makes : (t.scopeKind? n).isSome
  inside : ∃ p, t.parent? n = some p ∧ home ∈ g.outwards (g.scopeOf p)

theorem clearUpTo_iff {g : ScopeGraph} (hg : g.ParentsPrecede) {s home : ScopeId} {name : String}
    {inner outer : List ScopeId} (hsplit : g.outwards s = inner ++ home :: outer) :
    g.ClearUpTo s home name ↔ ∀ a ∈ inner, g.findInScope? a name = none := by
  constructor
  · rintro ⟨inner', outer', hsplit', hclear⟩ a ha
    -- The chain goes down, so it has its scopes before `home` in one way only.
    have hpair := outwards_pairwise hg s
    have hpair' := hpair
    rw [hsplit, List.pairwise_append] at hpair
    rw [hsplit', List.pairwise_append] at hpair'
    have hlt := hpair.2.2 a ha home (by simp)
    have hmem : a ∈ inner' ++ home :: outer' := by
      rw [← hsplit', hsplit]
      exact List.mem_append_left _ ha
    rcases List.mem_append.1 hmem with hin | hin
    · exact hclear a hin
    · rcases List.mem_cons.1 hin with rfl | hin
      · exact absurd hlt (Nat.lt_irrefl _)
      · exact absurd (List.rel_of_pairwise_cons hpair'.2.1 hin) (Nat.lt_asymm hlt)
  · exact fun hclear => ⟨inner, outer, hsplit, hclear⟩

end ScopeGraph

namespace Tree

variable {t : Tree}

theorem scopeKind?_of_isPart {part pattern : NodeId} (hpart : t.IsPart part pattern) :
    t.scopeKind? pattern = none := by
  unfold IsPart patternParts at hpart
  unfold scopeKind?
  cases hkind : t.kind pattern <;> simp_all

theorem scopeKind?_of_identifierName? {id : NodeId} (hname : (t.identifierName? id).isSome) :
    t.scopeKind? id = none := by
  unfold identifierName? at hname
  unfold scopeKind?
  cases hkind : t.kind id <;> simp_all

theorem lt_size_of_scopeKind? {n : Nat} {kind : ScopeKind} (hkind : t.scopeKind? n = some kind) :
    n < t.size := by
  refine Nat.lt_of_not_le fun hle => ?_
  simp [scopeKind?, kind_of_size_le hle] at hkind

end Tree

namespace ScopeGraph

section Finished

variable {t : Tree} (h : t.WellLinked)
  (hroot : ∃ body sourceType, t.kind t.root = .program body sourceType)
include h hroot

theorem scopeOf_eq_of_scopeKind? {n p : NodeId} (hp : t.parent? n = some p)
    (hkind : t.scopeKind? n = none) : (ofTree t).scopeOf n = (ofTree t).scopeOf p := by
  have hext := (collected_ofTree t).extends_
  rw [hext.scopeOf, hext.scopeOf]
  exact (Declaring.placed_run h hroot).inherits n
    (h.mem_preorder.2 (Tree.lt_size_of_parent? h hp)) p hp hkind

theorem parent?_scopeOf {n p : Nat} (hp : t.parent? n = some p) {kind : ScopeKind}
    (hkind : t.scopeKind? n = some kind) :
    (ofTree t).parent? ((ofTree t).scopeOf n) = some ((ofTree t).scopeOf p) := by
  have hne : n ≠ t.root := by
    rintro rfl
    exact h.root_free p ((h.parent?_iff _ _).1 hp)
  obtain ⟨q, hq, -, hcreates⟩ :=
    (mirrors_ofTree h hroot).placed n (Tree.lt_size_of_parent? h hp) hne
  cases hp.symm.trans hq
  obtain ⟨scope, hscope, -, -, hparent⟩ := hcreates kind hkind
  rw [parent?, hscope, Option.bind_some, hparent]

theorem scopeOf_eq_of_inPattern {id top : NodeId} (hclimbs : t.InPattern id top)
    (hkind : t.scopeKind? id = none) :
    (ofTree t).scopeOf id = (ofTree t).scopeOf top ∧ t.scopeKind? top = none := by
  induction hclimbs with
  | refl => exact ⟨rfl, hkind⟩
  | tail _ hpart ih =>
    obtain ⟨hsame, hnone⟩ := ih
    exact ⟨hsame.trans (scopeOf_eq_of_scopeKind? h hroot (hpart.parent h) hnone),
      Tree.scopeKind?_of_isPart hpart⟩

theorem scopeOf_eq_of_declares {node id : NodeId} {form : Tree.DeclarationForm}
    (hdeclares : t.Declares node form id) (hname : (t.identifierName? id).isSome) :
    (ofTree t).scopeOf id = (ofTree t).scopeOf node := by
  obtain ⟨top, owner, hsite, howner⟩ := hdeclares.site h
  obtain ⟨hsame, hnone⟩ :=
    scopeOf_eq_of_inPattern h hroot hsite.climbs (Tree.scopeKind?_of_identifierName? hname)
  rw [hsame, scopeOf_eq_of_scopeKind? h hroot hsite.parent hnone]
  unfold Tree.declaring? at howner
  split at howner
  case h_5 => rw [Option.some.inj howner]
  all_goals
    rename_i hkind
    exact scopeOf_eq_of_scopeKind? h hroot howner (by simp [Tree.scopeKind?, hkind])

theorem scopeOf_root_mem_outwards {n : Nat} (hn : n < t.size) :
    (ofTree t).scopeOf t.root ∈ (ofTree t).outwards ((ofTree t).scopeOf n) :=
  mem_outwards_of_under h hroot (Tree.under_root h hn)
    (mem_outwards_self h hroot (Nat.lt_of_succ_le (Nat.le_of_eq h.root_eq)))

theorem scopeOf_root_le {n : Nat} (hn : n < t.size) :
    (ofTree t).scopeOf t.root ≤ (ofTree t).scopeOf n :=
  le_of_mem_outwards (wellFormed_ofTree t).parentsPrecede (scopeOf_root_mem_outwards h hroot hn)

theorem kindAt?_scopeOf_root :
    (ofTree t).kindAt? ((ofTree t).scopeOf t.root) = some .globalScope ∨
      (ofTree t).kindAt? ((ofTree t).scopeOf t.root) = some .moduleScope := by
  have hmirrors := mirrors_ofTree h hroot
  obtain ⟨body, sourceType, hkind⟩ := hroot
  cases sourceType with
  | script =>
    obtain ⟨htop, scope, hscope, hglobal, -⟩ := hmirrors.script body hkind
    simp [kindAt?, htop, hscope, hglobal]
  | esModule =>
    obtain ⟨htop, -, scope, hscope, hmodule, -⟩ := hmirrors.esModule body hkind
    simp [kindAt?, htop, hscope, hmodule]

theorem scopeOf_root_le_of_hoists {n : Nat} (hn : n < t.size) {s : ScopeId}
    (hs : (ofTree t).Hoists ((ofTree t).scopeOf n) s) : (ofTree t).scopeOf t.root ≤ s := by
  obtain ⟨inner, outer, hsplit, hinner, -⟩ := hs
  have hpair := outwards_pairwise (wellFormed_ofTree t).parentsPrecede ((ofTree t).scopeOf n)
  have hmem := scopeOf_root_mem_outwards h hroot hn
  rw [hsplit] at hpair hmem
  rcases List.mem_append.1 hmem with hin | hin
  · rcases hinner _ hin with hblock | hclass <;>
      rcases kindAt?_scopeOf_root h hroot with hfile | hfile <;> simp_all
  · rcases List.mem_cons.1 hin with heq | hin
    · exact Nat.le_of_eq heq
    · exact Nat.le_of_lt (List.rel_of_pairwise_cons (List.pairwise_append.1 hpair).2.1 hin)

theorem scopeOf_root_le_of_demands {node id : NodeId} {form : Tree.DeclarationForm} {s : ScopeId}
    (hdeclares : t.Declares node form id) (hs : Demands t (ofTree t) node form s) :
    (ofTree t).scopeOf t.root ≤ s := by
  have hparent {p : NodeId} (hp : t.parent? node = some p) :=
    h.lt_size ((h.parent?_iff node p).1 hp)
  rcases hs.cases with ⟨p, hp, rfl⟩ | ⟨-, p, hp, hhoists⟩ | rfl
  · exact scopeOf_root_le h hroot (hparent hp)
  · exact scopeOf_root_le_of_hoists h hroot (hparent hp) hhoists
  · exact scopeOf_root_le h hroot (lt_size_of_declares hdeclares)

/-- The scopes up to `home` are those that the nodes around make inside it. -/
theorem clearUpTo_iff_nodes {node : Nat} (hnode : node < t.size) {home : ScopeId} {name : String}
    (hhome : home ∈ (ofTree t).outwards ((ofTree t).scopeOf node))
    (hfile : (ofTree t).scopeOf t.root ≤ home) :
    (ofTree t).ClearUpTo ((ofTree t).scopeOf node) home name ↔
      ∀ n, MakesScopeAround t (ofTree t) home node n →
        ¬DeclaresName t (ofTree t) ((ofTree t).scopeOf n) name := by
  have hg := (wellFormed_ofTree t).parentsPrecede
  have hmirrors := mirrors_ofTree h hroot
  obtain ⟨inner, outer, hsplit⟩ := List.append_of_mem hhome
  have hpair := outwards_pairwise hg ((ofTree t).scopeOf node)
  rw [hsplit, List.pairwise_append] at hpair
  rw [clearUpTo_iff hg hsplit]
  constructor
  · rintro hclear n ⟨hunder, hmakes, p, hp, hinside⟩
    obtain ⟨kind, hkind⟩ := Option.isSome_iff_exists.1 hmakes
    rw [← findInScope?_eq_none_iff h hroot]
    refine hclear _ ?_
    have hlt : home < (ofTree t).scopeOf n :=
      Nat.lt_of_le_of_lt (le_of_mem_outwards hg hinside) (hg _ _ (parent?_scopeOf h hroot hp hkind))
    have hmem := mem_outwards_of_under h hroot hunder
      (mem_outwards_self h hroot (Tree.lt_size_of_parent? h hp))
    rw [hsplit] at hmem
    refine (List.mem_append.1 hmem).resolve_right fun hin => ?_
    rcases List.mem_cons.1 hin with heq | hin
    · exact Nat.ne_of_gt hlt heq
    · exact Nat.lt_asymm hlt (List.rel_of_pairwise_cons hpair.2.1 hin)
  · intro hnodes a ha
    have hlt : home < a := hpair.2.2 a ha home (by simp)
    obtain ⟨scope, hscope, hunder⟩ := under_of_mem_outwards h hroot hnode
      (hsplit ▸ List.mem_append_left _ ha)
    obtain ⟨hkind, hself⟩ := hmirrors.created a scope (Nat.lt_of_le_of_lt hfile hlt) hscope
    have hne : scope.node ≠ t.root := by
      intro heq
      rw [← hself, heq] at hlt
      exact Nat.not_le_of_lt hlt hfile
    obtain ⟨p, hp⟩ := Tree.exists_parent?_of_ne_root h (Tree.lt_size_of_scopeKind? hkind) hne
    have hparent := parent?_scopeOf h hroot hp hkind
    rw [hself] at hparent
    have hinside : home ∈ (ofTree t).outwards a := mem_outwards_of_split hg hsplit ha
    rw [outwards_eq_cons hg (Array.getElem?_eq_some_iff.1 hscope).1, hparent, Option.map_some,
      Option.getD_some] at hinside
    have hdeclares := hnodes scope.node ⟨hunder, Option.isSome_of_eq_some hkind, p, hp,
      (List.mem_cons.1 hinside).resolve_left (Nat.ne_of_lt hlt)⟩
    rw [hself] at hdeclares
    exact (findInScope?_eq_none_iff h hroot).2 hdeclares

theorem demands_of_mem_identifiers {v : VariableId} {var : Variable}
    (hvar : (ofTree t).varAt? v = some var) {id : NodeId} (hid : id ∈ var.identifiers)
    {node : NodeId} {form : Tree.DeclarationForm} (hdeclares : t.Declares node form id) :
    Demands t (ofTree t) node form var.scope := by
  obtain ⟨hbinding, -⟩ := (mirrors_ofTree h hroot).declares v var hvar id hid
  have hname := ((isSome_binding?_iff h hroot).1 (Option.isSome_of_eq_some hbinding)).1
  obtain ⟨w, var', hw, hvar', -, hdemands⟩ :=
    (mirrors_ofTree h hroot).declared node form id hdeclares hname
  cases hbinding.symm.trans hw
  cases hvar.symm.trans hvar'
  exact hdemands

section Declared

variable {node id : NodeId} {form : Tree.DeclarationForm} (hdeclares : t.Declares node form id)
  (hname : (t.identifierName? id).isSome) {home : ScopeId}
  (hhome : Demands t (ofTree t) node form home) (name : String)
include hdeclares hname hhome

theorem clearUpTo_iff_around :
    (ofTree t).ClearUpTo ((ofTree t).scopeOf id) home name ↔
      ∀ n, MakesScopeAround t (ofTree t) home node n →
        ¬DeclaresName t (ofTree t) ((ofTree t).scopeOf n) name := by
  have hmem := mem_outwards_of_demands h hroot hdeclares hhome
  rw [scopeOf_eq_of_declares h hroot hdeclares hname] at hmem ⊢
  exact clearUpTo_iff_nodes h hroot (lt_size_of_declares hdeclares) hmem
    (scopeOf_root_le_of_demands h hroot hdeclares hhome)

/-- The name of a function or class declaration stands in the scope of the function or class, one
scope inside its own. -/
theorem clearUpTo_iff_inside (hform : form = .functionDeclaration ∨ form = .classDeclaration) :
    (ofTree t).ClearUpTo ((ofTree t).scopeOf id) home name ↔
      ¬DeclaresName t (ofTree t) ((ofTree t).scopeOf node) name := by
  have hg := (wellFormed_ofTree t).parentsPrecede
  obtain ⟨p, hp, hscope⟩ : ∃ p, t.parent? node = some p ∧ home = (ofTree t).scopeOf p := by
    rcases hform with rfl | rfl <;> exact hhome
  obtain ⟨kind, hkind⟩ : ∃ kind, t.scopeKind? node = some kind := by
    rcases hform with rfl | rfl <;> cases hdeclares <;> simp_all [Tree.scopeKind?]
  have hsplit : (ofTree t).outwards ((ofTree t).scopeOf node) =
      [(ofTree t).scopeOf node] ++ home ::
        (((ofTree t).parent? home).map (ofTree t).outwards).getD [] := by
    rw [outwards_eq_cons hg (scopeOf_lt_size h hroot (Tree.lt_size_of_parent? h hp)),
      parent?_scopeOf h hroot hp hkind, Option.map_some, Option.getD_some,
      outwards_eq_cons hg (scopeOf_lt_size h hroot (h.lt_size ((h.parent?_iff node p).1 hp))),
      hscope]
    rfl
  rw [scopeOf_eq_of_declares h hroot hdeclares hname, clearUpTo_iff hg hsplit,
    ← findInScope?_eq_none_iff h hroot]
  simp

theorem clearUpTo_of_demands
    (hform : form ≠ .functionDeclaration ∧ form ≠ .classDeclaration ∧
      form ≠ .variableDeclaration .varDecl) :
    (ofTree t).ClearUpTo ((ofTree t).scopeOf id) home name := by
  have hstays {n : Nat} (hn : n < t.size) (hscope : home = (ofTree t).scopeOf n)
      (hsame : (ofTree t).scopeOf node = (ofTree t).scopeOf n) :
      (ofTree t).ClearUpTo ((ofTree t).scopeOf id) home name := by
    rw [scopeOf_eq_of_declares h hroot hdeclares hname, hsame, hscope]
    exact ⟨[], _, outwards_eq_cons (wellFormed_ofTree t).parentsPrecede
      (scopeOf_lt_size h hroot hn), List.forall_mem_nil _⟩
  have haround (hs : ∃ p, t.parent? node = some p ∧ home = (ofTree t).scopeOf p)
      (hkind : t.scopeKind? node = none) :
      (ofTree t).ClearUpTo ((ofTree t).scopeOf id) home name := by
    obtain ⟨p, hp, hscope⟩ := hs
    exact hstays (h.lt_size ((h.parent?_iff node p).1 hp)) hscope
      (scopeOf_eq_of_scopeKind? h hroot hp hkind)
  cases form with
  | functionDeclaration => exact absurd rfl hform.1
  | classDeclaration => exact absurd rfl hform.2.1
  | imported =>
    refine haround hhome ?_
    cases hdeclares with
    | imported hkind => simp [Tree.scopeKind?, hkind]
  | variableDeclaration kind =>
    cases kind with
    | varDecl => exact absurd rfl hform.2.2
    | letDecl | constDecl =>
      refine haround hhome ?_
      cases hdeclares with
      | variableDeclaration hkind => simp [Tree.scopeKind?, hkind]
  | functionExpression | parameter | classExpression | catchParameter =>
    exact hstays (lt_size_of_declares hdeclares) hhome rfl

end Declared

end Finished

end ScopeGraph

namespace SourceFile

open ScopeGraph

variable {path : String} {text : Text} {doc : Json} {s : Source} {v : VariableId}
  {target : Variable} {new : String} {patch : Patch}

theorem Accepts.clearUpTo_of_mem_referencesOf (h : Source.ofDocument path text doc = .ok s)
    (hv : (ofSource s).scopes.varAt? v = some target) (hacc : (ofSource s).Accepts v target new patch)
    {r : Reference} (hr : r ∈ (ofSource s).scopes.referencesOf v) :
    (ofSource s).scopes.ClearUpTo ((ofSource s).scopes.scopeOf r.identifier) target.scope new := by
  have hwf : (ofSource s).scopes.WellFormed := wellFormed_ofTree s.tree
  obtain ⟨hmem, hresolved⟩ := mem_referencesOf_ofTree.1 hr
  have hscope : r.scope = (ofSource s).scopes.scopeOf r.identifier := by
    cases recorded_ofTree hmem <;> rfl
  have hhome := mem_outwards_of_resolved (Source.wellLinked_of_ofDocument h)
    (Source.nested_of_ofDocument h).2.whole.program hmem hresolved hv
  obtain ⟨inner, outer, hsplit⟩ := List.append_of_mem hhome
  have hchain : (ofSource s).scopes.outwards ((ofSource s).scopes.scopeOf r.identifier) =
      inner ++ target.scope :: outer := hsplit
  refine ⟨inner, outer, hchain, ?_⟩
  cases hfound : inner.findSome? fun a => (ofSource s).scopes.findInScope? a new with
  | none => exact List.findSome?_eq_none_iff.1 hfound
  | some w =>
    -- The use would be captured by the first scope that declares the name.
    have hresolve : (ofSource s).scopes.resolve? r.scope new = some w := by
      rw [resolve?, hscope, hchain, List.findSome?_append, hfound]
      rfl
    obtain ⟨home, hin, hw⟩ := List.exists_of_findSome?_eq_some hfound
    have hentry := (hwf.find_iff home new w).1 hw
    exact absurd (mem_outwards_of_split hwf.parentsPrecede hsplit hin)
      (hacc.not_captured hr hresolve hentry)

/-- What the checks of a rename leave open about one declaration of the variable. -/
structure LeavesClear (s : Source) (v : VariableId) (home : ScopeId) (new : String)
    (node id : NodeId) : Prop where
  hoisted : s.tree.Declares node (.variableDeclaration .varDecl) id →
    (∀ r ∈ (ofSource s).scopes.referencesOf v, r.identifier ≠ id) →
    ∀ n, MakesScopeAround s.tree (ofSource s).scopes home node n →
      ¬DeclaresName s.tree (ofSource s).scopes ((ofSource s).scopes.scopeOf n) new
  named : s.tree.Declares node .functionDeclaration id ∨ s.tree.Declares node .classDeclaration id →
    ¬DeclaresName s.tree (ofSource s).scopes ((ofSource s).scopes.scopeOf node) new

theorem clearUpTo_iff_leavesClear (h : Source.ofDocument path text doc = .ok s)
    (hv : (ofSource s).scopes.varAt? v = some target) (hacc : (ofSource s).Accepts v target new patch)
    {id : NodeId} (hid : id ∈ target.identifiers) :
    (ofSource s).scopes.ClearUpTo ((ofSource s).scopes.scopeOf id) target.scope new ↔
      ∀ node, LeavesClear s v target.scope new node id := by
  have hlinked := Source.wellLinked_of_ofDocument h
  have hroot := (Source.nested_of_ofDocument h).2.whole.program
  have hname := Option.isSome_of_eq_some (identifierName?_of_mem_identifiers hv hid)
  constructor
  · intro hclear node
    refine ⟨fun hdeclares _ => ?_, ?_⟩
    · have hhome := demands_of_mem_identifiers hlinked hroot hv hid hdeclares
      exact (clearUpTo_iff_around hlinked hroot hdeclares hname hhome new).1 hclear
    · rintro (hdeclares | hdeclares) <;>
      · have hhome := demands_of_mem_identifiers hlinked hroot hv hid hdeclares
        exact (clearUpTo_iff_inside hlinked hroot hdeclares hname hhome new (by simp)).1 hclear
  · intro hleaves
    by_cases hused : ∃ r ∈ (ofSource s).scopes.referencesOf v, r.identifier = id
    · obtain ⟨r, hr, rfl⟩ := hused
      exact hacc.clearUpTo_of_mem_referencesOf h hv hr
    · simp only [not_exists, not_and] at hused
      obtain ⟨-, node, form, hdeclares, hhome⟩ :=
        (mirrors_ofTree hlinked hroot).declares v target hv id hid
      by_cases hhoisted : form = .variableDeclaration .varDecl
      · subst hhoisted
        exact (clearUpTo_iff_around hlinked hroot hdeclares hname hhome new).2
          ((hleaves node).hoisted hdeclares hused)
      by_cases hnamed : form = .functionDeclaration ∨ form = .classDeclaration
      · refine (clearUpTo_iff_inside hlinked hroot hdeclares hname hhome new hnamed).2 ?_
        refine (hleaves node).named ?_
        rcases hnamed with rfl | rfl
        · exact .inl hdeclares
        · exact .inr hdeclares
      · rw [not_or] at hnamed
        exact clearUpTo_of_demands hlinked hroot hdeclares hname hhome new
          ⟨hnamed.1, hnamed.2, hhoisted⟩

/-- A renamed variable crosses no scope that declares its new name, unless a hoisted name that no
initializer writes stands inside such a scope, or the name of a function or class inside which the
new name is declared. -/
theorem clearUpTo_iff_of_rename? (h : Source.ofDocument path text doc = .ok s)
    (hv : (ofSource s).scopes.varAt? v = some target)
    (hpatch : (ofSource s).rename? v new = some patch) :
    ((∀ id ∈ target.identifiers, (ofSource s).scopes.ClearUpTo ((ofSource s).scopes.scopeOf id)
        target.scope new) ↔
      ∀ id ∈ target.identifiers, ∀ node, LeavesClear s v target.scope new node id) ∧
    (s.tree.EsTreeShaped → ∀ id ∈ target.identifiers,
      ((∃ r ∈ (ofSource s).scopes.referencesOf v, r.identifier = id) ↔
        ∃ node, s.tree.Initializes node id)) := by
  have hacc := accepts_of_rename? hv hpatch
  refine ⟨?_, ?_⟩
  · exact forall₂_congr fun id hid => clearUpTo_iff_leavesClear h hv hacc hid
  · intro hshape id hid
    exact exists_reference_iff_initializes (Source.wellLinked_of_ofDocument h)
      (Source.nested_of_ofDocument h).2.whole.program hshape hv hid

/-- `{ let y; var x; }`, where the block declares the new name of the hoisted one. -/
def blockDocument : Json := .obj [
  ("body", .arr [.obj [
    ("body", .arr [
      .obj [
        ("declarations", .arr [.obj [
          ("id", .obj [("name", .str "y"), ("range", .arr [.nat 6, .nat 7]),
            ("type", .str "Identifier")]),
          ("init", .null), ("range", .arr [.nat 6, .nat 7]),
          ("type", .str "VariableDeclarator")]]),
        ("kind", .str "let"), ("range", .arr [.nat 2, .nat 8]),
        ("type", .str "VariableDeclaration")],
      .obj [
        ("declarations", .arr [.obj [
          ("id", .obj [("name", .str "x"), ("range", .arr [.nat 13, .nat 14]),
            ("type", .str "Identifier")]),
          ("init", .null), ("range", .arr [.nat 13, .nat 14]),
          ("type", .str "VariableDeclarator")]]),
        ("kind", .str "var"), ("range", .arr [.nat 9, .nat 15]),
        ("type", .str "VariableDeclaration")]]),
    ("range", .arr [.nat 0, .nat 17]), ("type", .str "BlockStatement")]]),
  ("sourceType", .str "script"), ("type", .str "Program")]

def blockSource : Source where
  path := "a.js"
  text := "\x7b let y; var x; \x7d".toList
  tree :=
    { nodes := #[
        ⟨.identifier "x" none false, ⟨13, 14⟩⟩,
        ⟨.variableDeclarator 0 none, ⟨13, 14⟩⟩,
        ⟨.variableDeclaration .varDecl [1], ⟨9, 15⟩⟩,
        ⟨.identifier "y" none false, ⟨6, 7⟩⟩,
        ⟨.variableDeclarator 3 none, ⟨6, 7⟩⟩,
        ⟨.variableDeclaration .letDecl [4], ⟨2, 8⟩⟩,
        ⟨.blockStatement [5, 2], ⟨0, 17⟩⟩,
        ⟨.program [6] .script, ⟨0, 17⟩⟩]
      children := #[[], [0], [1], [], [3], [4], [5, 2], [6]]
      parents := #[some 1, some 2, some 6, some 4, some 5, some 6, some 7, none]
      root := 7 }
  tokens := TokenIndex.ofList []

theorem ofDocument_block :
    Source.ofDocument "a.js" blockSource.text blockDocument = .ok blockSource := by
  have hload : Loader.load blockSource.text blockDocument = .ok blockSource.tree.nodes := by
    decide +kernel
  have htree : Tree.ofNodes blockSource.tree.nodes 7 = .ok blockSource.tree := by cbv
  have htokens : Loader.tokens blockSource.text blockDocument = [] := by rfl
  rw [Source.ofDocument_eq "a.js" hload htree, htokens]
  rfl

def hoistedX : Variable := ⟨"x", 0, .varBinding, [0], [1], []⟩

theorem rename?_block : (ofSource blockSource).scopes.varAt? 1 = some hoistedX ∧
    (ofSource blockSource).rename? 1 "y" = some ⟨[⟨⟨13, 14⟩, "y"⟩]⟩ := by
  constructor <;> cbv

theorem esTreeShaped_block : blockSource.tree.EsTreeShaped := by
  have hsmall (n : Nat) : n < 8 ∨ blockSource.tree.kind n = .other "" [] :=
    (Nat.lt_or_ge n 8).imp_right Tree.kind_of_size_le
  refine ⟨?_, ?_, ?_, ?_⟩
  · intro n p value key kind computed method hkind hp
    rcases hsmall n with hlt | hnone
    · interval_cases n <;> cases hkind
    · simp [hnone] at hkind
  · intro n p target init hkind hp
    rcases hsmall n with hlt | hnone
    · interval_cases n <;> cases hkind <;> cases hp
      · exact ⟨_, [1], rfl⟩
      · exact ⟨_, [4], rfl⟩
    · simp [hnone] at hkind
  · intro n p id hid hp
    rcases hsmall n with hlt | hnone
    · interval_cases n <;> cases hid
    · simp [Tree.importBinding?, hnone] at hid
  · intro n fn hkind
    rcases hsmall n with hlt | hnone
    · interval_cases n <;> cases hkind
    · simp [hnone] at hkind

theorem clearUpTo_iff_of_rename?_block :
    Source.ofDocument "a.js" blockSource.text blockDocument = .ok blockSource ∧
    blockSource.tree.EsTreeShaped ∧
    ((∀ id ∈ hoistedX.identifiers, (ofSource blockSource).scopes.ClearUpTo
        ((ofSource blockSource).scopes.scopeOf id) hoistedX.scope "y") ↔
      ∀ id ∈ hoistedX.identifiers, ∀ node, LeavesClear blockSource 1 hoistedX.scope "y" node id) ∧
    ∀ id ∈ hoistedX.identifiers,
      ((∃ r ∈ (ofSource blockSource).scopes.referencesOf 1, r.identifier = id) ↔
        ∃ node, blockSource.tree.Initializes node id) := by
  obtain ⟨hclear, hused⟩ :=
    clearUpTo_iff_of_rename? ofDocument_block rename?_block.1 rename?_block.2
  exact ⟨ofDocument_block, esTreeShaped_block, hclear, hused esTreeShaped_block⟩

theorem not_clearUpTo_block :
    Source.ofDocument "a.js" blockSource.text blockDocument = .ok blockSource ∧
    (ofSource blockSource).scopes.varAt? 1 = some hoistedX ∧
    (ofSource blockSource).rename? 1 "y" = some ⟨[⟨⟨13, 14⟩, "y"⟩]⟩ ∧
    ¬∀ id ∈ hoistedX.identifiers, (ofSource blockSource).scopes.ClearUpTo
      ((ofSource blockSource).scopes.scopeOf id) hoistedX.scope "y" := by
  refine ⟨ofDocument_block, rename?_block.1, rename?_block.2, ?_⟩
  intro hclear
  have hsplit : (ofSource blockSource).scopes.outwards
      ((ofSource blockSource).scopes.scopeOf 0) = [1] ++ hoistedX.scope :: [] := by cbv
  have hinner := (clearUpTo_iff (wellFormed_ofTree blockSource.tree).parentsPrecede hsplit).1
    (hclear 0 (by decide)) 1 (by simp)
  have hfound : (ofSource blockSource).scopes.findInScope? 1 "y" = some 0 := by cbv
  cases hinner.symm.trans hfound

end SourceFile

end ScriptLint
