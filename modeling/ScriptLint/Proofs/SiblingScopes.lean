import ScriptLint.Proofs.CaptureFree
import ScriptLint.Proofs.Enclosure

/-! What the head of a statement sees of its other parts. A function has one scope for its parameters
and its body, so a reference in a parameter can see what is declared in that scope, but nothing that
is declared in a scope further inside the body. Nor does the discriminant of a switch statement see
the scopes inside the cases. -/
namespace ScriptLint

namespace NodeKind

variable {α : Type}

theorem inReadingOrder_switchStatement (discriminant : α) (cases : List α) :
    (switchStatement discriminant cases).inReadingOrder = discriminant :: cases := by
  simp only [inReadingOrder_eq, traverse, run_bind_note, run_note, run_mapM_note, run_pure_note,
    List.reverse_append, List.reverse_reverse, List.reverse_cons, List.reverse_nil, List.nil_append,
    List.cons_append]

end NodeKind

namespace Tree

variable {t : Tree} (h : t.WellLinked) {node id b p : NodeId}
include h

theorem InPattern.under_of_under {top : NodeId} (hclimbs : t.InPattern id top) (hid : t.Under id b)
    (hb : t.parent? b = some p) (hp : t.patternParts p = []) : t.Under top b := by
  induction hclimbs with
  | refl => exact hid
  | @tail part pattern _ hpart ih =>
    refine (ih.eq_or_parent (hpart.parent h)).resolve_left ?_
    rintro rfl
    cases hb.symm.trans (hpart.parent h)
    rw [IsPart, hp] at hpart
    cases hpart

theorem Declares.under_or_eq {form : DeclarationForm} (hdeclares : t.Declares node form id)
    (hid : t.Under id b) (hb : t.parent? b = some p) (hp : t.patternParts p = [])
    (howner : t.declaring? p = some p) : t.Under node b ∨ node = p := by
  obtain ⟨top, owner, hsite, hnode⟩ := hdeclares.site h
  have htop := InPattern.under_of_under h hsite.climbs hid hb hp
  rcases htop.eq_or_parent hsite.parent with rfl | hunder
  · cases hb.symm.trans hsite.parent
    exact .inr (Option.some.inj (hnode.symm.trans howner))
  · unfold declaring? at hnode
    split at hnode
    case h_5 =>
      rw [← Option.some.inj hnode]
      exact .inl hunder
    all_goals
      rcases hunder.eq_or_parent hnode with rfl | hunder
      · exact .inr (Option.some.inj (hnode.symm.trans hb))
      · exact .inl hunder

omit h in
theorem Declares.in_head {fn : FunctionShape NodeId} {form : DeclarationForm}
    (hdeclares : t.Declares node form id) (hfn : (t.kind node).fn? = some fn) :
    ∃ child ∈ fn.id.toList ++ fn.params, t.InPattern id child := by
  cases hdeclares with
  | functionDeclaration hkind hid | functionExpression hkind hid =>
    rw [hkind] at hfn
    cases hfn
    exact ⟨id, by simp [hid], .refl⟩
  | parameter hfn' hmem hid =>
    cases hfn.symm.trans hfn'
    exact ⟨_, List.mem_append_right _ hmem, hid.climbs⟩
  | classDeclaration hkind | variableDeclaration hkind | imported hkind | classExpression hkind
  | catchParameter hkind => simp [hkind, NodeKind.fn?] at hfn

theorem Declares.under_body {fn : FunctionShape NodeId} {form : DeclarationForm}
    (hdeclares : t.Declares node form id) (hfn : (t.kind p).fn? = some fn)
    (hid : t.Under id fn.body) : t.Under node fn.body := by
  have horder := NodeKind.inReadingOrder_fn hfn
  have hnodup := (h.perm p).nodup_iff.1 (h.nodup p)
  rw [horder, ← List.append_assoc] at hnodup
  have hbody : t.parent? fn.body = some p := parent?_of_mem h (by rw [horder]; simp)
  have hplain : t.patternParts p = [] ∧ t.declaring? p = some p := by
    simp only [patternParts, declaring?]
    cases hkind : t.kind p with
    | functionDeclaration | functionExpression | arrowFunction => exact ⟨rfl, rfl⟩
    | _ => simp [hkind, NodeKind.fn?] at hfn
  refine (hdeclares.under_or_eq h hid hbody hplain.1 hplain.2).resolve_right ?_
  rintro rfl
  obtain ⟨child, hmem, hclimbs⟩ := hdeclares.in_head hfn
  have hparent := (site_of_fn h hfn hmem hclimbs).1.parent
  cases (hclimbs.under h).eq_of_siblings h hid hparent hbody
  exact (List.nodup_append.1 hnodup).2.2 _ hmem _ (List.mem_singleton_self _) rfl

end Tree

namespace ScopeGraph

section Finished

variable {t : Tree} (h : t.WellLinked)
  (hroot : ∃ body sourceType, t.kind t.root = .program body sourceType)
include h hroot

theorem mem_outwards_of_under {n m : NodeId} (hn : t.Under n m) {s : ScopeId}
    (hs : s ∈ (ofTree t).outwards ((ofTree t).scopeOf m)) :
    s ∈ (ofTree t).outwards ((ofTree t).scopeOf n) := by
  induction hn using Relation.ReflTransGen.head_induction_on with
  | refl => exact hs
  | head hp _ ih =>
    rcases outwards_of_parent? h hroot hp with hsame | ⟨hcons, -⟩
    · exact hsame ▸ ih
    · rw [hcons]
      exact List.mem_cons_of_mem _ ih

theorem mem_outwards_of_demands {node id : NodeId} {form : Tree.DeclarationForm} {s : ScopeId}
    (hdeclares : t.Declares node form id) (hs : Demands t (ofTree t) node form s) :
    s ∈ (ofTree t).outwards ((ofTree t).scopeOf id) := by
  have hnode : s ∈ (ofTree t).outwards ((ofTree t).scopeOf node) →
      s ∈ (ofTree t).outwards ((ofTree t).scopeOf id) :=
    mem_outwards_of_under h hroot (hdeclares.under h)
  have houter {p : NodeId} (hp : t.parent? node = some p)
      (hs : s ∈ (ofTree t).outwards ((ofTree t).scopeOf p)) :
      s ∈ (ofTree t).outwards ((ofTree t).scopeOf id) :=
    hnode (mem_outwards_of_under h hroot (.single hp) hs)
  rcases hs.cases with ⟨p, hp, rfl⟩ | ⟨-, p, hp, inner, outer, hsplit, -⟩ | rfl
  · exact houter hp (mem_outwards_self h hroot (h.lt_size ((h.parent?_iff node p).1 hp)))
  · exact houter hp (by rw [hsplit]; simp)
  · exact hnode (mem_outwards_self h hroot (lt_size_of_declares hdeclares))

theorem mem_outwards_of_resolved {r : Reference} (hr : r ∈ (ofTree t).references) {v : VariableId}
    {var : Variable} (hv : r.resolved = some v) (hvar : (ofTree t).varAt? v = some var) :
    var.scope ∈ (ofTree t).outwards ((ofTree t).scopeOf r.identifier) := by
  cases recorded_ofTree hr with
  | use hname hrole =>
    obtain ⟨home, hhome, hentry⟩ := (wellFormed_ofTree t).home_of_resolve? hv
    obtain ⟨var', hvar', -, rfl⟩ := WellFormed.varAt?_of_home hentry
    cases hvar.symm.trans hvar'
    exact hhome
  | init hname hrole hmem =>
    obtain ⟨var', hvar', hid⟩ := (binding?_eq_some_iff h hroot).1 hv
    cases hvar.symm.trans hvar'
    obtain ⟨-, node, form, hdeclares, hdemands⟩ :=
      (mirrors_ofTree h hroot).declares v var hvar _ hid
    exact mem_outwards_of_demands h hroot hdeclares hdemands

theorem scopeOf_eq_or_liesIn {n b p : NodeId} (hb : t.parent? b = some p) (hn : t.Under n b) :
    (ofTree t).scopeOf n = (ofTree t).scopeOf p ∨
      (ofTree t).LiesIn t ((ofTree t).scopeOf n) b := by
  induction hn using Relation.ReflTransGen.head_induction_on with
  | refl =>
    rcases outwards_of_parent? h hroot hb with hsame | ⟨-, scope, hscope, hnode⟩
    · exact .inl hsame
    · exact .inr ⟨scope, hscope, by rw [hnode]⟩
  | head hm hrest ih =>
    rcases outwards_of_parent? h hroot hm with hsame | ⟨-, scope, hscope, hnode⟩
    · exact hsame ▸ ih
    · exact .inr ⟨scope, hscope, hnode ▸ .head hm hrest⟩

/-- From inside a part of a node that takes hoisted names, they go no further than to the node. -/
theorem Hoists.eq_or_liesIn {n b p : NodeId} {s : ScopeId} (hb : t.parent? b = some p)
    (hn : n = p ∨ t.Under n b)
    (hkind : (ofTree t).kindAt? ((ofTree t).scopeOf p) = some .functionScope)
    (hs : (ofTree t).Hoists ((ofTree t).scopeOf n) s) :
    s = (ofTree t).scopeOf p ∨ (ofTree t).LiesIn t s b := by
  obtain ⟨within, hwithin, hlies⟩ : ∃ within, (ofTree t).outwards ((ofTree t).scopeOf n) =
      within ++ (ofTree t).outwards ((ofTree t).scopeOf p) ∧
        ∀ a ∈ within, (ofTree t).LiesIn t a b := by
    rcases hn with rfl | hn
    · exact ⟨[], rfl, List.forall_mem_nil _⟩
    · exact outwards_of_under h hroot hb hn
  obtain ⟨inner, outer, hsplit, hinner, -⟩ := hs
  have hp := h.lt_size ((h.parent?_iff b p).1 hb)
  rw [hwithin, outwards_eq_cons (wellFormed_ofTree t).parentsPrecede (scopeOf_lt_size h hroot hp),
    List.append_eq_append_iff] at hsplit
  rcases hsplit with ⟨passed, hpassed, hrest⟩ | ⟨found, hfound, hrest⟩
  · cases passed with
    | nil => exact .inl (List.cons.inj hrest).1.symm
    | cons first passed =>
      -- The scope of the node itself would have been passed.
      have hno := hinner ((ofTree t).scopeOf p) (by
        rw [hpassed, (List.cons.inj hrest).1]
        simp)
      rw [hkind] at hno
      simp at hno
  · cases found with
    | nil => exact .inl (List.cons.inj hrest).1
    | cons first found =>
      refine .inr (hlies s ?_)
      rw [hfound, (List.cons.inj hrest).1]
      simp

theorem Demands.eq_or_liesIn {node b p : NodeId} {form : Tree.DeclarationForm} {s : ScopeId}
    (hb : t.parent? b = some p) (hnode : t.Under node b)
    (hkind : (ofTree t).kindAt? ((ofTree t).scopeOf p) = some .functionScope)
    (hs : Demands t (ofTree t) node form s) :
    s = (ofTree t).scopeOf p ∨ (ofTree t).LiesIn t s b := by
  have hparent {q : NodeId} (hq : t.parent? node = some q) : q = p ∨ t.Under q b := by
    rcases hnode.eq_or_parent hq with rfl | hunder
    · exact .inl (Option.some.inj (hq.symm.trans hb))
    · exact .inr hunder
  rcases hs.cases with ⟨q, hq, rfl⟩ | ⟨-, q, hq, hhoists⟩ | rfl
  · rcases hparent hq with rfl | hunder
    · exact .inl rfl
    · exact scopeOf_eq_or_liesIn h hroot hb hunder
  · exact Hoists.eq_or_liesIn h hroot hb (hparent hq) hkind hhoists
  · exact scopeOf_eq_or_liesIn h hroot hb hnode

theorem scope_eq_of_resolved {a b p : NodeId} (ha : t.parent? a = some p)
    (hb : t.parent? b = some p) (hne : a ≠ b) {r : Reference} (hr : r ∈ (ofTree t).references)
    (hwithin : t.Under r.identifier a) {v : VariableId} {var : Variable} (hv : r.resolved = some v)
    (hvar : (ofTree t).varAt? v = some var) {node : NodeId} {form : Tree.DeclarationForm}
    (hnode : t.Under node b) (hdemands : Demands t (ofTree t) node form var.scope)
    (hkind : (ofTree t).kindAt? ((ofTree t).scopeOf p) = some .functionScope) :
    var.scope = (ofTree t).scopeOf p :=
  (hdemands.eq_or_liesIn h hroot hb hnode hkind).resolve_right
    (not_liesIn_of_siblings h hroot hwithin ha hb hne
      (mem_outwards_of_resolved h hroot hr hv hvar))

end Finished

/-- The graph without the names that are declared in scopes inside some nodes. -/
def silence (t : Tree) (parts : List NodeId) (g : ScopeGraph) : ScopeGraph :=
  { g with scopes := g.scopes.map fun scope =>
      if parts.any (t.isWithin scope.node) then { scope with names := [] } else scope }

/-- References inside `head` see nothing of the scopes inside `parts`. -/
structure Hides (t : Tree) (g : ScopeGraph) (head : NodeId) (parts : List NodeId) : Prop where
  apart : ∀ r ∈ g.references, t.isWithin r.identifier head = true →
    ∀ v var, r.resolved = some v → g.varAt? v = some var →
      ∀ scope, g.scopes[var.scope]? = some scope → ∀ b ∈ parts, t.isWithin scope.node b = false
  /-- They are resolved as if nothing was declared there. -/
  silent : ∀ r ∈ g.references, t.isWithin r.identifier head = true → r.init = false →
    ∃ name, usedName? t r.identifier = some name ∧
      r.resolved = (g.silence t parts).resolve? r.scope name

theorem outwards_silence (t : Tree) (parts : List NodeId) (g : ScopeGraph) (s : ScopeId) :
    (g.silence t parts).outwards s = g.outwards s := by
  refine outwards_congr (fun s => ?_) (by simp [silence]) s
  simp only [parent?, silence, Array.getElem?_map]
  cases g.scopes[s]? with
  | none => rfl
  | some scope =>
    simp only [Option.map_some, Option.bind_some]
    split <;> rfl

theorem findInScope?_silence {t : Tree} (h : t.WellLinked) {parts : List NodeId} {g : ScopeGraph}
    {s : ScopeId} (hs : ∀ b ∈ parts, ¬g.LiesIn t s b) (name : String) :
    (g.silence t parts).findInScope? s name = g.findInScope? s name := by
  simp only [findInScope?, silence, Array.getElem?_map]
  cases hscope : g.scopes[s]? with
  | none => rfl
  | some scope =>
    have hout : parts.any (t.isWithin scope.node) = false := by
      rw [List.any_eq_false]
      exact fun b hb hwithin => hs b hb ⟨scope, hscope, (Tree.isWithin_iff h).1 hwithin⟩
    simp only [Option.map_some, Option.bind_some, hout, Bool.false_eq_true, if_false]

/-- What heads see of the other parts. Nothing is said of the scope of a switch statement itself. -/
structure SeparatesHeads (t : Tree) (g : ScopeGraph) : Prop where
  discriminant : ∀ node discriminant cases, t.kind node = .switchStatement discriminant cases →
    g.Hides t discriminant cases
  parameter : ∀ node fn, (t.kind node).fn? = some fn → ∀ param ∈ fn.params,
    g.Hides t param [fn.body]
  /-- What is declared in the body only, and is seen from a parameter. -/
  body : ∀ node fn, (t.kind node).fn? = some fn → ∀ param ∈ fn.params,
    ∀ r ∈ g.references, t.isWithin r.identifier param = true →
      ∀ v var, r.resolved = some v → g.varAt? v = some var →
        (∀ id ∈ var.identifiers, t.isWithin id fn.body = true) → var.scope = g.scopeOf node

section Heads

variable {t : Tree} (h : t.WellLinked)
  (hroot : ∃ body sourceType, t.kind t.root = .program body sourceType)
include h hroot

theorem hides_of_siblings {a p : NodeId} {parts : List NodeId} (ha : t.parent? a = some p)
    (hparts : ∀ b ∈ parts, t.parent? b = some p ∧ a ≠ b) : (ofTree t).Hides t a parts := by
  have hapart {n : NodeId} (hn : t.isWithin n a = true) {s : ScopeId}
      (hs : s ∈ (ofTree t).outwards ((ofTree t).scopeOf n)) :
      ∀ b ∈ parts, ¬(ofTree t).LiesIn t s b := by
    intro b hb
    exact not_liesIn_of_siblings h hroot ((Tree.isWithin_iff h).1 hn) ha (hparts b hb).1
      (hparts b hb).2 hs
  constructor
  · intro r hr hwithin v var hv hvar scope hscope b hb
    refine Bool.eq_false_iff.2 fun hin => ?_
    exact hapart hwithin (mem_outwards_of_resolved h hroot hr hv hvar) b hb
      ⟨scope, hscope, (Tree.isWithin_iff h).1 hin⟩
  · intro r hr hwithin hinit
    cases recorded_ofTree hr with
    | init hname hrole hmem => cases hinit
    | @use id name access hname hrole =>
      refine ⟨name, hname, ?_⟩
      rw [resolve?, resolve?, outwards_silence]
      exact findSome?_eq_of_forall fun s hs =>
        (findInScope?_silence h (hapart hwithin hs) name).symm

omit hroot in
theorem switch_children {node discriminant : NodeId} {cases : List NodeId}
    (hkind : t.kind node = .switchStatement discriminant cases) :
    t.parent? discriminant = some node ∧
      ∀ b ∈ cases, t.parent? b = some node ∧ discriminant ≠ b := by
  have horder : (t.kind node).inReadingOrder = discriminant :: cases := by
    rw [hkind, NodeKind.inReadingOrder_switchStatement]
  have hnodup : (discriminant :: cases).Nodup :=
    horder ▸ (h.perm node).nodup_iff.1 (h.nodup node)
  have hchild {c : NodeId} (hc : c ∈ discriminant :: cases) : t.parent? c = some node :=
    Tree.parent?_of_mem h (horder ▸ hc)
  refine ⟨hchild List.mem_cons_self, fun b hb => ⟨hchild (List.mem_cons_of_mem _ hb), ?_⟩⟩
  rintro rfl
  exact (List.nodup_cons.1 hnodup).1 hb

omit hroot in
theorem function_children {node param : NodeId} {fn : FunctionShape NodeId}
    (hfn : (t.kind node).fn? = some fn) (hparam : param ∈ fn.params) :
    t.parent? param = some node ∧ t.parent? fn.body = some node ∧ param ≠ fn.body := by
  have horder := NodeKind.inReadingOrder_fn hfn
  have hnodup := (h.perm node).nodup_iff.1 (h.nodup node)
  rw [horder] at hnodup
  refine ⟨Tree.parent?_of_mem h (by rw [horder]; simp [hparam]),
    Tree.parent?_of_mem h (by rw [horder]; simp), ?_⟩
  rintro rfl
  exact (List.nodup_append.1 (List.nodup_append.1 hnodup).2.1).2.2 _ hparam _
    (List.mem_singleton_self _) rfl

theorem kindAt?_of_fn {node : Nat} {fn : FunctionShape NodeId} (hnode : node < t.size)
    (hfn : (t.kind node).fn? = some fn) :
    (ofTree t).kindAt? ((ofTree t).scopeOf node) = some .functionScope := by
  have hscope : t.scopeKind? node = some .functionScope := by
    unfold Tree.scopeKind?
    cases hkind : t.kind node with
    | functionDeclaration | functionExpression | arrowFunction => rfl
    | _ => simp [hkind, NodeKind.fn?] at hfn
  have hne : node ≠ t.root := by
    rintro rfl
    obtain ⟨body, sourceType, hkind⟩ := hroot
    simp [hkind, NodeKind.fn?] at hfn
  obtain ⟨p, -, -, hcreates⟩ := (mirrors_ofTree h hroot).placed node hnode hne
  obtain ⟨scope, hget, hkind, -⟩ := hcreates _ hscope
  rw [kindAt?, hget, Option.map_some, hkind]

theorem separatesHeads_ofTree : (ofTree t).SeparatesHeads t where
  discriminant node discriminant cases hkind :=
    have hchildren := switch_children h hkind
    hides_of_siblings h hroot hchildren.1 hchildren.2
  parameter node fn hfn param hparam := by
    obtain ⟨hhead, hbody, hne⟩ := function_children h hfn hparam
    refine hides_of_siblings h hroot hhead fun b hb => ?_
    rw [List.mem_singleton.1 hb]
    exact ⟨hbody, hne⟩
  body := by
    intro node fn hfn param hparam r hr hwithin v var hv hvar hids
    obtain ⟨hhead, hbody, hne⟩ := function_children h hfn hparam
    obtain ⟨id, hid⟩ := List.exists_mem_of_ne_nil _
      (identifiers_ne_nil_run t (getElem?_vars_run (show (ofTree t).vars[v]? = some var from hvar)))
    obtain ⟨-, declaration, form, hdeclares, hdemands⟩ :=
      (mirrors_ofTree h hroot).declares v var hvar id hid
    have hnode := hdeclares.under_body h hfn ((Tree.isWithin_iff h).1 (hids id hid))
    exact scope_eq_of_resolved h hroot hhead hbody hne hr ((Tree.isWithin_iff h).1 hwithin) hv hvar
      hnode hdemands (kindAt?_of_fn h hroot (h.lt_size ((h.parent?_iff _ _).1 hbody)) hfn)

end Heads

end ScopeGraph

namespace SourceFile

open ScopeGraph

/-- A reference in the discriminant of a switch statement sees nothing of the scopes inside its cases,
and a reference in a parameter nothing of the scopes inside the body of its function: what it sees of
the body is declared in the scope of the function itself. -/
theorem separatesHeads_ofSource {path : String} {text : Text} {doc : Json} {s : Source}
    (h : Source.ofDocument path text doc = .ok s) : (ofSource s).scopes.SeparatesHeads s.tree :=
  separatesHeads_ofTree (Source.wellLinked_of_ofDocument h)
    (Source.nested_of_ofDocument h).2.whole.program

/-- `function f(a = b) { let b; switch (c) { case a: { let c; } } }`. The default of `a` refers to the
`b` of the body, but the discriminant does not refer to the `c` of the block. -/
def headDocument : Json := .obj [
  ("body", .arr [.obj [
    ("body", .obj [
      ("body", .arr [
        .obj [
          ("declarations", .arr [.obj [
            ("id", .obj [("name", .str "b"), ("range", .arr [.nat 24, .nat 25]),
              ("type", .str "Identifier")]),
            ("init", .null), ("range", .arr [.nat 24, .nat 25]),
            ("type", .str "VariableDeclarator")]]),
          ("kind", .str "let"), ("range", .arr [.nat 20, .nat 26]),
          ("type", .str "VariableDeclaration")],
        .obj [
          ("cases", .arr [.obj [
            ("consequent", .arr [.obj [
              ("body", .arr [.obj [
                ("declarations", .arr [.obj [
                  ("id", .obj [("name", .str "c"), ("range", .arr [.nat 54, .nat 55]),
                    ("type", .str "Identifier")]),
                  ("init", .null), ("range", .arr [.nat 54, .nat 55]),
                  ("type", .str "VariableDeclarator")]]),
                ("kind", .str "let"), ("range", .arr [.nat 50, .nat 56]),
                ("type", .str "VariableDeclaration")]]),
              ("range", .arr [.nat 48, .nat 58]), ("type", .str "BlockStatement")]]),
            ("range", .arr [.nat 40, .nat 58]),
            ("test", .obj [("name", .str "a"), ("range", .arr [.nat 45, .nat 46]),
              ("type", .str "Identifier")]),
            ("type", .str "SwitchCase")]]),
          ("discriminant", .obj [("name", .str "c"), ("range", .arr [.nat 35, .nat 36]),
            ("type", .str "Identifier")]),
          ("range", .arr [.nat 27, .nat 60]), ("type", .str "SwitchStatement")]]),
      ("range", .arr [.nat 18, .nat 62]), ("type", .str "BlockStatement")]),
    ("id", .obj [("name", .str "f"), ("range", .arr [.nat 9, .nat 10]),
      ("type", .str "Identifier")]),
    ("params", .arr [.obj [
      ("left", .obj [("name", .str "a"), ("range", .arr [.nat 11, .nat 12]),
        ("type", .str "Identifier")]),
      ("range", .arr [.nat 11, .nat 16]),
      ("right", .obj [("name", .str "b"), ("range", .arr [.nat 15, .nat 16]),
        ("type", .str "Identifier")]),
      ("type", .str "AssignmentPattern")]]),
    ("range", .arr [.nat 0, .nat 62]), ("type", .str "FunctionDeclaration")]]),
  ("sourceType", .str "script"), ("type", .str "Program")]

def headSource : Source where
  path := "a.js"
  text := "function f(a = b) \x7b let b; switch (c) \x7b case a: \x7b let c; \x7d \x7d \x7d".toList
  tree :=
    { nodes := #[
        ⟨.identifier "c" none false, ⟨54, 55⟩⟩,
        ⟨.variableDeclarator 0 none, ⟨54, 55⟩⟩,
        ⟨.variableDeclaration .letDecl [1], ⟨50, 56⟩⟩,
        ⟨.blockStatement [2], ⟨48, 58⟩⟩,
        ⟨.identifier "a" none false, ⟨45, 46⟩⟩,
        ⟨.switchCase (some 4) [3], ⟨40, 58⟩⟩,
        ⟨.identifier "c" none false, ⟨35, 36⟩⟩,
        ⟨.switchStatement 6 [5], ⟨27, 60⟩⟩,
        ⟨.identifier "b" none false, ⟨24, 25⟩⟩,
        ⟨.variableDeclarator 8 none, ⟨24, 25⟩⟩,
        ⟨.variableDeclaration .letDecl [9], ⟨20, 26⟩⟩,
        ⟨.blockStatement [10, 7], ⟨18, 62⟩⟩,
        ⟨.identifier "b" none false, ⟨15, 16⟩⟩,
        ⟨.identifier "a" none false, ⟨11, 12⟩⟩,
        ⟨.assignmentPattern 13 12, ⟨11, 16⟩⟩,
        ⟨.identifier "f" none false, ⟨9, 10⟩⟩,
        ⟨.functionDeclaration ⟨some 15, [14], 11, false, false⟩, ⟨0, 62⟩⟩,
        ⟨.program [16] .script, ⟨0, 62⟩⟩]
      children := #[[], [0], [1], [2], [], [4, 3], [], [6, 5], [], [8], [9], [10, 7], [], [],
        [13, 12], [], [15, 14, 11], [16]]
      parents := #[some 1, some 2, some 3, some 5, some 5, some 7, some 7, some 11, some 9, some 10,
        some 11, some 16, some 14, some 14, some 16, some 16, some 17, none]
      root := 17 }
  tokens := TokenIndex.ofList []

theorem ofDocument_head :
    Source.ofDocument "a.js" headSource.text headDocument = .ok headSource := by
  have hload : Loader.load headSource.text headDocument = .ok headSource.tree.nodes := by
    decide +kernel
  have htree : Tree.ofNodes headSource.tree.nodes 17 = .ok headSource.tree := by cbv
  have htokens : Loader.tokens headSource.text headDocument = [] := by rfl
  rw [Source.ofDocument_eq "a.js" hload htree, htokens]
  rfl

theorem references_head : (ofSource headSource).scopes.references =
    #[⟨12, 1, some 2, .read, false⟩, ⟨6, 2, none, .read, false⟩, ⟨4, 2, some 1, .read, false⟩] := by
  cbv

theorem separatesHeads_ofSource_head :
    Source.ofDocument "a.js" headSource.text headDocument = .ok headSource ∧
    (ofSource headSource).scopes.SeparatesHeads headSource.tree ∧
    headSource.tree.kind 7 = .switchStatement 6 [5] ∧
    (ofSource headSource).scopes.Hides headSource.tree 6 [5] ∧
    (ofSource headSource).scopes.scopeOf 16 = 1 ∧ (ofSource headSource).scopes.scopeOf 3 = 3 :=
  have hseparates := separatesHeads_ofSource ofDocument_head
  ⟨ofDocument_head, hseparates, rfl, hseparates.discriminant 7 6 [5] rfl, by cbv, by cbv⟩

theorem parameter_sees_body :
    Source.ofDocument "a.js" headSource.text headDocument = .ok headSource ∧
    (headSource.tree.kind 16).fn? = some ⟨some 15, [14], 11, false, false⟩ ∧
      ∃ r ∈ (ofSource headSource).scopes.references,
        headSource.tree.isWithin r.identifier 14 = true ∧
        ∃ v var, r.resolved = some v ∧ (ofSource headSource).scopes.varAt? v = some var ∧
          ∀ id ∈ var.identifiers, headSource.tree.isWithin id 11 = true := by
  have hb : (ofSource headSource).scopes.varAt? 2 =
      some ⟨"b", 1, .letBinding, [8], [9], [0]⟩ := by
    cbv
  refine ⟨ofDocument_head, rfl, ⟨12, 1, some 2, .read, false⟩, ?_, by decide +kernel, 2, _, rfl, hb,
    ?_⟩
  · rw [references_head]
    simp
  · intro id hid
    rw [List.mem_singleton.1 hid]
    decide +kernel

end SourceFile

end ScriptLint
