import ScriptLint.Proofs.InnermostScopes
import ScriptLint.SourceFile

/-! Names that head a qualified name, a type or a JSX tag. Such a name is the child that comes first
in the source; it is taken for a reference only if it is also the child that is read first. -/
namespace ScriptLint

namespace Tree

def isReadFirst (t : Tree) (id : NodeId) : Bool :=
  (t.parent? id).any fun parent => (t.kind parent).inReadingOrder.head? == some id

/-- Whether an identifier or JSX name can name a variable. A JSX name does if it begins with a
capital, or as part of a dotted name. -/
def namesVariable (t : Tree) (id : NodeId) : Bool :=
  match t.kind id with
  | .identifier .. => true
  | .jsxIdentifier name => name.toList.head?.any Unicode.isUppercase ||
      (t.parent? id).any fun parent => (t.kind parent).typeName == "JSXMemberExpression"
  | _ => false

/-- The name at the beginning of a tag, also where it is dotted. -/
inductive BeginsWith (t : Tree) : NodeId → NodeId → Prop
  | name {tag id : NodeId} (h : (t.childrenOf tag).head? = some id) : BeginsWith t tag id
  | dotted {tag dotted id : NodeId} (h : (t.childrenOf tag).head? = some dotted)
      (hdotted : (t.kind dotted).typeName = "JSXMemberExpression")
      (hrest : BeginsWith t dotted id) : BeginsWith t tag id

theorem other_of_typeName_mem {kind : NodeKind NodeId} (h : kind.typeName ∈ qualifierParents) :
    ∃ typeName parts, kind = .other typeName parts := by
  cases kind <;> first | exact ⟨_, _, rfl⟩ | (revert h; simp [NodeKind.typeName, qualifierParents])

theorem not_mem_referenceParents {typeName : String} (h : typeName ∈ qualifierParents) :
    typeName ∉ referenceParents := by
  revert typeName
  decide

theorem jsxName?_of_namesVariable {t : Tree} {id : NodeId} (h : t.namesVariable id = true) :
    t.jsxName? id = none ∨ ∃ name, t.jsxName? id = some name ∧
      (name.toList.head?.any Unicode.isUppercase = true ∨
        ∃ p, t.parent? id = some p ∧ (t.kind p).typeName = "JSXMemberExpression") := by
  unfold namesVariable at h
  unfold jsxName?
  split at h
  · rename_i hid
    rw [hid]
    exact .inl rfl
  · rename_i name hid
    rw [hid]
    rw [Bool.or_eq_true] at h
    refine .inr ⟨name, rfl, h.imp_right fun hdotted => ?_⟩
    simpa [Option.any_eq_true] using hdotted
  · simp at h

theorem role_qualifier {t : Tree} {p id : NodeId} (hp : t.parent? id = some p)
    (htype : (t.kind p).typeName ∈ qualifierParents) (hname : t.namesVariable id = true) :
    t.role id = if t.isReadFirst id then .reference .read else .none := by
  obtain ⟨typeName, parts, hk⟩ := other_of_typeName_mem htype
  rw [hk, NodeKind.typeName] at htype
  have hnot := not_mem_referenceParents htype
  simp only [role, hp, hk, roleInOther, isReadFirst, Option.any_some,
    NodeKind.inReadingOrder_other]
  rcases jsxName?_of_namesVariable hname with hjsx | ⟨name, hjsx, hupper | ⟨q, hq, hdotted⟩⟩
  · simp [hjsx, hnot, htype]
  · simp [hjsx, hnot, htype, hupper]
  · rw [hp, Option.some.injEq] at hq
    rw [← hq, hk, NodeKind.typeName] at hdotted
    subst hdotted
    simp [hjsx, hnot, htype]

theorem scopeKind?_of_namesVariable {t : Tree} {id : NodeId} (h : t.namesVariable id = true) :
    t.scopeKind? id = none := by
  unfold namesVariable at h
  unfold scopeKind?
  split at h
  · rename_i hid
    rw [hid]
  · rename_i hid
    rw [hid]
  · simp at h

theorem scopeKind?_of_other {t : Tree} {id : NodeId} {typeName : String} {parts : List NodeId}
    (h : t.kind id = .other typeName parts) : t.scopeKind? id = none := by
  unfold scopeKind?
  rw [h]

theorem usedName?_of_namesVariable {t : Tree} {id : NodeId} (h : t.namesVariable id = true) :
    ∃ name, ScopeGraph.usedName? t id = some name := by
  unfold namesVariable at h
  split at h
  · rename_i hid
    exact ⟨_, by simp only [ScopeGraph.usedName?, hid]; rfl⟩
  · rename_i hid
    exact ⟨_, by simp only [ScopeGraph.usedName?, hid]; rfl⟩
  · simp at h

theorem WellLinked.parent?_of_head? {t : Tree} (h : t.WellLinked) {p id : NodeId}
    (hid : (t.childrenOf p).head? = some id) : t.parent? id = some p :=
  (h.parent?_iff id p).2 (List.mem_of_head? hid)

theorem BeginsWith.parent {t : Tree} (h : t.WellLinked) {tag id : NodeId}
    (hbegin : t.BeginsWith tag id) (htag : (t.kind tag).typeName ∈ qualifierParents) :
    ∃ p, t.parent? id = some p ∧ (t.kind p).typeName ∈ qualifierParents := by
  induction hbegin with
  | @name tag id hid => exact ⟨tag, h.parent?_of_head? hid, htag⟩
  | dotted hd hdotted hrest ih => exact ih (by rw [hdotted]; decide)

theorem BeginsWith.scopeOf {t : Tree} (h : t.WellLinked) {tag id : NodeId}
    (hbegin : t.BeginsWith tag id) (hname : t.namesVariable id = true) :
    (ScopeGraph.ofTree t).scopeOf id = (ScopeGraph.ofTree t).scopeOf tag := by
  induction hbegin with
  | name hid =>
    exact ScopeGraph.scopeOf_ofTree h (List.mem_of_head? hid) (scopeKind?_of_namesVariable hname)
  | dotted hd hdotted hrest ih =>
    have htype := other_of_typeName_mem (by rw [hdotted]; decide)
    obtain ⟨_, _, hk⟩ := htype
    rw [ih hname]
    exact ScopeGraph.scopeOf_ofTree h (List.mem_of_head? hd) (scopeKind?_of_other hk)

end Tree

namespace ScopeGraph

theorem referenceAt?_of_role_eq_reference {t : Tree} {id : NodeId} {name : String}
    {access : Access} (hid : id ∈ t.preorder) (hname : usedName? t id = some name)
    (hrole : t.role id = .reference access) :
    (ofTree t).referenceAt? id = some ⟨id, (ofTree t).scopeOf id,
      (ofTree t).resolve? ((ofTree t).scopeOf id) name, access, false⟩ := by
  obtain ⟨r, hr, hrid⟩ := (collected_ofTree t).complete id hid name access hname hrole
  cases hfind : (ofTree t).referenceAt? id with
  | none =>
    have := Array.find?_eq_none.1 hfind r hr
    simp [hrid] at this
  | some r' =>
    have hid' : r'.identifier = id := by simpa using Array.find?_some hfind
    cases recorded_ofTree (Array.mem_of_find?_eq_some hfind) with
    | use hname' hrole' =>
      simp only at hid'
      subst hid'
      rw [hname', Option.some.injEq] at hname
      rw [hrole', Role.reference.injEq] at hrole
      rw [hname, hrole]
    | init hname' hrole' hinit =>
      simp only at hid'
      subst hid'
      rw [hrole'] at hrole
      simp at hrole

theorem referenceAt?_of_role_eq_none {t : Tree} {id : NodeId} (hrole : t.role id = .none) :
    (ofTree t).referenceAt? id = none := by
  cases hfind : (ofTree t).referenceAt? id with
  | none => rfl
  | some r =>
    have hid : r.identifier = id := by simpa using Array.find?_some hfind
    cases recorded_ofTree (Array.mem_of_find?_eq_some hfind) with
    | use hname hrole' =>
      simp only at hid
      subst hid
      rw [hrole'] at hrole
      simp at hrole
    | init hname hrole' hinit =>
      simp only at hid
      subst hid
      rw [hrole'] at hrole
      simp at hrole

end ScopeGraph

namespace SourceFile

open ScopeGraph ScriptLint.Tree

theorem referenceAt?_qualifier {t : Tree} (h : t.WellLinked) {p id : Nat} {name : String}
    (hp : t.parent? id = some p) (htype : (t.kind p).typeName ∈ qualifierParents)
    (hname : t.namesVariable id = true) (hused : usedName? t id = some name) :
    (ofTree t).referenceAt? id = if t.isReadFirst id then
      some ⟨id, (ofTree t).scopeOf id, (ofTree t).resolve? ((ofTree t).scopeOf id) name, .read,
        false⟩
      else none := by
  have hchild := (h.parent?_iff id p).1 hp
  have hvisited : id ∈ t.preorder := by
    have hlt := h.below p id hchild
    have hsize := h.lt_size hchild
    exact h.mem_preorder.2 (by omega)
  have hrole := role_qualifier hp htype hname
  split
  · rename_i hfirst
    rw [if_pos hfirst] at hrole
    exact referenceAt?_of_role_eq_reference hvisited hused hrole
  · rename_i hfirst
    rw [if_neg hfirst] at hrole
    exact referenceAt?_of_role_eq_none hrole

/-- The first child in the source order of a qualified name, a type or a tag is recorded as read
exactly if it is read first; and the names of two tags of one element are treated alike exactly if
both or none of them are read first. -/
theorem referenceAt?_qualifier_iff (path : String) (text : Text) (doc : Json) (s : Source)
    (h : Source.ofDocument path text doc = .ok s) :
    (∀ p id, (s.tree.kind p).typeName ∈ qualifierParents →
      (s.tree.childrenOf p).head? = some id → s.tree.namesVariable id = true →
      ((∃ r, (ofSource s).scopes.referenceAt? id = some r ∧ r.access = .read ∧ r.init = false) ↔
        s.tree.isReadFirst id = true)) ∧
    ∀ element opening closing a b,
      opening ∈ s.tree.childrenOf element → closing ∈ s.tree.childrenOf element →
      (s.tree.kind opening).typeName = "JSXOpeningElement" →
      (s.tree.kind closing).typeName = "JSXClosingElement" →
      s.tree.BeginsWith opening a → s.tree.BeginsWith closing b →
      s.tree.namesVariable a = true → s.tree.namesVariable b = true →
      usedName? s.tree a = usedName? s.tree b →
      (s.tree.role a = s.tree.role b ∧
        ((ofSource s).scopes.referenceAt? a).map Reference.resolved =
          ((ofSource s).scopes.referenceAt? b).map Reference.resolved ↔
        s.tree.isReadFirst a = s.tree.isReadFirst b) := by
  have hlinked := Source.wellLinked_of_ofDocument h
  simp only [ofSource]
  refine ⟨?_, ?_⟩
  · intro p id htype hid hname
    obtain ⟨name, hused⟩ := usedName?_of_namesVariable hname
    rw [referenceAt?_qualifier hlinked (hlinked.parent?_of_head? hid) htype hname hused]
    cases s.tree.isReadFirst id <;> simp
  · intro element opening closing a b hopening hclosing htype htype' ha hb hname hname' hsame
    obtain ⟨name, hused⟩ := usedName?_of_namesVariable hname
    have hother {tag : NodeId} (htag : (s.tree.kind tag).typeName ∈ qualifierParents) :
        s.tree.scopeKind? tag = none := by
      obtain ⟨_, _, hk⟩ := other_of_typeName_mem htag
      exact scopeKind?_of_other hk
    have htag : (s.tree.kind opening).typeName ∈ qualifierParents := by rw [htype]; decide
    have htag' : (s.tree.kind closing).typeName ∈ qualifierParents := by rw [htype']; decide
    obtain ⟨p, hp, hptype⟩ := ha.parent hlinked htag
    obtain ⟨q, hq, hqtype⟩ := hb.parent hlinked htag'
    have hscope : (ofTree s.tree).scopeOf a = (ofTree s.tree).scopeOf b := by
      rw [ha.scopeOf hlinked hname, hb.scopeOf hlinked hname',
        scopeOf_ofTree hlinked hopening (hother htag),
        scopeOf_ofTree hlinked hclosing (hother htag')]
    rw [role_qualifier hp hptype hname, role_qualifier hq hqtype hname',
      referenceAt?_qualifier hlinked hp hptype hname hused,
      referenceAt?_qualifier hlinked hq hqtype hname' (hsame ▸ hused), hscope]
    cases s.tree.isReadFirst a <;> cases s.tree.isReadFirst b <;> simp

/-- Syntax of `<Foo a></Foo>`. In the document of the opening tag the attributes come before the
name. -/
def attributeDocument : Json := .obj [
  ("body", .arr [.obj [
    ("expression", .obj [
      ("children", .arr []),
      ("closingElement", .obj [
        ("name", .obj [("name", .str "Foo"), ("range", .arr [.nat 9, .nat 12]),
          ("type", .str "JSXIdentifier")]),
        ("range", .arr [.nat 7, .nat 13]), ("type", .str "JSXClosingElement")]),
      ("openingElement", .obj [
        ("attributes", .arr [.obj [
          ("name", .obj [("name", .str "a"), ("range", .arr [.nat 5, .nat 6]),
            ("type", .str "JSXIdentifier")]),
          ("range", .arr [.nat 5, .nat 6]), ("type", .str "JSXAttribute"), ("value", .null)]]),
        ("name", .obj [("name", .str "Foo"), ("range", .arr [.nat 1, .nat 4]),
          ("type", .str "JSXIdentifier")]),
        ("range", .arr [.nat 0, .nat 7]), ("type", .str "JSXOpeningElement")]),
      ("range", .arr [.nat 0, .nat 13]), ("type", .str "JSXElement")]),
    ("range", .arr [.nat 0, .nat 13]), ("type", .str "ExpressionStatement")]]),
  ("sourceType", .str "script"), ("type", .str "Program")]

def attributeSource : Source where
  path := "a.jsx"
  text := "<Foo a></Foo>".toList
  tree :=
    { nodes := #[
        ⟨.jsxIdentifier "Foo", ⟨1, 4⟩⟩,
        ⟨.jsxIdentifier "a", ⟨5, 6⟩⟩,
        ⟨.other "JSXAttribute" [1], ⟨5, 6⟩⟩,
        ⟨.other "JSXOpeningElement" [2, 0], ⟨0, 7⟩⟩,
        ⟨.jsxIdentifier "Foo", ⟨9, 12⟩⟩,
        ⟨.other "JSXClosingElement" [4], ⟨7, 13⟩⟩,
        ⟨.other "JSXElement" [5, 3], ⟨0, 13⟩⟩,
        ⟨.expressionStatement 6 none, ⟨0, 13⟩⟩,
        ⟨.program [7] .script, ⟨0, 13⟩⟩]
      children := #[[], [], [1], [0, 2], [], [4], [3, 5], [6], [7]]
      parents := #[some 3, some 2, some 3, some 6, some 5, some 6, some 7, some 8, none]
      root := 8 }
  tokens := TokenIndex.ofList []

theorem ofDocument_attribute :
    Source.ofDocument "a.jsx" attributeSource.text attributeDocument = .ok attributeSource := by
  have hload : Loader.load attributeSource.text attributeDocument =
      .ok attributeSource.tree.nodes := by decide +kernel
  have htree : Tree.ofNodes attributeSource.tree.nodes 8 = .ok attributeSource.tree := by cbv
  have htokens : Loader.tokens attributeSource.text attributeDocument = [] := by rfl
  rw [Source.ofDocument_eq "a.jsx" hload htree, htokens]
  rfl

theorem referenceAt?_qualifier_closing :
    Source.ofDocument "a.jsx" attributeSource.text attributeDocument = .ok attributeSource ∧
    (attributeSource.tree.kind 5).typeName ∈ qualifierParents ∧
    (attributeSource.tree.childrenOf 5).head? = some 4 ∧
    attributeSource.tree.namesVariable 4 = true ∧
    ∃ r, (ofSource attributeSource).scopes.referenceAt? 4 = some r ∧ r.access = .read ∧
      r.init = false := by
  have htype : (attributeSource.tree.kind 5).typeName ∈ qualifierParents := by decide
  have hhead : (attributeSource.tree.childrenOf 5).head? = some 4 := rfl
  have hname : attributeSource.tree.namesVariable 4 = true := by decide
  have hfirst : attributeSource.tree.isReadFirst 4 = true := by decide
  refine ⟨ofDocument_attribute, htype, hhead, hname, ?_⟩
  exact ((referenceAt?_qualifier_iff _ _ _ _ ofDocument_attribute).1 5 4 htype hhead hname).2 hfirst

theorem referenceAt?_opening_eq_none :
    Source.ofDocument "a.jsx" attributeSource.text attributeDocument = .ok attributeSource ∧
    (attributeSource.tree.kind 3).typeName = "JSXOpeningElement" ∧
    (attributeSource.tree.childrenOf 3).head? = some 0 ∧
    attributeSource.tree.namesVariable 0 = true ∧
    (ofSource attributeSource).scopes.referenceAt? 0 = none ∧
    attributeSource.tree.role 0 ≠ attributeSource.tree.role 4 := by
  have hopening : attributeSource.tree.role 0 = .none := by decide
  have hclosing : attributeSource.tree.role 4 = .reference .read := by
    decide
  refine ⟨ofDocument_attribute, rfl, rfl, by decide, referenceAt?_of_role_eq_none hopening, ?_⟩
  rw [hopening, hclosing]
  simp

end SourceFile

end ScriptLint
