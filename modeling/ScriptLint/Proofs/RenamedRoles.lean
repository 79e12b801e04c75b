import ScriptLint.Proofs.CaptureFree
import ScriptLint.Proofs.LoaderRun

/-! Roles of identifiers after a rename. The role of an identifier follows from the nodes above it,
which a rename leaves alone, with one exception: whether a JSX name is a component is read off its
first letter. -/
namespace ScriptLint

/-- The same node with another name, if it is one that has a name in the source. -/
def NodeKind.withName {α : Type} (new : String) : NodeKind α → NodeKind α
  | .identifier _ typeAnn optional => .identifier new typeAnn optional
  | .jsxIdentifier _ => .jsxIdentifier new
  | kind => kind

def NodeKind.isName {α : Type} : NodeKind α → Bool
  | .identifier .. | .jsxIdentifier _ => true
  | _ => false

theorem NodeKind.withName_of_not_isName {α : Type} (new : String) {kind : NodeKind α}
    (h : kind.isName = false) : kind.withName new = kind := by
  cases kind <;> first | rfl | simp [isName] at h

theorem NodeKind.isName_cases {α : Type} {kind : NodeKind α} (h : kind.isName = true) :
    (∃ name typeAnn optional, kind = .identifier name typeAnn optional) ∨
      ∃ name, kind = .jsxIdentifier name := by
  cases kind <;> simp [isName] at h ⊢

@[simp] theorem NodeKind.isName_withName {α : Type} (new : String) (kind : NodeKind α) :
    (kind.withName new).isName = kind.isName := by
  cases kind <;> rfl

namespace Tree

def respell (t : Tree) (ids : List NodeId) (new : String) : Tree :=
  { t with nodes := t.nodes.mapIdx fun id node =>
      if id ∈ ids then { node with kind := node.kind.withName new } else node }

variable (t : Tree) (ids : List NodeId) (new : String)

@[simp] theorem parent?_respell (id : NodeId) : (t.respell ids new).parent? id = t.parent? id := rfl

@[simp] theorem size_respell : (t.respell ids new).size = t.size := by simp [respell, size]

theorem kind_respell (id : NodeId) :
    (t.respell ids new).kind id = if id ∈ ids then (t.kind id).withName new else t.kind id := by
  simp only [kind, node, respell, Array.getElem?_mapIdx]
  cases t.nodes[id]? with
  | none => simp [Node.missing, NodeKind.withName]
  | some n => by_cases h : id ∈ ids <;> simp [h]

theorem kind_respell_cases (id : NodeId) :
    (t.respell ids new).kind id = t.kind id ∨
      (t.kind id).isName = true ∧ ((t.respell ids new).kind id).isName = true := by
  rw [kind_respell]
  cases h : (t.kind id).isName with
  | false =>
    rw [NodeKind.withName_of_not_isName new h]
    simp
  | true => split <;> simp [h]

theorem patternRole_respell (identifier : NodeId) (fuel : Nat) (current : NodeId) :
    (t.respell ids new).patternRole identifier fuel current =
      t.patternRole identifier fuel current := by
  induction fuel generalizing current with
  | zero => rfl
  | succ fuel ih =>
    simp only [patternRole, parent?_respell, ih]
    cases t.parent? current with
    | none => rfl
    | some parent =>
      dsimp only
      rcases t.kind_respell_cases ids new parent with h | ⟨h, h'⟩
      · rw [h]
        cases t.kind parent with
        | property value key kind computed method =>
          cases hp : t.parent? parent with
          | none => rfl
          | some owner =>
            rcases t.kind_respell_cases ids new owner with ho | ⟨ho, ho'⟩
            · simp only [Option.map_some, ho]
            · obtain ⟨_, _, _, hk⟩ | ⟨_, hk⟩ := NodeKind.isName_cases ho <;>
                obtain ⟨_, _, _, hk'⟩ | ⟨_, hk'⟩ := NodeKind.isName_cases ho' <;>
                simp only [Option.map_some, hk, hk']
        | _ => rfl
      · obtain ⟨_, _, _, hk⟩ | ⟨_, hk⟩ := NodeKind.isName_cases h <;>
          obtain ⟨_, _, _, hk'⟩ | ⟨_, hk'⟩ := NodeKind.isName_cases h' <;>
          simp only [hk, hk']

theorem jsxName?_respell (id : NodeId) :
    (t.respell ids new).jsxName? id =
      if id ∈ ids then (t.jsxName? id).map fun _ => new else t.jsxName? id := by
  by_cases h : id ∈ ids
  · simp only [jsxName?, kind_respell, if_pos h]
    cases t.kind id <;> rfl
  · simp only [jsxName?, kind_respell, if_neg h]

theorem plainRole_respell (id : NodeId) : (t.respell ids new).plainRole id = t.plainRole id := by
  have hjsx : ((t.respell ids new).jsxName? id).isSome = (t.jsxName? id).isSome := by
    rw [jsxName?_respell]
    split <;> simp
  rw [plainRole, plainRole, hjsx, patternRole_respell, size_respell]

/-- Whether an identifier is a JSX name that stands for an element, and not the first part of a
dotted name. -/
def isElementName (id : NodeId) : Bool :=
  (t.jsxName? id).isSome && (t.parent? id).any fun parent =>
    match t.kind parent with
    | .other typeName _ => typeName != "JSXMemberExpression"
    | _ => false

theorem isSome_jsxName?_of_isElementName {id : NodeId} (h : t.isElementName id = true) :
    (t.jsxName? id).isSome := by
  simp only [isElementName, Bool.and_eq_true] at h
  exact h.1

theorem roleInOther_respell (id : NodeId) (typeName : String) (children : List NodeId)
    (h : id ∈ ids → t.jsxName? id = none ∨ typeName = "JSXMemberExpression") :
    (t.respell ids new).roleInOther id typeName children = t.roleInOther id typeName children := by
  unfold roleInOther
  rw [jsxName?_respell]
  by_cases hid : id ∈ ids
  · rw [if_pos hid]
    rcases h hid with hnone | rfl
    · rw [hnone]
      rfl
    · cases t.jsxName? id <;> simp
  · rw [if_neg hid]

theorem role_respell (id : NodeId) (h : id ∈ ids → t.isElementName id = false) :
    (t.respell ids new).role id = t.role id := by
  simp only [role, parent?_respell, plainRole_respell]
  cases hp : t.parent? id with
  | none => rfl
  | some parent =>
    dsimp only
    rcases t.kind_respell_cases ids new parent with hk | ⟨hk, hk'⟩
    · rw [hk]
      cases hparent : t.kind parent with
      | exportSpecifier binding renamed =>
        rcases Option.eq_none_or_eq_some (t.parent? parent) with howner | ⟨owner, howner⟩
        · simp only [howner, Option.map_none]
        · rcases t.kind_respell_cases ids new owner with ho | ⟨ho, ho'⟩
          · simp only [howner, Option.map_some, ho]
          · obtain ⟨_, _, _, hk⟩ | ⟨_, hk⟩ := NodeKind.isName_cases ho <;>
              obtain ⟨_, _, _, hk'⟩ | ⟨_, hk'⟩ := NodeKind.isName_cases ho' <;>
              simp only [howner, Option.map_some, hk, hk']
      | other typeName children =>
        dsimp only
        refine t.roleInOther_respell ids new id typeName children fun hid => ?_
        have := h hid
        simp only [isElementName, hp, Option.any_some, hparent, Bool.and_eq_false_iff,
          Option.isSome_eq_false_iff, Option.isNone_iff_eq_none, bne_eq_false_iff_eq] at this
        exact this
      | _ => rfl
    · obtain ⟨_, _, _, hk⟩ | ⟨_, hk⟩ := NodeKind.isName_cases hk <;>
        obtain ⟨_, _, _, hk'⟩ | ⟨_, hk'⟩ := NodeKind.isName_cases hk' <;>
        simp only [hk, hk']

theorem role_respell_elementName {id : NodeId} {access : Access} (hid : id ∈ ids)
    (helement : t.isElementName id = true) (hrole : t.role id = .reference access) :
    (t.respell ids new).role id = t.role id ↔ new.toList.head?.any Unicode.isUppercase = true := by
  simp only [isElementName, Bool.and_eq_true] at helement
  obtain ⟨name, hname⟩ := Option.isSome_iff_exists.1 helement.1
  obtain ⟨parent, hp, hother⟩ := (Option.any_eq_true _ _).1 helement.2
  split at hother
  · rename_i typeName children hk
    have hk' : (t.respell ids new).kind parent = .other typeName children := by
      rw [kind_respell, hk]
      simp [NodeKind.withName]
    rw [hrole]
    simp only [role, parent?_respell, hp, hk, hk', roleInOther, jsxName?_respell, hid, hname,
      ↓reduceIte, Option.map_some, hother, Bool.and_true] at hrole ⊢
    split at hrole
    · rename_i h
      simp only [Bool.and_eq_true] at h
      rw [h.1, ← hrole]
      cases new.toList.head?.any Unicode.isUppercase <;> simp
    · simp at hrole
  · simp at hother

end Tree

namespace SourceFile

open ScopeGraph

theorem mem_occurrences {f : SourceFile} {v : VariableId} {target : Variable} {id : NodeId} :
    id ∈ f.occurrences v target ↔
      id ∈ target.identifiers ∨ ∃ r ∈ f.scopes.referencesOf v, r.identifier = id := by
  rw [occurrences, distinct, Tree.mem_dedupNeighbours, List.mem_mergeSort, List.mem_append,
    List.mem_map]

theorem jsxName?_eq_none_of_identifierName? {t : Tree} {id : NodeId}
    (h : (t.identifierName? id).isSome) : t.jsxName? id = none := by
  unfold Tree.identifierName? at h
  unfold Tree.jsxName?
  split at h
  · rename_i hk
    rw [hk]
  · simp at h

theorem role_of_mem_occurrences {s : Source} {v : VariableId} {target : Variable}
    (hv : (ofSource s).scopes.varAt? v = some target) {id : NodeId}
    (hid : id ∈ (ofSource s).occurrences v target) (hjsx : (s.tree.jsxName? id).isSome) :
    ∃ access, s.tree.role id = .reference access := by
  rcases mem_occurrences.1 hid with hdecl | ⟨r, hr, rfl⟩
  · have hname := identifierName?_of_mem_identifiers hv hdecl
    rw [jsxName?_eq_none_of_identifierName? (by simp [hname])] at hjsx
    simp at hjsx
  · cases recorded_ofTree (mem_referencesOf_ofTree.1 hr).1 with
    | use hname hrole => exact ⟨_, hrole⟩
    | init hname hrole hinit =>
      have hident := (Declaring.invariant_run s.tree).initialized _ hinit
      rw [jsxName?_eq_none_of_identifierName? hident] at hjsx
      simp at hjsx

theorem role_respell_iff {s : Source} {v : VariableId} {target : Variable} (new : String)
    (hv : (ofSource s).scopes.varAt? v = some target) :
    (∀ id, (usedName? s.tree id).isSome →
      (s.tree.respell ((ofSource s).occurrences v target) new).role id = s.tree.role id) ↔
    (new.toList.head?.any Unicode.isUppercase = true ∨
      ∀ id ∈ (ofSource s).occurrences v target, s.tree.isElementName id = false) := by
  constructor
  · intro hkeep
    by_cases hall : ∀ id ∈ (ofSource s).occurrences v target, s.tree.isElementName id = false
    · exact .inr hall
    · simp only [not_forall, Bool.not_eq_false] at hall
      obtain ⟨id, hid, helement⟩ := hall
      have hjsx := s.tree.isSome_jsxName?_of_isElementName helement
      obtain ⟨access, hrole⟩ := role_of_mem_occurrences hv hid hjsx
      refine .inl ((s.tree.role_respell_elementName _ new hid helement hrole).1 (hkeep id ?_))
      simp only [Tree.jsxName?] at hjsx
      split at hjsx
      · rename_i hk
        simp [usedName?, hk]
      · simp at hjsx
  · rintro hnew id -
    by_cases hid : id ∈ (ofSource s).occurrences v target ∧ s.tree.isElementName id = true
    · rcases hnew with hupper | hnone
      · have hjsx := s.tree.isSome_jsxName?_of_isElementName hid.2
        obtain ⟨access, hrole⟩ := role_of_mem_occurrences hv hid.1 hjsx
        exact (s.tree.role_respell_elementName _ new hid.1 hid.2 hrole).2 hupper
      · rw [hnone id hid.1] at hid
        simp at hid
    · refine s.tree.role_respell _ new id fun hmem => ?_
      simpa [hmem] using hid

/-- A rename that is not declined keeps the role of every identifier exactly if the new name begins
with a capital or the variable is nowhere the name of a JSX element. -/
theorem role_respell_iff_of_rename? (s : Source) (v : VariableId) (new : String) (patch : Patch)
    (h : (ofSource s).rename? v new = some patch) :
    ∃ target, (ofSource s).scopes.varAt? v = some target ∧
      ((∀ id, (usedName? s.tree id).isSome →
        (s.tree.respell ((ofSource s).occurrences v target) new).role id = s.tree.role id) ↔
      (new.toList.head?.any Unicode.isUppercase = true ∨
        ∀ id ∈ (ofSource s).occurrences v target, s.tree.isElementName id = false)) := by
  rw [rename?] at h
  obtain ⟨target, hv, -⟩ := Option.bind_eq_some_iff.1 h
  exact ⟨target, hv, role_respell_iff new hv⟩

def componentDocument : Json := .obj [
  ("body", .arr [
    .obj [
      ("range", .arr [.nat 0, .nat 20]),
      ("source", .obj [("range", .arr [.nat 16, .nat 19]), ("raw", .str "'m'"),
        ("type", .str "Literal"), ("value", .str "m")]),
      ("specifiers", .arr [.obj [
        ("local", .obj [("name", .str "Foo"), ("range", .arr [.nat 7, .nat 10]),
          ("type", .str "Identifier")]),
        ("range", .arr [.nat 7, .nat 10]), ("type", .str "ImportDefaultSpecifier")]]),
      ("type", .str "ImportDeclaration")],
    .obj [
      ("expression", .obj [
        ("openingElement", .obj [
          ("attributes", .arr []),
          ("name", .obj [("name", .str "Foo"), ("range", .arr [.nat 22, .nat 25]),
            ("type", .str "JSXIdentifier")]),
          ("range", .arr [.nat 21, .nat 27]), ("type", .str "JSXOpeningElement")]),
        ("range", .arr [.nat 21, .nat 27]), ("type", .str "JSXElement")]),
      ("range", .arr [.nat 21, .nat 28]), ("type", .str "ExpressionStatement")]]),
  ("sourceType", .str "module"), ("type", .str "Program")]

def componentSource : Source where
  path := "a.jsx"
  text := "import Foo from 'm';\n<Foo/>;".toList
  tree :=
    { nodes := #[
        ⟨.jsxIdentifier "Foo", ⟨22, 25⟩⟩,
        ⟨.other "JSXOpeningElement" [0], ⟨21, 27⟩⟩,
        ⟨.other "JSXElement" [1], ⟨21, 27⟩⟩,
        ⟨.expressionStatement 2 none, ⟨21, 28⟩⟩,
        ⟨.literal (.string "m") "'m'", ⟨16, 19⟩⟩,
        ⟨.identifier "Foo" none false, ⟨7, 10⟩⟩,
        ⟨.importDefaultSpecifier 5, ⟨7, 10⟩⟩,
        ⟨.importDeclaration [6] 4, ⟨0, 20⟩⟩,
        ⟨.program [7, 3] .esModule, ⟨0, 28⟩⟩]
      children := #[[], [0], [1], [2], [], [], [5], [6, 4], [7, 3]]
      parents := #[some 1, some 2, some 3, some 8, some 7, some 6, some 7, some 8, none]
      root := 8 }
  tokens := TokenIndex.ofList []

theorem ofDocument_component :
    Source.ofDocument "a.jsx" componentSource.text componentDocument = .ok componentSource := by
  have hload : Loader.load componentSource.text componentDocument =
      .ok componentSource.tree.nodes := by decide +kernel
  have htree : Tree.ofNodes componentSource.tree.nodes 8 = .ok componentSource.tree := by cbv
  have htokens : Loader.tokens componentSource.text componentDocument = [] := by rfl
  rw [Source.ofDocument_eq "a.jsx" hload htree, htokens]
  rfl

theorem role_respell_iff_component :
    (ofSource componentSource).rename? 0 "Bar" =
      some ⟨[⟨⟨7, 10⟩, "Bar"⟩, ⟨⟨22, 25⟩, "Bar"⟩]⟩ ∧
    ∃ target, (ofSource componentSource).scopes.varAt? 0 = some target ∧
      ((∀ id, (usedName? componentSource.tree id).isSome →
        (componentSource.tree.respell ((ofSource componentSource).occurrences 0 target) "Bar").role
          id = componentSource.tree.role id) ↔
      ("Bar".toList.head?.any Unicode.isUppercase = true ∨
        ∀ id ∈ (ofSource componentSource).occurrences 0 target,
          componentSource.tree.isElementName id = false)) := by
  have hrename : (ofSource componentSource).rename? 0 "Bar" =
      some ⟨[⟨⟨7, 10⟩, "Bar"⟩, ⟨⟨22, 25⟩, "Bar"⟩]⟩ := by cbv
  exact ⟨hrename, role_respell_iff_of_rename? componentSource 0 "Bar" _ hrename⟩

theorem role_respell_component_ne :
    Source.ofDocument "a.jsx" componentSource.text componentDocument = .ok componentSource ∧
    (ofSource componentSource).rename? 0 "foo" =
      some ⟨[⟨⟨7, 10⟩, "foo"⟩, ⟨⟨22, 25⟩, "foo"⟩]⟩ ∧
    ∃ target, (ofSource componentSource).scopes.varAt? 0 = some target ∧
      componentSource.tree.role 0 = .reference .read ∧
      (componentSource.tree.respell ((ofSource componentSource).occurrences 0 target) "foo").role 0
        = .none := by
  have hoccurrences : (ofSource componentSource).occurrences 0
      ⟨"Foo", 1, .importBinding, [5], [6], [0]⟩ = [0, 5] := by cbv
  refine ⟨ofDocument_component, by cbv, ⟨"Foo", 1, .importBinding, [5], [6], [0]⟩, by cbv,
    by cbv, ?_⟩
  rw [hoccurrences]
  decide

end SourceFile

end ScriptLint
