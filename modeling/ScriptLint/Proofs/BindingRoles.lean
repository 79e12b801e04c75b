import ScriptLint.Proofs.BoundIdentifiers
import ScriptLint.Proofs.RenamedRoles

/-! An identifier has the role of a binding if it is declared. The role is found by climbing from
the identifier, the declaration by going down from the node that makes it; in a tree that has the
shape of ESTree the two meet. -/
namespace ScriptLint

namespace Tree

variable {t : Tree}

/-- Where nodes of some types may stand. An import specifier is one of the specifiers of an import,
not its source. -/
structure EsTreeShaped (t : Tree) : Prop where
  property : ∀ (n p value : NodeId) (key : Option NodeId) (kind : PropertyKind)
    (computed method : Bool), t.kind n = .property value key kind computed method →
    t.parent? n = some p →
    (∃ properties, t.kind p = .objectExpression properties) ∨
      ∃ properties, t.kind p = .objectPattern properties
  declarator : ∀ (n p target : NodeId) (init : Option NodeId),
    t.kind n = .variableDeclarator target init → t.parent? n = some p →
    ∃ kind declarations, t.kind p = .variableDeclaration kind declarations
  specifier : ∀ n p id, t.importBinding? n = some id → t.parent? n = some p →
    ∃ specifiers source, t.kind p = .importDeclaration specifiers source ∧ n ∈ specifiers
  arrow : ∀ n fn, t.kind n = .arrowFunction fn → fn.id = none

def BindsChild (t : Tree) (owner child : NodeId) : Prop :=
  match t.kind owner with
  | .variableDeclarator target _ => target = child
  | .catchClause param _ => param = some child
  | .functionDeclaration fn | .functionExpression fn | .arrowFunction fn => child ∈ fn.params
  | _ => False

def NamesChild (t : Tree) (owner child : NodeId) : Prop :=
  match t.kind owner with
  | .importSpecifier .. | .importDefaultSpecifier _ | .importNamespaceSpecifier _ =>
    t.importBinding? owner = some child
  | .functionDeclaration fn | .functionExpression fn | .arrowFunction fn => fn.id = some child
  | .classDeclaration cls | .classExpression cls => cls.id = some child
  | _ => False

def ClimbsToBinding (t : Tree) (current : NodeId) : Prop :=
  ∃ top owner, t.InPattern current top ∧ t.parent? top = some owner ∧ t.BindsChild owner top

theorem climbsToBinding_iff (h : t.WellLinked) {current parent : NodeId}
    (hparent : t.parent? current = some parent) :
    t.ClimbsToBinding current ↔
      t.BindsChild parent current ∨ t.IsPart current parent ∧ t.ClimbsToBinding parent := by
  constructor
  · rintro ⟨top, owner, hclimbs, htop, hbinds⟩
    rcases Relation.ReflTransGen.cases_head hclimbs with rfl | ⟨next, hpart, hclimbs⟩
    · cases hparent.symm.trans htop
      exact .inl hbinds
    · cases hparent.symm.trans (hpart.parent h)
      exact .inr ⟨hpart, top, owner, hclimbs, htop, hbinds⟩
  · rintro (hbinds | ⟨hpart, top, owner, hclimbs, htop, hbinds⟩)
    · exact ⟨current, parent, .refl, hparent, hbinds⟩
    · exact ⟨top, owner, .head hpart hclimbs, htop, hbinds⟩

theorem not_climbsToBinding_of_parent? (h : t.WellLinked) {current : NodeId}
    (hnone : t.parent? current = none) : ¬t.ClimbsToBinding current := by
  rintro ⟨top, owner, hclimbs, htop, -⟩
  rcases Relation.ReflTransGen.cases_head hclimbs with rfl | ⟨next, hpart, -⟩
  · simp [hnone] at htop
  · simp [hpart.parent h] at hnone

def MayClimb (t : Tree) (n : NodeId) : Prop :=
  ∀ value key kind computed method, t.kind n = .property value key kind computed method →
    ∃ p properties, t.parent? n = some p ∧ t.kind p = .objectPattern properties

theorem mayClimb_of_kind {n : NodeId} (hkind : ∀ value key kind computed method,
    t.kind n ≠ .property value key kind computed method) : t.MayClimb n :=
  fun value key kind computed method h => absurd h (hkind value key kind computed method)

theorem mayClimb_iff_of_property {n value : NodeId} {key : Option NodeId} {kind : PropertyKind}
    {computed method : Bool} (hkind : t.kind n = .property value key kind computed method) :
    t.MayClimb n ↔
      ∃ properties, (t.parent? n).map t.kind = some (.objectPattern properties) := by
  simp only [MayClimb, hkind, NodeKind.property.injEq, Option.map_eq_some_iff]
  constructor
  · intro hmay
    obtain ⟨p, properties, hp, hk⟩ := hmay value key kind computed method ⟨rfl, rfl, rfl, rfl, rfl⟩
    exact ⟨properties, p, hp, hk⟩
  · rintro ⟨properties, p, hp, hk⟩ - - - - - -
    exact ⟨p, properties, hp, hk⟩

theorem ClimbsToBinding.mayClimb (h : t.WellLinked) (hshape : t.EsTreeShaped) {n : NodeId}
    (hclimbs : t.ClimbsToBinding n) : t.MayClimb n := by
  intro value key kind computed method hkind
  cases hparent : t.parent? n with
  | none => exact absurd hclimbs (not_climbsToBinding_of_parent? h hparent)
  | some p =>
    rcases hshape.property n p value key kind computed method hkind hparent with
      ⟨properties, hp⟩ | ⟨properties, hp⟩
    · rw [climbsToBinding_iff h hparent] at hclimbs
      simp [BindsChild, IsPart, patternParts, hp] at hclimbs
    · exact ⟨p, properties, rfl, hp⟩

theorem patternRole_succ_eq_binding_iff (h : t.WellLinked) (identifier : NodeId) (fuel : Nat)
    {current parent : NodeId} (hparent : t.parent? current = some parent) :
    t.patternRole identifier (fuel + 1) current = .binding ↔
      t.BindsChild parent current ∨ t.IsPart current parent ∧ t.MayClimb parent ∧
        t.patternRole identifier fuel parent = .binding := by
  have hin := (h.perm parent).subset ((h.parent?_iff current parent).1 hparent)
  rw [patternRole, hparent]
  dsimp only
  cases hkind : t.kind parent with
  | objectPattern properties =>
    have hmay : t.MayClimb parent := mayClimb_of_kind (by simp [hkind])
    rw [hkind, NodeKind.inReadingOrder_objectPattern] at hin
    simp [BindsChild, IsPart, patternParts, hkind, hin, hmay]
  | arrayPattern elements =>
    have hmay : t.MayClimb parent := mayClimb_of_kind (by simp [hkind])
    rw [hkind, NodeKind.inReadingOrder_arrayPattern,
      ← List.filterMap_eq_flatMap_toList] at hin
    have hpart : t.IsPart current parent := by
      simp only [IsPart, patternParts, hkind]
      exact hin
    simp [BindsChild, hkind, hpart, hmay]
  | restElement argument =>
    have hmay : t.MayClimb parent := mayClimb_of_kind (by simp [hkind])
    rw [hkind] at hin
    have hpart : t.IsPart current parent := by
      simp only [IsPart, patternParts, hkind]
      exact hin
    simp [BindsChild, hkind, hpart, hmay]
  | property value key kind computed method =>
    -- Only here the classification looks one node further up before it goes on.
    have hpart : t.IsPart current parent ↔ value = current := by
      simp [IsPart, patternParts, hkind, eq_comm]
    have hbinds : ¬t.BindsChild parent current := by simp [BindsChild, hkind]
    simp only [hbinds, hpart, mayClimb_iff_of_property hkind, false_or]
    split
    · rename_i properties hk
      by_cases hvalue : value = current <;> simp [hvalue, hk]
    · rename_i hk
      refine iff_of_false (by simp) ?_
      rintro ⟨-, ⟨properties, hp⟩, -⟩
      exact hk properties hp
  | assignmentPattern left right =>
    have hmay : t.MayClimb parent := mayClimb_of_kind (by simp [hkind])
    by_cases hleft : left = current
    · simp [BindsChild, IsPart, patternParts, hkind, hleft, hmay]
    · simp [BindsChild, IsPart, patternParts, hkind, hleft, Ne.symm hleft]
  | assignmentExpression operator left right =>
    refine iff_of_false ?_ (by simp [BindsChild, IsPart, patternParts, hkind])
    dsimp only
    split
    · split <;> simp
    · simp
  | forInStatement left right body | forOfStatement left right body isAwait =>
    refine iff_of_false ?_ (by simp [BindsChild, IsPart, patternParts, hkind])
    dsimp only
    split <;> simp
  | updateExpression operator leading argument =>
    refine iff_of_false ?_ (by simp [BindsChild, IsPart, patternParts, hkind])
    dsimp only
    split <;> simp
  | _ => simp [BindsChild, IsPart, patternParts, hkind]

theorem patternRole_eq_binding_iff (h : t.WellLinked) (hshape : t.EsTreeShaped)
    (identifier : NodeId) {fuel : Nat} {current : Nat} (hfuel : t.size ≤ current + fuel)
    (hlt : current < t.size) :
    t.patternRole identifier fuel current = .binding ↔ t.ClimbsToBinding current := by
  induction fuel generalizing current with
  | zero => omega
  | succ fuel ih =>
    cases hparent : t.parent? current with
    | none => simp [patternRole, hparent, not_climbsToBinding_of_parent? h hparent]
    | some parent =>
      have hchild := (h.parent?_iff current parent).1 hparent
      have hbelow := h.below parent current hchild
      rw [patternRole_succ_eq_binding_iff h identifier fuel hparent, climbsToBinding_iff h hparent,
        ih (by omega) (h.lt_size hchild)]
      -- A climb that comes to its end never went through a property outside of patterns.
      exact or_congr_right <| and_congr_right fun _ =>
        and_iff_right_of_imp fun hclimbs => hclimbs.mayClimb h hshape

theorem roleInOther_ne_binding (id : NodeId) (typeName : String) (children : List NodeId) :
    t.roleInOther id typeName children ≠ .binding := by
  unfold roleInOther
  dsimp only
  generalize (_ && !_ : Bool) = reads
  cases reads <;> simp

theorem role_eq_binding_iff (h : t.WellLinked) (hshape : t.EsTreeShaped) {id parent : Nat}
    (hname : (t.identifierName? id).isSome) (hparent : t.parent? id = some parent) :
    t.role id = .binding ↔ t.NamesChild parent id ∨ t.ClimbsToBinding id := by
  have hchild := (h.parent?_iff id parent).1 hparent
  have hjsx := SourceFile.jsxName?_eq_none_of_identifierName? hname
  have hplain : t.plainRole id = .binding ↔ t.ClimbsToBinding id := by
    rw [plainRole, hjsx, Option.isSome_none, if_neg Bool.false_ne_true]
    exact patternRole_eq_binding_iff h hshape id (by omega) (lt_size_of_parent? h hparent)
  have hclimbs := climbsToBinding_iff h hparent
  have hin := (h.perm parent).subset hchild
  rw [role, hparent]
  dsimp only
  cases hkind : t.kind parent with
  | property value key kind computed method =>
    rw [hkind, NodeKind.inReadingOrder_property] at hin
    by_cases hkey : key = some id
    · -- a key is not also the value
      have hne : value ≠ id := by
        have hnodup := nodup_inReadingOrder h parent
        rw [hkind, NodeKind.inReadingOrder_property, hkey] at hnodup
        simpa using hnodup
      have hno : ¬t.ClimbsToBinding id := by
        simp [hclimbs, BindsChild, IsPart, patternParts, hkind, Ne.symm hne]
      dsimp only
      split
      · simp [NamesChild, hkind, hno]
      · simp [NamesChild, hkind, hplain]
    · simp [NamesChild, hkind, hplain, hkey]
  | functionDeclaration fn | functionExpression fn | arrowFunction fn =>
    by_cases hid : fn.id = some id
    · simp [NamesChild, hkind, hid]
    · simp [NamesChild, hkind, hid, hplain]
  | classDeclaration cls | classExpression cls =>
    by_cases hid : cls.id = some id
    · simp [NamesChild, hkind, hid]
    · simp [NamesChild, hkind, hid, hplain]
  | importSpecifier | importDefaultSpecifier | importNamespaceSpecifier =>
    have hno : ¬t.ClimbsToBinding id := by
      simp [hclimbs, BindsChild, IsPart, patternParts, hkind]
    dsimp only
    split <;> simp_all [NamesChild, importBinding?]
  | memberExpression | methodDefinition | propertyDefinition =>
    have hno : ¬t.ClimbsToBinding id := by
      simp [hclimbs, BindsChild, IsPart, patternParts, hkind]
    refine iff_of_false ?_ (by simp [NamesChild, hkind, hno])
    dsimp only
    split <;> simp [hplain, hno]
  | exportSpecifier =>
    have hno : ¬t.ClimbsToBinding id := by
      simp [hclimbs, BindsChild, IsPart, patternParts, hkind]
    refine iff_of_false ?_ (by simp [NamesChild, hkind, hno])
    dsimp only
    split <;> split <;> simp
  | labeledStatement | breakStatement | continueStatement | metaProperty | exportAllDeclaration =>
    simp [NamesChild, hclimbs, BindsChild, IsPart, patternParts, hkind]
  | other typeName children =>
    refine iff_of_false (roleInOther_ne_binding id typeName children) ?_
    simp [NamesChild, hclimbs, BindsChild, IsPart, patternParts, hkind]
  | _ => simp [NamesChild, hkind, hplain]

theorem namesChild_of_importBinding? {specifier id : NodeId}
    (hid : t.importBinding? specifier = some id) : t.NamesChild specifier id := by
  have hnames := hid
  unfold importBinding? at hid
  unfold NamesChild
  split at hid <;> rename_i hkind
  · rw [hkind]
    exact hnames
  · rw [hkind]
    exact hnames
  · rw [hkind]
    exact hnames
  · simp at hid

theorem bindsChild_of_fn {owner child : NodeId} {fn : FunctionShape NodeId}
    (hfn : (t.kind owner).fn? = some fn) : t.BindsChild owner child ↔ child ∈ fn.params := by
  unfold BindsChild
  cases hkind : t.kind owner with
  | functionDeclaration | functionExpression | arrowFunction =>
    rw [hkind] at hfn
    cases hfn
    rfl
  | _ => simp [hkind, NodeKind.fn?] at hfn

section Places

variable (h : t.WellLinked) (hshape : t.EsTreeShaped)
include h

theorem Declares.place {node id parent : NodeId} {form : DeclarationForm}
    (hdeclares : t.Declares node form id) (hparent : t.parent? id = some parent) :
    t.NamesChild parent id ∨ t.ClimbsToBinding id := by
  cases hdeclares with
  | functionDeclaration hkind hid | functionExpression hkind hid =>
    have hsite := (site_of_fn h (p := node) (by rw [hkind]; rfl)
      (List.mem_append_left _ (Option.mem_toList.2 hid)) .refl).1
    cases hparent.symm.trans hsite.parent
    exact .inl (by simp [NamesChild, hkind, hid])
  | classDeclaration hkind hid | classExpression hkind hid =>
    have hsite := (site_of_cls h (p := node) (by rw [hkind]; rfl) hid).1
    cases hparent.symm.trans hsite.parent
    exact .inl (by simp [NamesChild, hkind, hid])
  | variableDeclaration hkind hmem htarget hid =>
    have hsite := (site_of_declarator h htarget hid.climbs).1
    exact .inr ⟨_, _, hid.climbs, hsite.parent, by simp [BindsChild, htarget]⟩
  | imported hkind hmem hid =>
    have hsite := (site_of_importBinding? h hid).1
    cases hparent.symm.trans hsite.parent
    exact .inl (namesChild_of_importBinding? hid)
  | parameter hfn hmem hid =>
    have hsite := (site_of_fn h hfn (List.mem_append_right _ hmem) hid.climbs).1
    exact .inr ⟨_, node, hid.climbs, hsite.parent, (bindsChild_of_fn hfn).2 hmem⟩
  | catchParameter hkind hid =>
    have hsite := (site_of_catchClause h hkind hid.climbs).1
    exact .inr ⟨_, node, hid.climbs, hsite.parent, by simp [BindsChild, hkind]⟩

variable (hroot : ∃ body sourceType, t.kind t.root = .program body sourceType)
include hshape hroot

theorem exists_declares_of_namesChild {id parent : NodeId} (hparent : t.parent? id = some parent)
    (hnames : t.NamesChild parent id) : ∃ node form, t.Declares node form id := by
  have himport (hid : t.importBinding? parent = some id) :
      ∃ node form, t.Declares node form id := by
    obtain ⟨node, hnode⟩ : ∃ node, t.parent? parent = some node := by
      refine exists_parent?_of_ne_root h
        (h.lt_size ((h.parent?_iff id parent).1 hparent)) ?_
      rintro rfl
      obtain ⟨body, sourceType, hkind⟩ := hroot
      simp [importBinding?, hkind] at hid
    obtain ⟨specifiers, source, hkind, hmem⟩ := hshape.specifier parent node id hid hnode
    exact ⟨node, _, .imported hkind hmem hid⟩
  unfold NamesChild at hnames
  split at hnames
  · exact himport hnames
  · exact himport hnames
  · exact himport hnames
  · rename_i fn hkind
    exact ⟨parent, _, .functionDeclaration hkind hnames⟩
  · rename_i fn hkind
    exact ⟨parent, _, .functionExpression hkind hnames⟩
  · rename_i fn hkind
    simp [hshape.arrow parent fn hkind] at hnames
  · rename_i cls hkind
    exact ⟨parent, _, .classDeclaration hkind hnames⟩
  · rename_i cls hkind
    exact ⟨parent, _, .classExpression hkind hnames⟩
  · exact hnames.elim

theorem exists_declares_of_climbsToBinding {id : NodeId} (hname : (t.identifierName? id).isSome)
    (hclimbs : t.ClimbsToBinding id) : ∃ node form, t.Declares node form id := by
  obtain ⟨top, owner, hclimbs, htop, hbinds⟩ := hclimbs
  have hid : t.Binds top id := ⟨hname, hclimbs⟩
  unfold BindsChild at hbinds
  split at hbinds
  · rename_i target init hkind
    subst hbinds
    obtain ⟨node, hnode⟩ : ∃ node, t.parent? owner = some node := by
      refine exists_parent?_of_ne_root h (h.lt_size ((h.parent?_iff _ owner).1 htop)) ?_
      rintro rfl
      obtain ⟨body, sourceType, hprogram⟩ := hroot
      simp [hprogram] at hkind
    obtain ⟨kind, declarations, hnodeKind⟩ := hshape.declarator owner node _ init hkind hnode
    have hmem := (h.perm node).subset ((h.parent?_iff owner node).1 hnode)
    rw [hnodeKind, NodeKind.inReadingOrder_variableDeclaration] at hmem
    exact ⟨node, _, .variableDeclaration hnodeKind hmem hkind hid⟩
  · rename_i param body hkind
    subst hbinds
    exact ⟨owner, _, .catchParameter hkind hid⟩
  · rename_i fn hkind
    exact ⟨owner, _, .parameter (by rw [hkind]; rfl) hbinds hid⟩
  · rename_i fn hkind
    exact ⟨owner, _, .parameter (by rw [hkind]; rfl) hbinds hid⟩
  · rename_i fn hkind
    exact ⟨owner, _, .parameter (by rw [hkind]; rfl) hbinds hid⟩
  · exact hbinds.elim

theorem role_eq_binding_iff_declares {id : NodeId} (hname : (t.identifierName? id).isSome) :
    t.role id = .binding ↔ ∃ node form, t.Declares node form id := by
  obtain ⟨parent, hparent⟩ : ∃ parent, t.parent? id = some parent := by
    refine exists_parent?_of_ne_root h (ScopeGraph.lt_size_of_identifierName? hname) ?_
    rintro rfl
    obtain ⟨body, sourceType, hkind⟩ := hroot
    simp [identifierName?, hkind] at hname
  rw [role_eq_binding_iff h hshape hname hparent]
  constructor
  · rintro (hnames | hclimbs)
    · exact exists_declares_of_namesChild h hshape hroot hparent hnames
    · exact exists_declares_of_climbsToBinding h hshape hroot hname hclimbs
  · rintro ⟨node, form, hdeclares⟩
    exact hdeclares.place h hparent

end Places

end Tree

namespace ScopeGraph

/-- The classification of identifiers and the table of bindings, side by side. -/
structure RolesAgree (t : Tree) (g : ScopeGraph) : Prop where
  role_iff : ∀ id, (t.identifierName? id).isSome →
    (t.role id = .binding ↔ (g.binding? id).isSome)
  use : ∀ r ∈ g.references, r.init = false →
    t.role r.identifier ≠ .binding ∧ g.binding? r.identifier = none

theorem rolesAgree_ofTree {t : Tree} (h : t.WellLinked) (hshape : t.EsTreeShaped)
    (hroot : ∃ body sourceType, t.kind t.root = .program body sourceType) :
    (ofTree t).RolesAgree t := by
  have hrole (id : NodeId) (hname : (t.identifierName? id).isSome) :
      t.role id = .binding ↔ ((ofTree t).binding? id).isSome := by
    rw [Tree.role_eq_binding_iff_declares h hshape hroot hname, isSome_binding?_iff h hroot]
    exact (and_iff_right hname).symm
  refine ⟨hrole, ?_⟩
  intro r hr hinit
  have hne : t.role r.identifier ≠ .binding := by
    cases recorded_ofTree hr with
    | use hname hrole => simp [hrole]
    | init hname hrole hmem => simp at hinit
  refine ⟨hne, Option.not_isSome_iff_eq_none.1 fun hbound => ?_⟩
  exact hne ((hrole r.identifier ((isSome_binding?_iff h hroot).1 hbound).1).2 hbound)

end ScopeGraph

namespace SourceFile

open ScopeGraph

theorem rolesAgree_ofSource {path : String} {text : Text} {doc : Json} {s : Source}
    (h : Source.ofDocument path text doc = .ok s) (hshape : s.tree.EsTreeShaped) :
    (ofSource s).scopes.RolesAgree s.tree :=
  rolesAgree_ofTree (Source.wellLinked_of_ofDocument h) hshape
    (Source.nested_of_ofDocument h).2.whole.program

def patternDocument : Json := .obj [
  ("body", .arr [.obj [
    ("declarations", .arr [.obj [
      ("id", .obj [
        ("properties", .arr [.obj [
          ("computed", .bool false),
          ("key", .obj [("name", .str "x"), ("range", .arr [.nat 6, .nat 7]),
            ("type", .str "Identifier")]),
          ("kind", .str "init"), ("range", .arr [.nat 6, .nat 16]), ("shorthand", .bool false),
          ("type", .str "Property"),
          ("value", .obj [
            ("elements", .arr [.obj [
              ("left", .obj [("name", .str "a"), ("range", .arr [.nat 10, .nat 11]),
                ("type", .str "Identifier")]),
              ("range", .arr [.nat 10, .nat 15]),
              ("right", .obj [("name", .str "b"), ("range", .arr [.nat 14, .nat 15]),
                ("type", .str "Identifier")]),
              ("type", .str "AssignmentPattern")]]),
            ("range", .arr [.nat 9, .nat 16]), ("type", .str "ArrayPattern")])]]),
        ("range", .arr [.nat 4, .nat 18]), ("type", .str "ObjectPattern")]),
      ("init", .obj [("name", .str "c"), ("range", .arr [.nat 21, .nat 22]),
        ("type", .str "Identifier")]),
      ("range", .arr [.nat 4, .nat 22]), ("type", .str "VariableDeclarator")]]),
    ("kind", .str "let"), ("range", .arr [.nat 0, .nat 23]),
    ("type", .str "VariableDeclaration")]]),
  ("sourceType", .str "script"), ("type", .str "Program")]

def patternSource : Source where
  path := "a.js"
  text := "let { x: [a = b] } = c;".toList
  tree :=
    { nodes := #[
        ⟨.identifier "c" none false, ⟨21, 22⟩⟩,
        ⟨.identifier "x" none false, ⟨6, 7⟩⟩,
        ⟨.identifier "b" none false, ⟨14, 15⟩⟩,
        ⟨.identifier "a" none false, ⟨10, 11⟩⟩,
        ⟨.assignmentPattern 3 2, ⟨10, 15⟩⟩,
        ⟨.arrayPattern [some 4], ⟨9, 16⟩⟩,
        ⟨.property 5 (some 1) .init false false, ⟨6, 16⟩⟩,
        ⟨.objectPattern [6], ⟨4, 18⟩⟩,
        ⟨.variableDeclarator 7 (some 0), ⟨4, 22⟩⟩,
        ⟨.variableDeclaration .letDecl [8], ⟨0, 23⟩⟩,
        ⟨.program [9] .script, ⟨0, 23⟩⟩]
      children := #[[], [], [], [], [3, 2], [4], [1, 5], [6], [7, 0], [8], [9]]
      parents := #[some 8, some 6, some 4, some 4, some 5, some 6, some 7, some 8, some 9, some 10,
        none]
      root := 10 }
  tokens := TokenIndex.ofList []

theorem ofDocument_pattern :
    Source.ofDocument "a.js" patternSource.text patternDocument = .ok patternSource := by
  have hload : Loader.load patternSource.text patternDocument = .ok patternSource.tree.nodes := by
    decide +kernel
  have htree : Tree.ofNodes patternSource.tree.nodes 10 = .ok patternSource.tree := by cbv
  have htokens : Loader.tokens patternSource.text patternDocument = [] := by rfl
  rw [Source.ofDocument_eq "a.js" hload htree, htokens]
  rfl

theorem esTreeShaped_pattern : patternSource.tree.EsTreeShaped := by
  have hsmall (n : Nat) : n < 11 ∨ patternSource.tree.kind n = .other "" [] :=
    (Nat.lt_or_ge n 11).imp_right Tree.kind_of_size_le
  refine ⟨?_, ?_, ?_, ?_⟩
  · intro n p value key kind computed method hkind hp
    rcases hsmall n with hlt | hnone
    · interval_cases n <;> cases hkind
      cases hp
      exact .inr ⟨[6], rfl⟩
    · simp [hnone] at hkind
  · intro n p target init hkind hp
    rcases hsmall n with hlt | hnone
    · interval_cases n <;> cases hkind
      cases hp
      exact ⟨_, [8], rfl⟩
    · simp [hnone] at hkind
  · intro n p id hid hp
    rcases hsmall n with hlt | hnone
    · interval_cases n <;> cases hid
    · simp [Tree.importBinding?, hnone] at hid
  · intro n fn hkind
    rcases hsmall n with hlt | hnone
    · interval_cases n <;> cases hkind
    · simp [hnone] at hkind

theorem rolesAgree_ofSource_pattern :
    Source.ofDocument "a.js" patternSource.text patternDocument = .ok patternSource ∧
    patternSource.tree.EsTreeShaped ∧
    (ofSource patternSource).scopes.RolesAgree patternSource.tree ∧
    [0, 1, 2, 3].map patternSource.tree.role =
      [.reference .read, .none, .reference .read, .binding] ∧
    [0, 1, 2, 3].map (ofSource patternSource).scopes.binding? = [none, none, none, some 0] :=
  ⟨ofDocument_pattern, esTreeShaped_pattern,
    rolesAgree_ofSource ofDocument_pattern esTreeShaped_pattern, by cbv, by cbv⟩

end SourceFile

end ScriptLint
