import ScriptLint.Proofs.BindingPatterns
import ScriptLint.Proofs.TreeWalk

/-! The identifiers that a node declares, in the scope around it or in its own. Each form of
declaration has its place in the tree, so an identifier is declared by one node only, and once. -/
namespace ScriptLint

namespace NodeKind

variable {α : Type}

theorem inReadingOrder_fn {kind : NodeKind α} {fn : FunctionShape α} (h : kind.fn? = some fn) :
    kind.inReadingOrder = fn.id.toList ++ (fn.params ++ [fn.body]) := by
  unfold fn? at h
  split at h
  all_goals
    simp only [Option.some.injEq, reduceCtorEq] at h
  all_goals
    subst h
    simp only [inReadingOrder_eq, traverse, FunctionShape.traverse, run_bind_note, run_mapM_note,
      run_optionMapM_note, run_note, run_pure_note, List.append_nil, List.reverse_append,
      List.reverse_reverse, List.reverse_cons, List.append_assoc]

theorem inReadingOrder_cls {kind : NodeKind α} {cls : ClassShape α} (h : kind.cls? = some cls) :
    kind.inReadingOrder = cls.id.toList ++ (cls.superClass.toList ++ [cls.body]) := by
  unfold cls? at h
  split at h
  all_goals
    simp only [Option.some.injEq, reduceCtorEq] at h
  all_goals
    subst h
    simp only [inReadingOrder_eq, traverse, ClassShape.traverse, run_bind_note,
      run_optionMapM_note, run_note, run_pure_note, List.append_nil, List.reverse_append,
      List.reverse_reverse, List.reverse_cons, List.append_assoc]

theorem inReadingOrder_variableDeclaration (kind : DeclarationKind) (declarations : List α) :
    (variableDeclaration kind declarations).inReadingOrder = declarations := by
  simp only [inReadingOrder_eq, traverse, run_bind_note, run_mapM_note, run_pure_note,
    List.append_nil, List.reverse_reverse]

theorem inReadingOrder_variableDeclarator (id : α) (init : Option α) :
    (variableDeclarator id init).inReadingOrder = id :: init.toList := by
  cases init <;> rfl

theorem inReadingOrder_importDeclaration (specifiers : List α) (source : α) :
    (importDeclaration specifiers source).inReadingOrder = specifiers ++ [source] := by
  simp only [inReadingOrder_eq, traverse, run_bind_note, run_mapM_note, run_note, run_pure_note,
    List.reverse_cons, List.append_nil, List.reverse_reverse]

theorem inReadingOrder_importSpecifier (imported : α) (renamed : Option α) :
    (importSpecifier imported renamed).inReadingOrder = imported :: renamed.toList := by
  cases renamed <;> rfl

theorem inReadingOrder_catchClause (param : Option α) (body : α) :
    (catchClause param body).inReadingOrder = param.toList ++ [body] := by
  cases param <;> rfl

end NodeKind

namespace Tree

variable {t : Tree}

/-! The places of declarations. -/

inductive DeclarationForm where
  | functionDeclaration
  | classDeclaration
  | variableDeclaration (kind : DeclarationKind)
  | imported
  | functionExpression
  | parameter
  | classExpression
  | catchParameter
  deriving DecidableEq, Repr

def DeclarationForm.isOuter : DeclarationForm → Bool
  | functionDeclaration | classDeclaration | variableDeclaration _ | imported => true
  | functionExpression | parameter | classExpression | catchParameter => false

def importBinding? (t : Tree) (specifier : NodeId) : Option NodeId :=
  match t.kind specifier with
  | .importSpecifier imported renamed => some (renamed.getD imported)
  | .importDefaultSpecifier binding | .importNamespaceSpecifier binding => some binding
  | _ => none

/-- What it takes for a node to declare an identifier. -/
inductive Declares (t : Tree) (node : NodeId) : DeclarationForm → NodeId → Prop
  | functionDeclaration {fn : FunctionShape NodeId} {id : NodeId}
      (hkind : t.kind node = .functionDeclaration fn) (hid : fn.id = some id) :
      Declares t node .functionDeclaration id
  | classDeclaration {cls : ClassShape NodeId} {id : NodeId}
      (hkind : t.kind node = .classDeclaration cls) (hid : cls.id = some id) :
      Declares t node .classDeclaration id
  | variableDeclaration {kind : DeclarationKind} {declarations : List NodeId} {declarator target : NodeId}
      {init : Option NodeId} {id : NodeId}
      (hkind : t.kind node = .variableDeclaration kind declarations)
      (hmem : declarator ∈ declarations)
      (htarget : t.kind declarator = .variableDeclarator target init) (hid : t.Binds target id) :
      Declares t node (.variableDeclaration kind) id
  | imported {specifiers : List NodeId} {source specifier id : NodeId}
      (hkind : t.kind node = .importDeclaration specifiers source) (hmem : specifier ∈ specifiers)
      (hid : t.importBinding? specifier = some id) : Declares t node .imported id
  | functionExpression {fn : FunctionShape NodeId} {id : NodeId}
      (hkind : t.kind node = .functionExpression fn) (hid : fn.id = some id) :
      Declares t node .functionExpression id
  | parameter {fn : FunctionShape NodeId} {param id : NodeId} (hfn : (t.kind node).fn? = some fn)
      (hmem : param ∈ fn.params) (hid : t.Binds param id) : Declares t node .parameter id
  | classExpression {cls : ClassShape NodeId} {id : NodeId}
      (hkind : t.kind node = .classExpression cls) (hid : cls.id = some id) :
      Declares t node .classExpression id
  | catchParameter {param body id : NodeId} (hkind : t.kind node = .catchClause (some param) body)
      (hid : t.Binds param id) : Declares t node .catchParameter id

/-! One node for each identifier. -/

/-- The climb from an identifier ends at a child of `owner`, which is no pattern. -/
structure Site (t : Tree) (id top owner : NodeId) : Prop where
  climbs : t.InPattern id top
  parent : t.parent? top = some owner
  noPattern : t.patternParts owner = []

theorem Site.unique (h : t.WellLinked) {id p q a b : NodeId} (hp : t.Site id p a)
    (hq : t.Site id q b) : p = q ∧ a = b := by
  have hstop {p q a : NodeId} (hp : t.Site id p a) (hpq : t.InPattern p q) : p = q := by
    rcases Relation.ReflTransGen.cases_head hpq with heq | ⟨r, hpart, -⟩
    · exact heq
    · have hr : r = a := Option.some.inj ((hpart.parent h).symm.trans hp.parent)
      rw [IsPart, hr, hp.noPattern] at hpart
      simp at hpart
  have heq : p = q := by
    rcases hp.climbs.total h hq.climbs with hpq | hqp
    · exact hstop hp hpq
    · exact (hstop hq hqp).symm
  subst heq
  exact ⟨rfl, Option.some.inj (hp.parent.symm.trans hq.parent)⟩

def declaring? (t : Tree) (owner : NodeId) : Option NodeId :=
  match t.kind owner with
  | .variableDeclarator .. | .importSpecifier .. | .importDefaultSpecifier _
  | .importNamespaceSpecifier _ => t.parent? owner
  | _ => some owner

section Places

variable (h : t.WellLinked) {node id child p : NodeId}
include h

theorem parent?_of_mem (hmem : child ∈ (t.kind p).inReadingOrder) : t.parent? child = some p :=
  (h.parent?_iff child p).2 ((h.perm p).symm.subset hmem)

theorem lt_size_of_parent? (hp : t.parent? child = some p) : child < t.size := by
  have hchild := (h.parent?_iff child p).1 hp
  exact Nat.lt_trans (h.below p child hchild) (h.lt_size hchild)

theorem exists_parent?_of_ne_root (hlt : node < t.size) (hne : node ≠ t.root) :
    ∃ p, t.parent? node = some p := by
  obtain ⟨p, hp⟩ := (h.covered node hlt).resolve_left hne
  exact ⟨p, (h.parent?_iff node p).2 hp⟩

theorem site_of_fn {fn : FunctionShape NodeId} (hfn : (t.kind p).fn? = some fn)
    (hmem : child ∈ fn.id.toList ++ fn.params) (hclimbs : t.InPattern id child) :
    t.Site id child p ∧ t.declaring? p = some p := by
  refine ⟨⟨hclimbs, parent?_of_mem h ?_, ?_⟩, ?_⟩
  · rw [NodeKind.inReadingOrder_fn hfn, ← List.append_assoc]
    exact List.mem_append_left _ hmem
  all_goals
    simp only [patternParts, declaring?]
    cases hkind : t.kind p with
    | functionDeclaration | functionExpression | arrowFunction => rfl
    | _ => simp [hkind, NodeKind.fn?] at hfn

theorem site_of_cls {cls : ClassShape NodeId} (hcls : (t.kind p).cls? = some cls)
    (hid : cls.id = some id) : t.Site id id p ∧ t.declaring? p = some p := by
  refine ⟨⟨.refl, parent?_of_mem h ?_, ?_⟩, ?_⟩
  · rw [NodeKind.inReadingOrder_cls hcls, hid]
    exact List.mem_cons_self
  all_goals
    simp only [patternParts, declaring?]
    cases hkind : t.kind p with
    | classDeclaration | classExpression => rfl
    | _ => simp [hkind, NodeKind.cls?] at hcls

theorem site_of_declarator {target : NodeId} {init : Option NodeId}
    (hkind : t.kind p = .variableDeclarator target init) (hclimbs : t.InPattern id target) :
    t.Site id target p ∧ t.declaring? p = t.parent? p := by
  refine ⟨⟨hclimbs, parent?_of_mem h ?_, by simp [patternParts, hkind]⟩, by simp [declaring?, hkind]⟩
  rw [hkind, NodeKind.inReadingOrder_variableDeclarator]
  exact List.mem_cons_self

theorem site_of_catchClause {param body : NodeId} (hkind : t.kind p = .catchClause (some param) body)
    (hclimbs : t.InPattern id param) : t.Site id param p ∧ t.declaring? p = some p := by
  refine ⟨⟨hclimbs, parent?_of_mem h ?_, by simp [patternParts, hkind]⟩, by simp [declaring?, hkind]⟩
  rw [hkind, NodeKind.inReadingOrder_catchClause]
  exact List.mem_cons_self

omit h in
theorem mem_of_importBinding? (hid : t.importBinding? p = some id) :
    id ∈ (t.kind p).inReadingOrder := by
  unfold importBinding? at hid
  cases hkind : t.kind p with
  | importSpecifier imported renamed =>
    rw [hkind] at hid
    cases hid
    rw [NodeKind.inReadingOrder_importSpecifier]
    cases renamed <;> simp
  | importDefaultSpecifier binding | importNamespaceSpecifier binding =>
    rw [hkind] at hid
    cases hid
    exact List.mem_singleton.2 rfl
  | _ => simp [hkind] at hid

theorem site_of_importBinding? (hid : t.importBinding? p = some id) :
    t.Site id id p ∧ t.declaring? p = t.parent? p := by
  refine ⟨⟨.refl, parent?_of_mem h (mem_of_importBinding? hid), ?_⟩, ?_⟩
  all_goals
    simp only [patternParts, declaring?]
    cases hkind : t.kind p with
    | importSpecifier | importDefaultSpecifier | importNamespaceSpecifier => rfl
    | _ => simp [importBinding?, hkind] at hid

theorem parent?_of_mem_declarations {kind : DeclarationKind} {declarations : List NodeId}
    (hkind : t.kind node = .variableDeclaration kind declarations) (hmem : child ∈ declarations) :
    t.parent? child = some node := by
  apply parent?_of_mem h
  rwa [hkind, NodeKind.inReadingOrder_variableDeclaration]

theorem parent?_of_mem_specifiers {specifiers : List NodeId} {source : NodeId}
    (hkind : t.kind node = .importDeclaration specifiers source) (hmem : child ∈ specifiers) :
    t.parent? child = some node := by
  apply parent?_of_mem h
  rw [hkind, NodeKind.inReadingOrder_importDeclaration]
  exact List.mem_append_left _ hmem

theorem Declares.site {form : DeclarationForm} (hdeclares : t.Declares node form id) :
    ∃ top owner, t.Site id top owner ∧ t.declaring? owner = some node := by
  cases hdeclares with
  | functionDeclaration hkind hid | functionExpression hkind hid =>
    refine ⟨id, node, site_of_fn h (by rw [hkind]; rfl) ?_ .refl⟩
    simp [hid]
  | classDeclaration hkind hid | classExpression hkind hid =>
    exact ⟨id, node, site_of_cls h (by rw [hkind]; rfl) hid⟩
  | variableDeclaration hkind hmem htarget hid =>
    obtain ⟨hsite, howner⟩ := site_of_declarator h htarget hid.climbs
    exact ⟨_, _, hsite, howner.trans (parent?_of_mem_declarations h hkind hmem)⟩
  | imported hkind hmem hid =>
    obtain ⟨hsite, howner⟩ := site_of_importBinding? h hid
    exact ⟨_, _, hsite, howner.trans (parent?_of_mem_specifiers h hkind hmem)⟩
  | parameter hfn hmem hid =>
    exact ⟨_, node, site_of_fn h hfn (List.mem_append_right _ hmem) hid.climbs⟩
  | catchParameter hkind hid => exact ⟨_, node, site_of_catchClause h hkind hid.climbs⟩

end Places

/-! The identifiers as lists, in the order in which they are declared. -/

def declaratorIdentifiers (t : Tree) (declarator : NodeId) : List NodeId :=
  match t.kind declarator with
  | .variableDeclarator target _ => t.bindingIdentifiers target
  | _ => []

def parameterIdentifiers (t : Tree) (fn : FunctionShape NodeId) : List NodeId :=
  fn.params.flatMap t.bindingIdentifiers

def outerIdentifiers (t : Tree) (node : NodeId) : List NodeId :=
  match t.kind node with
  | .functionDeclaration fn => fn.id.toList
  | .classDeclaration cls => cls.id.toList
  | .variableDeclaration _ declarations => declarations.flatMap t.declaratorIdentifiers
  | .importDeclaration specifiers _ => specifiers.flatMap fun s => (t.importBinding? s).toList
  | _ => []

def innerIdentifiers (t : Tree) (node : NodeId) : List NodeId :=
  match t.kind node with
  | .functionExpression fn => fn.id.toList ++ t.parameterIdentifiers fn
  | .functionDeclaration fn | .arrowFunction fn => t.parameterIdentifiers fn
  | .classExpression cls => cls.id.toList
  | .catchClause (some param) _ => t.bindingIdentifiers param
  | _ => []

section Lists

variable (h : t.WellLinked) {node id : NodeId}
include h

theorem mem_declaratorIdentifiers {declarator : NodeId} :
    id ∈ t.declaratorIdentifiers declarator ↔
      ∃ target init, t.kind declarator = .variableDeclarator target init ∧ t.Binds target id := by
  unfold declaratorIdentifiers
  split
  · rename_i target init hkind
    have hsite := (site_of_declarator h hkind Relation.ReflTransGen.refl).1
    rw [(bindingIdentifiers_spec h (lt_size_of_parent? h hsite.parent)).2]
    simp [hkind]
  · rename_i hno
    exact iff_of_false List.not_mem_nil fun ⟨target, init, hkind, _⟩ => hno target init hkind

theorem mem_parameterIdentifiers {fn : FunctionShape NodeId} (hfn : (t.kind node).fn? = some fn) :
    id ∈ t.parameterIdentifiers fn ↔ ∃ param ∈ fn.params, t.Binds param id := by
  rw [parameterIdentifiers, List.mem_flatMap]
  refine exists_congr fun param => and_congr_right fun hmem => ?_
  have hsite := (site_of_fn h hfn (List.mem_append_right _ hmem) Relation.ReflTransGen.refl).1
  exact (bindingIdentifiers_spec h (lt_size_of_parent? h hsite.parent)).2 id

theorem mem_outerIdentifiers :
    id ∈ t.outerIdentifiers node ↔ ∃ form, form.isOuter = true ∧ t.Declares node form id := by
  constructor
  · intro hid
    unfold outerIdentifiers at hid
    split at hid
    · rename_i fn hkind
      exact ⟨_, rfl, .functionDeclaration hkind (Option.mem_toList.1 hid)⟩
    · rename_i cls hkind
      exact ⟨_, rfl, .classDeclaration hkind (Option.mem_toList.1 hid)⟩
    · rename_i kind declarations hkind
      obtain ⟨declarator, hmem, hid⟩ := List.mem_flatMap.1 hid
      obtain ⟨target, init, htarget, hbinds⟩ := (mem_declaratorIdentifiers h).1 hid
      exact ⟨_, rfl, .variableDeclaration hkind hmem htarget hbinds⟩
    · rename_i specifiers source hkind
      obtain ⟨specifier, hmem, hid⟩ := List.mem_flatMap.1 hid
      exact ⟨_, rfl, .imported hkind hmem (Option.mem_toList.1 hid)⟩
    · simp at hid
  · rintro ⟨form, hform, hdeclares⟩
    unfold outerIdentifiers
    cases hdeclares with
    | functionDeclaration hkind hid | classDeclaration hkind hid =>
      rw [hkind]
      exact Option.mem_toList.2 hid
    | variableDeclaration hkind hmem htarget hid =>
      rw [hkind]
      exact List.mem_flatMap.2
        ⟨_, hmem, (mem_declaratorIdentifiers h).2 ⟨_, _, htarget, hid⟩⟩
    | imported hkind hmem hid =>
      rw [hkind]
      exact List.mem_flatMap.2 ⟨_, hmem, Option.mem_toList.2 hid⟩
    | _ => simp [DeclarationForm.isOuter] at hform

theorem mem_innerIdentifiers :
    id ∈ t.innerIdentifiers node ↔ ∃ form, form.isOuter = false ∧ t.Declares node form id := by
  have hparameter {fn : FunctionShape NodeId} (hfn : (t.kind node).fn? = some fn)
      (hid : id ∈ t.parameterIdentifiers fn) :
      ∃ form, form.isOuter = false ∧ t.Declares node form id := by
    obtain ⟨param, hmem, hbinds⟩ := (mem_parameterIdentifiers h hfn).1 hid
    exact ⟨_, rfl, .parameter hfn hmem hbinds⟩
  have hcatch {param body : NodeId} (hkind : t.kind node = .catchClause (some param) body) :
      id ∈ t.bindingIdentifiers param ↔ t.Binds param id := by
    have hsite := (site_of_catchClause h hkind Relation.ReflTransGen.refl).1
    exact (bindingIdentifiers_spec h (lt_size_of_parent? h hsite.parent)).2 id
  constructor
  · intro hid
    unfold innerIdentifiers at hid
    split at hid
    · rename_i fn hkind
      rcases List.mem_append.1 hid with hname | hid
      · exact ⟨_, rfl, .functionExpression hkind (Option.mem_toList.1 hname)⟩
      · exact hparameter (by rw [hkind]; rfl) hid
    · rename_i fn hkind
      exact hparameter (by rw [hkind]; rfl) hid
    · rename_i fn hkind
      exact hparameter (by rw [hkind]; rfl) hid
    · rename_i cls hkind
      exact ⟨_, rfl, .classExpression hkind (Option.mem_toList.1 hid)⟩
    · rename_i param body hkind
      exact ⟨_, rfl, .catchParameter hkind ((hcatch hkind).1 hid)⟩
    · simp at hid
  · rintro ⟨form, hform, hdeclares⟩
    unfold innerIdentifiers
    cases hdeclares with
    | functionExpression hkind hid =>
      rw [hkind]
      exact List.mem_append_left _ (Option.mem_toList.2 hid)
    | classExpression hkind hid =>
      rw [hkind]
      exact Option.mem_toList.2 hid
    | catchParameter hkind hid =>
      rw [hkind]
      exact (hcatch hkind).2 hid
    | parameter hfn hmem hid =>
      have hin := (mem_parameterIdentifiers h hfn).2 ⟨_, hmem, hid⟩
      cases hkind : t.kind node with
      | functionDeclaration | arrowFunction =>
        rw [hkind] at hfn
        cases hfn
        exact hin
      | functionExpression =>
        rw [hkind] at hfn
        cases hfn
        exact List.mem_append_right _ hin
      | _ => simp [hkind, NodeKind.fn?] at hfn
    | _ => simp [DeclarationForm.isOuter] at hform

theorem nodup_flatMap_of_site {l : List NodeId} {f : NodeId → List NodeId} (hl : l.Nodup)
    (hf : ∀ a ∈ l, (f a).Nodup) (place : NodeId → NodeId → Option NodeId)
    (hsite : ∀ a ∈ l, ∀ id ∈ f a, ∃ top owner, t.Site id top owner ∧ place top owner = some a) :
    (l.flatMap f).Nodup := by
  refine List.nodup_flatMap.2 ⟨hf, hl.imp_of_mem ?_⟩
  intro a b ha hb hne id hida hidb
  obtain ⟨top, owner, hs, hpa⟩ := hsite a ha id hida
  obtain ⟨top', owner', hs', hpb⟩ := hsite b hb id hidb
  obtain ⟨rfl, rfl⟩ := hs.unique h hs'
  exact hne (Option.some.inj (hpa.symm.trans hpb))

theorem nodup_inReadingOrder (node : NodeId) : (t.kind node).inReadingOrder.Nodup :=
  (h.perm node).nodup_iff.1 (h.nodup node)

theorem nodup_declaratorIdentifiers (declarator : NodeId) :
    (t.declaratorIdentifiers declarator).Nodup := by
  unfold declaratorIdentifiers
  split
  · rename_i target init hkind
    have hsite := (site_of_declarator h hkind Relation.ReflTransGen.refl).1
    exact (bindingIdentifiers_spec h (lt_size_of_parent? h hsite.parent)).1
  · exact List.nodup_nil

theorem nodup_name_parameters {fn : FunctionShape NodeId} (hfn : (t.kind node).fn? = some fn) :
    (fn.id.toList ++ t.parameterIdentifiers fn).Nodup := by
  have hnodup := nodup_inReadingOrder h node
  rw [NodeKind.inReadingOrder_fn hfn, ← List.append_assoc] at hnodup
  obtain ⟨hname, hparams, hapart⟩ := List.nodup_append.1 (List.nodup_append.1 hnodup).1
  have hsite {param id : NodeId} (hmem : param ∈ fn.params) (hid : id ∈ t.bindingIdentifiers param) :
      t.Site id param node := by
    have hplace := (site_of_fn h hfn (List.mem_append_right _ hmem) Relation.ReflTransGen.refl).1
    have hbinds := ((bindingIdentifiers_spec h (lt_size_of_parent? h hplace.parent)).2 id).1 hid
    exact (site_of_fn h hfn (List.mem_append_right _ hmem) hbinds.climbs).1
  refine List.nodup_append.2 ⟨hname, ?_, ?_⟩
  · refine nodup_flatMap_of_site h hparams ?_ (fun top _ => some top) ?_
    · intro param hmem
      have hplace := (site_of_fn h hfn (List.mem_append_right _ hmem) Relation.ReflTransGen.refl).1
      exact (bindingIdentifiers_spec h (lt_size_of_parent? h hplace.parent)).1
    · intro param hmem id hid
      exact ⟨param, node, hsite hmem hid, rfl⟩
  · rintro id hid _ hid' rfl
    obtain ⟨param, hmem, hid'⟩ := List.mem_flatMap.1 hid'
    have hplace := (site_of_fn h hfn (List.mem_append_left _ hid) Relation.ReflTransGen.refl).1
    exact hapart id hid param hmem (hplace.unique h (hsite hmem hid')).1

theorem nodup_outer_inner (node : NodeId) :
    (t.outerIdentifiers node ++ t.innerIdentifiers node).Nodup := by
  have hnodup := nodup_inReadingOrder h node
  unfold outerIdentifiers innerIdentifiers
  cases hkind : t.kind node with
  | functionDeclaration fn | functionExpression fn =>
    exact nodup_name_parameters h (by rw [hkind]; rfl)
  | arrowFunction fn =>
    exact (List.nodup_append.1 (nodup_name_parameters h (by rw [hkind]; rfl))).2.1
  | classDeclaration cls | classExpression cls => cases hid : cls.id <;> simp [hid]
  | variableDeclaration kind declarations =>
    rw [hkind, NodeKind.inReadingOrder_variableDeclaration] at hnodup
    rw [List.append_nil]
    refine nodup_flatMap_of_site h hnodup (fun d _ => nodup_declaratorIdentifiers h d)
      (fun _ owner => some owner) ?_
    intro declarator _ id hid
    obtain ⟨target, init, htarget, hbinds⟩ := (mem_declaratorIdentifiers h).1 hid
    exact ⟨target, declarator, (site_of_declarator h htarget hbinds.climbs).1, rfl⟩
  | importDeclaration specifiers source =>
    rw [hkind, NodeKind.inReadingOrder_importDeclaration] at hnodup
    rw [List.append_nil]
    refine nodup_flatMap_of_site h (List.nodup_append.1 hnodup).1 ?_
      (fun _ owner => some owner) ?_
    · intro specifier _
      cases t.importBinding? specifier <;> simp
    · intro specifier _ id hid
      exact ⟨id, specifier, (site_of_importBinding? h (Option.mem_toList.1 hid)).1, rfl⟩
  | catchClause param body =>
    cases param with
    | none => simp
    | some param =>
      have hsite := (site_of_catchClause h hkind Relation.ReflTransGen.refl).1
      exact (bindingIdentifiers_spec h (lt_size_of_parent? h hsite.parent)).1
  | _ => exact List.nodup_nil

theorem nodup_flatMap_declared {nodes : List NodeId} (hnodes : nodes.Nodup) :
    (nodes.flatMap fun node => t.outerIdentifiers node ++ t.innerIdentifiers node).Nodup := by
  refine nodup_flatMap_of_site h hnodes (fun node _ => nodup_outer_inner h node)
    (fun _ owner => t.declaring? owner) ?_
  intro node _ id hid
  rcases List.mem_append.1 hid with hid | hid
  · obtain ⟨form, -, hdeclares⟩ := (mem_outerIdentifiers h).1 hid
    exact hdeclares.site h
  · obtain ⟨form, -, hdeclares⟩ := (mem_innerIdentifiers h).1 hid
    exact hdeclares.site h

end Lists

end Tree

end ScriptLint
