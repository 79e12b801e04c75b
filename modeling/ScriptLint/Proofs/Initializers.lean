import ScriptLint.Proofs.BindingRoles

/-! Names that their own declarations write. The declaring pass notes them as it visits the variable
declarations, and the collecting pass records a reference for each of them. -/
namespace ScriptLint

namespace Tree

/-- A declaration writes an identifier if the pattern around it has an initializer. -/
inductive Initializes (t : Tree) (node id : NodeId) : Prop
  | declarator {kind : DeclarationKind} {declarations : List NodeId} {declarator target init : NodeId}
      (hkind : t.kind node = .variableDeclaration kind declarations)
      (hmem : declarator ∈ declarations)
      (htarget : t.kind declarator = .variableDeclarator target (some init))
      (hid : t.Binds target id)

def initializedBy (t : Tree) (node : NodeId) : List NodeId :=
  match t.kind node with
  | .variableDeclaration _ declarations => declarations.flatMap fun declarator =>
    match t.kind declarator with
    | .variableDeclarator target (some _) => t.bindingIdentifiers target
    | _ => []
  | _ => []

variable {t : Tree}

theorem mem_initializedBy (h : t.WellLinked) {node id : NodeId} :
    id ∈ t.initializedBy node ↔ t.Initializes node id := by
  have hbinds {declarator target : NodeId} {init : Option NodeId}
      (htarget : t.kind declarator = .variableDeclarator target init) :
      id ∈ t.bindingIdentifiers target ↔ t.Binds target id := by
    have hsite := (site_of_declarator h htarget Relation.ReflTransGen.refl).1
    exact (bindingIdentifiers_spec h (lt_size_of_parent? h hsite.parent)).2 id
  unfold initializedBy
  constructor
  · intro hid
    split at hid
    · rename_i kind declarations hkind
      obtain ⟨declarator, hmem, hid⟩ := List.mem_flatMap.1 hid
      split at hid
      · rename_i htarget
        exact .declarator hkind hmem htarget ((hbinds htarget).1 hid)
      · simp at hid
    · simp at hid
  · rintro ⟨hkind, hmem, htarget, hid⟩
    simp only [hkind, List.mem_flatMap]
    exact ⟨_, hmem, by simpa [htarget] using (hbinds htarget).2 hid⟩

theorem Initializes.declares {node id : NodeId} (hinit : t.Initializes node id) :
    ∃ kind, t.Declares node (.variableDeclaration kind) id := by
  obtain ⟨hkind, hmem, htarget, hid⟩ := hinit
  exact ⟨_, .variableDeclaration hkind hmem htarget hid⟩

end Tree

namespace Declaring

open ScopeGraph

variable {t : Tree}

theorem initialized_foldl {α : Type} {f : Declaring → α → Declaring} {marks : α → List NodeId}
    (hf : ∀ d a, (f d a).initialized = d.initialized ++ marks a) (l : List α) (d : Declaring) :
    (l.foldl f d).initialized = d.initialized ++ l.flatMap marks := by
  induction l generalizing d with
  | nil => simp
  | cons a l ih => rw [List.foldl_cons, ih, hf, List.flatMap_cons, List.append_assoc]

theorem initialized_outerBindings (node : NodeId) (scope : ScopeId) (d : Declaring) :
    (d.outerBindings t node scope).initialized = d.initialized ++ t.initializedBy node := by
  unfold outerBindings Tree.initializedBy
  cases t.kind node with
  | variableDeclaration kind declarations =>
    refine initialized_foldl (fun d declarator => ?_) declarations d
    unfold Declaring.declarator
    cases t.kind declarator with
    | variableDeclarator target init => cases init <;> simp [declareAll]
    | _ => simp
  | importDeclaration specifiers source =>
    have hnone : (specifiers.foldl (specifier t scope node) d).initialized =
        d.initialized ++ specifiers.flatMap fun _ => [] :=
      initialized_foldl (fun d a => by simp [specifier, declareAll]) specifiers d
    rwa [List.flatMap_eq_nil_iff.2 fun _ _ => rfl] at hnone
  | _ => simp [declareAll]

theorem initialized_innerBindings (node : NodeId) (scope : ScopeId) (d : Declaring) :
    (d.innerBindings t node scope).initialized = d.initialized := by
  have hparameters (fn : FunctionShape NodeId) (d : Declaring) :
      (fn.params.foldl (fun d param =>
        d.declareAll t scope .parameter node [node] (t.bindingIdentifiers param)) d).initialized =
        d.initialized := by
    induction fn.params generalizing d with
    | nil => rfl
    | cons param params ih => exact ih _
  unfold innerBindings
  split
  · exact hparameters _ _
  · exact hparameters _ d
  · exact hparameters _ d
  · rfl
  · rfl
  · rfl

theorem initialized_visit (node : NodeId) (outer : ScopeId) (d : Declaring) :
    (d.visit t node outer).1.initialized = d.initialized ++ t.initializedBy node := by
  unfold visit
  cases t.scopeKind? node with
  | none => exact initialized_outerBindings node outer d
  | some kind =>
    refine (initialized_innerBindings node _ _).trans ?_
    exact initialized_outerBindings node outer d

theorem initialized_run (h : t.WellLinked)
    (hroot : ∃ body sourceType, t.kind t.root = .program body sourceType) :
    (run t).initialized = t.preorder.flatMap t.initializedBy := by
  refine run_induction h (P := fun visited d => d.initialized = visited.flatMap t.initializedBy) ?_ ?_
  · obtain ⟨body, sourceType, hkind⟩ := hroot
    simp [Tree.initializedBy, hkind, atRoot, place]
  · intro visited d node p hd _ _ _
    rw [initialized_visit, hd, List.flatMap_append, List.flatMap_singleton]

theorem mem_initialized_run (h : t.WellLinked)
    (hroot : ∃ body sourceType, t.kind t.root = .program body sourceType) {id : NodeId} :
    id ∈ (run t).initialized ↔ ∃ node, t.Initializes node id := by
  simp only [initialized_run h hroot, List.mem_flatMap, h.mem_preorder, Tree.mem_initializedBy h]
  constructor
  · rintro ⟨node, -, hinit⟩
    exact ⟨node, hinit⟩
  · rintro ⟨node, hinit⟩
    obtain ⟨kind, hdeclares⟩ := hinit.declares
    exact ⟨node, lt_size_of_declares hdeclares, hinit⟩

end Declaring

namespace ScopeGraph

variable {t : Tree}

theorem mem_references_collect {initialized : List NodeId} {g : ScopeGraph} {r : Reference}
    (hr : r ∈ g.references) (id : NodeId) : r ∈ (collect t initialized g id).references := by
  obtain ⟨new, -, -, heq⟩ | ⟨heq, -⟩ := collect_cases t initialized g id
  · rw [heq, references_addReference]
    exact Array.mem_push_of_mem new hr
  · rwa [heq]

theorem exists_reference_of_initialized {initialized : List NodeId} {id : NodeId} {name : String}
    (hname : usedName? t id = some name) (hrole : t.role id = .binding) (hinit : id ∈ initialized)
    {nodes : List NodeId} (hid : id ∈ nodes) (g : ScopeGraph) :
    ∃ r ∈ (nodes.foldl (collect t initialized) g).references, r.identifier = id := by
  have hkeep (nodes : List NodeId) (g : ScopeGraph) {r : Reference} (hr : r ∈ g.references) :
      r ∈ (nodes.foldl (collect t initialized) g).references := by
    induction nodes generalizing g with
    | nil => exact hr
    | cons node nodes ih => exact ih _ (mem_references_collect hr node)
  induction nodes generalizing g with
  | nil => simp at hid
  | cons node nodes ih =>
    rcases List.mem_cons.1 hid with rfl | hid
    · have hadd : collect t initialized g id =
          g.addReference ⟨id, g.scopeOf id, g.binding? id, .write, true⟩ := by
        simp [collect, hname, hrole, hinit]
      refine ⟨⟨id, g.scopeOf id, g.binding? id, .write, true⟩, hkeep nodes _ ?_, rfl⟩
      rw [hadd, references_addReference]
      exact Array.mem_push_self
    · exact ih hid _

variable (h : t.WellLinked) (hroot : ∃ body sourceType, t.kind t.root = .program body sourceType)
include h hroot

theorem exists_reference_iff_initializes (hshape : t.EsTreeShaped) {v : VariableId} {var : Variable}
    (hv : (ofTree t).varAt? v = some var) {id : NodeId} (hid : id ∈ var.identifiers) :
    (∃ r ∈ (ofTree t).referencesOf v, r.identifier = id) ↔ ∃ node, t.Initializes node id := by
  have hidentifier := identifierName?_of_mem_identifiers hv hid
  have hname := usedName?_of_identifierName? hidentifier
  have hrole : t.role id = .binding := by
    refine (Tree.role_eq_binding_iff_declares h hshape hroot (Option.isSome_of_eq_some hidentifier)).2 ?_
    have hbound := (binding?_eq_some_iff h hroot).2 ⟨var, hv, hid⟩
    exact ((isSome_binding?_iff h hroot).1 (Option.isSome_of_eq_some hbound)).2
  rw [← Declaring.mem_initialized_run h hroot]
  constructor
  · rintro ⟨r, hr, rfl⟩
    cases recorded_ofTree (mem_referencesOf_ofTree.1 hr).1 with
    | use _ huse => cases hrole.symm.trans huse
    | init _ _ hinit => exact hinit
  · intro hinit
    obtain ⟨r, hr, rfl⟩ := exists_reference_of_initialized hname hrole hinit
      (h.mem_preorder.2 (lt_size_of_identifierName? (Option.isSome_of_eq_some hidentifier)))
      (Declaring.run t).graph
    refine ⟨r, mem_referencesOf_ofTree.2 ⟨hr, ?_⟩, rfl⟩
    cases recorded_ofTree hr with
    | use _ huse => cases hrole.symm.trans huse
    | init => exact (binding?_eq_some_iff h hroot).2 ⟨var, hv, hid⟩

end ScopeGraph

end ScriptLint
