import ScriptLint.Proofs.Enclosure
import ScriptLint.Rule.ImportShape

/-! Bindings that an import or a pattern takes by name. The name that is imported and the variable
that gets it both stand inside the specifier or the property. -/
namespace ScriptLint

namespace NodeKind

variable {α : Type}

theorem imported_mem_importSpecifier (imported : α) (renamed : Option α) :
    imported ∈ (importSpecifier imported renamed).inReadingOrder := by
  simp only [inReadingOrder_eq, traverse, run_bind_note, run_note, run_optionMapM_note,
    run_pure_note, List.reverse_append]
  simp

theorem bound_mem_importSpecifier (imported : α) (renamed : Option α) :
    renamed.getD imported ∈ (importSpecifier imported renamed).inReadingOrder := by
  simp only [inReadingOrder_eq, traverse, run_bind_note, run_note, run_optionMapM_note,
    run_pure_note, List.reverse_append]
  cases renamed <;> simp

theorem key_mem_property (value key : α) (form : PropertyKind) (computed method : Bool) :
    key ∈ (property value (some key) form computed method).inReadingOrder := by
  simp only [inReadingOrder_eq, traverse, run_bind_note, run_note, run_optionMapM_note,
    run_pure_note, List.reverse_append]
  simp

theorem value_mem_property (value : α) (key : Option α) (form : PropertyKind)
    (computed method : Bool) :
    value ∈ (property value key form computed method).inReadingOrder := by
  simp only [inReadingOrder_eq, traverse, run_bind_note, run_note, run_optionMapM_note,
    run_pure_note, List.reverse_append]
  simp

theorem left_mem_assignmentPattern (left right : α) :
    left ∈ (assignmentPattern left right).inReadingOrder := by
  simp only [inReadingOrder_eq, traverse, run_bind_note, run_note, run_pure_note]
  simp

end NodeKind

namespace Tree

variable {t : Tree}

theorem keyOf_cases (value : NodeId) :
    t.keyOf value none = value ∨
      ∃ right, t.kind value = .assignmentPattern (t.keyOf value none) right := by
  unfold keyOf
  cases t.kind value <;> simp

def importedNode (t : Tree) (node : NodeId) : NodeId :=
  match t.kind node with
  | .importSpecifier imported _ => imported
  | .property value key _ _ _ => t.keyOf value key
  | _ => node

variable (h : t.WellLinked)
include h

theorem Under.of_mem {child p : NodeId} (hchild : child ∈ (t.kind p).inReadingOrder) :
    t.Under child p :=
  .single (parent?_of_mem h hchild)

theorem under_left_of_assignmentPattern {value left right : NodeId}
    (hvalue : t.kind value = .assignmentPattern left right) : t.Under left value :=
  .of_mem h (by rw [hvalue]; exact NodeKind.left_mem_assignmentPattern left right)

theorem importedNode_under (node : NodeId) : t.Under (t.importedNode node) node := by
  unfold importedNode
  split
  · rename_i imported renamed hkind
    exact .of_mem h (by rw [hkind]; exact NodeKind.imported_mem_importSpecifier imported renamed)
  · rename_i value key form computed method hkind
    cases key with
    | some key =>
      exact .of_mem h (by rw [hkind]; exact NodeKind.key_mem_property value key form computed method)
    | none =>
      have hvalue : t.Under value node :=
        .of_mem h (by rw [hkind]; exact NodeKind.value_mem_property ..)
      rcases keyOf_cases (t := t) value with hkey | ⟨right, hpattern⟩
      · rwa [hkey]
      · exact (under_left_of_assignmentPattern h hpattern).trans hvalue
  · exact .refl

end Tree

namespace ImportShape

variable {t : Tree} (h : t.WellLinked)
include h

theorem identifier_under_of_addSpecifier {shape shape' : Shape} {specifier : NodeId}
    (hshape : ∀ b ∈ shape.named, t.Under b.identifier b.node)
    (hadd : addSpecifier t shape specifier = some shape') :
    ∀ b ∈ shape'.named, t.Under b.identifier b.node := by
  unfold addSpecifier at hadd
  split at hadd
  · cases hadd
    exact hshape
  · cases hadd
    exact hshape
  · rename_i imported renamed hkind
    obtain ⟨name, -, rfl⟩ := Option.map_eq_some_iff.1 hadd
    intro b hb
    rcases List.mem_append.1 hb with hb | hb
    · exact hshape b hb
    · rw [List.mem_singleton.1 hb]
      exact .of_mem h (by rw [hkind]; exact NodeKind.bound_mem_importSpecifier imported renamed)
  · cases hadd
    exact hshape

theorem identifier_under_of_foldlM {specifiers : List NodeId} {shape shape' : Shape}
    (hshape : ∀ b ∈ shape.named, t.Under b.identifier b.node)
    (hfold : specifiers.foldlM (addSpecifier t) shape = some shape') :
    ∀ b ∈ shape'.named, t.Under b.identifier b.node := by
  induction specifiers generalizing shape with
  | nil =>
    cases hfold
    exact hshape
  | cons specifier specifiers ih =>
    rw [List.foldlM_cons] at hfold
    obtain ⟨next, hnext, hfold⟩ := Option.bind_eq_some_iff.1 hfold
    exact ih (identifier_under_of_addSpecifier h hshape hnext) hfold

theorem identifier_under_of_propertyBinding? {property : NodeId} {b : NamedBinding}
    (hb : propertyBinding? t property = some b) : t.Under b.identifier b.node := by
  unfold propertyBinding? at hb
  split at hb
  · rename_i value key form method hkind
    have hvalue : t.Under value property :=
      .of_mem h (by rw [hkind]; exact NodeKind.value_mem_property ..)
    simp only [Option.bind_eq_bind, Option.bind_eq_some_iff] at hb
    obtain ⟨imported, -, hb⟩ := hb
    split at hb
    · rename_i left right hpattern
      split at hb
      · cases hb
        exact (Tree.under_left_of_assignmentPattern h hpattern).trans hvalue
      · cases hb
    · split at hb
      · cases hb
        exact hvalue
      · cases hb
  · cases hb

theorem identifier_under_of_shape? {id : NodeId} {shape : Shape} (hshape : shape? t id = some shape) :
    ∀ b ∈ shape.named, t.Under b.identifier b.node := by
  unfold shape? at hshape
  split at hshape
  · cases hshape
  · exact identifier_under_of_foldlM h (by simp) hshape
  · split at hshape
    · cases hshape
      simp
    · cases hshape
      intro b hb
      obtain ⟨property, -, hb⟩ := List.mem_filterMap.1 hb
      exact identifier_under_of_propertyBinding? h hb
    · cases hshape
  · cases hshape

end ImportShape

end ScriptLint
