import ScriptLint.Proofs.DeclaringSteps
import ScriptLint.Proofs.LoadedTree

/-! The identifiers of a binding pattern. The collection goes down from the pattern; what it finds
are the identifiers from which one climbs, part by part, up to the pattern. -/
namespace ScriptLint

namespace NodeKind

variable {α : Type}

theorem inReadingOrder_objectPattern (properties : List α) :
    (objectPattern properties).inReadingOrder = properties := by
  simp only [inReadingOrder_eq, traverse, run_bind_note, run_mapM_note, run_pure_note,
    List.append_nil, List.reverse_reverse]

theorem inReadingOrder_arrayPattern (elements : List (Option α)) :
    (arrayPattern elements).inReadingOrder = elements.flatMap Option.toList := by
  simp only [inReadingOrder_eq, traverse, run_bind_note, run_holes_note, run_pure_note,
    List.append_nil, List.reverse_reverse]

theorem inReadingOrder_property (value : α) (key : Option α) (kind : PropertyKind)
    (computed method : Bool) :
    (property value key kind computed method).inReadingOrder = value :: key.toList := by
  cases key <;> rfl

end NodeKind

namespace Tree

variable {t : Tree}

theorem kind_of_size_le {id : NodeId} (h : t.size ≤ id) : t.kind id = .other "" [] := by
  simp [kind, node, Array.getElem?_eq_none h, Node.missing]

def IsPart (t : Tree) (part pattern : NodeId) : Prop := part ∈ t.patternParts pattern

abbrev InPattern (t : Tree) : NodeId → NodeId → Prop := Relation.ReflTransGen t.IsPart

/-- A pattern binds the identifiers that stand in it. -/
structure Binds (t : Tree) (pattern id : NodeId) : Prop where
  identifier : (t.identifierName? id).isSome
  climbs : t.InPattern id pattern

theorem patternParts_sublist (t : Tree) (id : NodeId) :
    (t.patternParts id).Sublist (t.kind id).inReadingOrder := by
  unfold patternParts
  split
  · rename_i properties hkind
    rw [hkind, NodeKind.inReadingOrder_objectPattern]
  · rename_i value key kind computed method hkind
    rw [hkind, NodeKind.inReadingOrder_property]
    exact (List.nil_sublist _).cons_cons value
  · rename_i elements hkind
    rw [hkind, NodeKind.inReadingOrder_arrayPattern, List.filterMap_eq_flatMap_toList]
  · rename_i argument hkind
    rw [hkind]
    exact List.Sublist.refl [argument]
  · rename_i left right hkind
    rw [hkind]
    exact (List.nil_sublist [right]).cons_cons left
  · exact List.nil_sublist _

theorem patternParts_of_identifier {id : NodeId} (h : (t.identifierName? id).isSome) :
    t.patternParts id = [] := by
  unfold identifierName? at h
  split at h
  · rename_i hkind
    simp only [patternParts, hkind]
  · simp at h

theorem IsPart.mem_childrenOf (h : t.WellLinked) {part pattern : NodeId}
    (hpart : t.IsPart part pattern) : part ∈ t.childrenOf pattern :=
  (h.perm pattern).symm.subset ((t.patternParts_sublist pattern).subset hpart)

theorem IsPart.parent (h : t.WellLinked) {part pattern : NodeId} (hpart : t.IsPart part pattern) :
    t.parent? part = some pattern :=
  (h.parent?_iff part pattern).2 (hpart.mem_childrenOf h)

theorem nodup_patternParts (h : t.WellLinked) (id : NodeId) : (t.patternParts id).Nodup :=
  (t.patternParts_sublist id).nodup ((h.perm id).nodup_iff.1 (h.nodup id))

theorem InPattern.total (h : t.WellLinked) {id p q : NodeId} (hp : t.InPattern id p)
    (hq : t.InPattern id q) : t.InPattern p q ∨ t.InPattern q p := by
  refine Relation.ReflTransGen.total_of_right_unique ?_ hp hq
  intro part a b ha hb
  exact Option.some.inj ((ha.parent h).symm.trans (hb.parent h))

/-- What a collection may still meet: all that is on its stack, and their parts, but nothing twice. -/
structure Pool (t : Tree) (pool : Finset NodeId) (stack : List NodeId) : Prop where
  nodup : stack.Nodup
  subset : ∀ id ∈ stack, id ∈ pool
  closed : ∀ id ∈ pool, ∀ part, t.IsPart part id → part ∈ pool
  free : ∀ id ∈ pool, ∀ part, t.IsPart part id → part ∉ stack

theorem pool_of_lt (h : t.WellLinked) (pattern : NodeId) :
    t.Pool (Finset.range (pattern + 1)) [pattern] := by
  refine ⟨List.nodup_singleton _, by simp, ?_, ?_⟩
  · intro id hid part hpart
    have := h.below id part (hpart.mem_childrenOf h)
    simp only [Finset.mem_range] at hid ⊢
    omega
  · intro id hid part hpart hmem
    have := h.below id part (hpart.mem_childrenOf h)
    cases List.mem_singleton.1 hmem
    have := Finset.mem_range.1 hid
    omega

theorem Pool.next (h : t.WellLinked) {pool : Finset NodeId} {top : NodeId} {stack : List NodeId}
    (hpool : t.Pool pool (top :: stack)) :
    t.Pool (pool.erase top) ((t.patternParts top).reverse ++ stack) := by
  obtain ⟨htop, hstack⟩ := List.nodup_cons.1 hpool.nodup
  have hin : top ∈ pool := hpool.subset top List.mem_cons_self
  have hfree {id part : NodeId} (hid : id ∈ pool) (hpart : t.IsPart part id) :
      part ≠ top ∧ part ∉ stack := by
    have := hpool.free id hid part hpart
    rwa [List.mem_cons, not_or] at this
  refine ⟨?_, ?_, ?_, ?_⟩
  · refine List.nodup_append.2 ⟨List.nodup_reverse.2 (nodup_patternParts h top), hstack, ?_⟩
    rintro part hpart id hid rfl
    exact (hfree hin (List.mem_reverse.1 hpart)).2 hid
  · intro id hid
    rcases List.mem_append.1 hid with hid | hrest
    · have hpart : t.IsPart id top := List.mem_reverse.1 hid
      exact Finset.mem_erase.2 ⟨(hfree hin hpart).1, hpool.closed top hin id hpart⟩
    · refine Finset.mem_erase.2 ⟨?_, hpool.subset id (List.mem_cons_of_mem _ hrest)⟩
      rintro rfl
      exact htop hrest
  · intro id hid part hpart
    have hid := Finset.mem_of_mem_erase hid
    exact Finset.mem_erase.2 ⟨(hfree hid hpart).1, hpool.closed id hid part hpart⟩
  · intro id hid part hpart hmem
    obtain ⟨hne, hid⟩ := Finset.mem_erase.1 hid
    rcases List.mem_append.1 hmem with hmem | hmem
    · have hother : t.IsPart part top := List.mem_reverse.1 hmem
      exact hne (Option.some.inj ((hpart.parent h).symm.trans (hother.parent h)))
    · exact (hfree hid hpart).2 hmem

theorem inPattern_cons {id top : NodeId} {stack : List NodeId} :
    (∃ p ∈ top :: stack, t.InPattern id p) ↔
      id = top ∨ ∃ p ∈ (t.patternParts top).reverse ++ stack, t.InPattern id p := by
  have hstep : t.InPattern id top ↔ id = top ∨ ∃ p ∈ t.patternParts top, t.InPattern id p := by
    rw [InPattern, Relation.ReflTransGen.cases_tail_iff, eq_comm]
    simp only [IsPart, and_comm]
  simp only [List.mem_cons, List.mem_append, List.mem_reverse, or_and_right, exists_or,
    exists_eq_left, hstep, or_assoc]

/-- With a visit for each node it may meet, a collection finds all there is, each once. -/
theorem collectBindings_spec (h : t.WellLinked) {fuel : Nat} {stack : List NodeId}
    {pool : Finset NodeId} (hpool : t.Pool pool stack) (hfuel : pool.card ≤ fuel) :
    (t.collectBindings fuel stack).Nodup ∧
      (∀ id ∈ t.collectBindings fuel stack, id ∈ pool) ∧
      ∀ id, id ∈ t.collectBindings fuel stack ↔
        (t.identifierName? id).isSome ∧ ∃ p ∈ stack, t.InPattern id p := by
  fun_induction collectBindings t fuel stack generalizing pool with
  | case1 stack =>
    have hempty : pool = ∅ := Finset.card_eq_zero.1 (Nat.le_zero.1 hfuel)
    have hnil : stack = [] := by
      refine List.eq_nil_iff_forall_not_mem.2 fun id hid => ?_
      simpa [hempty] using hpool.subset id hid
    simp [hnil]
  | case2 => simp
  | case3 fuel top stack name ann opt hkind ih =>
    have hname : (t.identifierName? top).isSome := by
      simp only [identifierName?, hkind, Option.isSome_some]
    have hparts := patternParts_of_identifier hname
    have hnext := hpool.next h
    have hin : top ∈ pool := hpool.subset top List.mem_cons_self
    rw [hparts, List.reverse_nil, List.nil_append] at hnext
    obtain ⟨hnodup, hsub, hmem⟩ := ih hnext (by rw [Finset.card_erase_of_mem hin]; omega)
    refine ⟨List.nodup_cons.2 ⟨?_, hnodup⟩, ?_, ?_⟩
    · intro hagain
      exact Finset.notMem_erase top pool (hsub top hagain)
    · intro id hid
      rcases List.mem_cons.1 hid with rfl | hid
      · exact hin
      · exact Finset.mem_of_mem_erase (hsub id hid)
    · intro id
      rw [List.mem_cons, hmem, inPattern_cons, hparts, List.reverse_nil, List.nil_append]
      constructor
      · rintro (rfl | ⟨hid, hclimbs⟩)
        · exact ⟨hname, .inl rfl⟩
        · exact ⟨hid, .inr hclimbs⟩
      · rintro ⟨hid, rfl | hclimbs⟩
        · exact .inl rfl
        · exact .inr ⟨hid, hclimbs⟩
  | case4 fuel top stack hkind ih =>
    have hname : ¬(t.identifierName? top).isSome := by
      unfold identifierName?
      split
      · rename_i name ann opt hident
        exact absurd hident (hkind name ann opt)
      · simp
    have hin : top ∈ pool := hpool.subset top List.mem_cons_self
    obtain ⟨hnodup, hsub, hmem⟩ :=
      ih (hpool.next h) (by rw [Finset.card_erase_of_mem hin]; omega)
    refine ⟨hnodup, fun id hid => Finset.mem_of_mem_erase (hsub id hid), ?_⟩
    intro id
    rw [hmem, inPattern_cons]
    constructor
    · rintro ⟨hid, hclimbs⟩
      exact ⟨hid, .inr hclimbs⟩
    · rintro ⟨hid, rfl | hclimbs⟩
      · exact absurd hid hname
      · exact ⟨hid, hclimbs⟩

theorem bindingIdentifiers_spec (h : t.WellLinked) {pattern : NodeId} (hlt : pattern < t.size) :
    (t.bindingIdentifiers pattern).Nodup ∧
      ∀ id, id ∈ t.bindingIdentifiers pattern ↔ t.Binds pattern id := by
  have hfuel : (Finset.range (pattern + 1)).card ≤ t.size := by
    rw [Finset.card_range]
    exact hlt
  obtain ⟨hnodup, -, hmem⟩ := collectBindings_spec h (pool_of_lt h pattern) hfuel
  refine ⟨(List.mergeSort_perm _ _).nodup_iff.2 hnodup, ?_⟩
  intro id
  rw [bindingIdentifiers, List.mem_mergeSort, hmem]
  simp only [List.mem_singleton, exists_eq_left]
  exact ⟨fun ⟨hid, hclimbs⟩ => ⟨hid, hclimbs⟩, fun ⟨hid, hclimbs⟩ => ⟨hid, hclimbs⟩⟩

end Tree

end ScriptLint
