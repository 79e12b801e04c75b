import ScriptLint.Proofs.ChildDocuments

/-! Loading by recursion on the document: the children of a node are loaded from the last to the
first, and then the node gets the next number. Every number that was given out is named by a node
behind its own, once, or is still free. -/
namespace ScriptLint.Loader

open Document (total total_inReadingOrder_lt)

variable {t : Text}

theorem count_pos (doc : Json) : 0 < doc.count := by
  cases doc <;> simp only [Json.count] <;> omega

mutual

/-- Checks the span of a node and reads its members, loads its children and then adds the node. -/
def loadNode (t : Text) (arena : Array Node) : Json → Except LoadError (Array Node)
  | .obj o => do
    let span ← Document.nodeSpan t o
    match _hkind : Document.kind t o (Document.typeOf o) with
    | .error e => .error e
    | .ok kind =>
      let (arena, ids) ← loadChildren t arena kind.inReadingOrder
      return arena.push ⟨kind.number ids, span⟩
  | _ => .error .notANode
termination_by doc => 2 * doc.count
decreasing_by
  have := total_inReadingOrder_lt _hkind
  omega

/-- Loads children from the last to the first, and gives their numbers in reading order. -/
def loadChildren (t : Text) (arena : Array Node) :
    List Json → Except LoadError (Array Node × List NodeId)
  | [] => return (arena, [])
  | doc :: docs => do
    let (arena, ids) ← loadChildren t arena docs
    let arena ← loadNode t arena doc
    return (arena, (arena.size - 1) :: ids)
termination_by docs => 2 * total docs + 1
decreasing_by
  · have := count_pos doc
    simp only [Document.total_cons]
    omega
  · simp only [Document.total_cons]
    omega

end

theorem loadNode_obj (t : Text) (arena : Array Node) (o : Json.Object) :
    loadNode t arena (.obj o) = (do
      let span ← Document.nodeSpan t o
      let kind ← Document.kind t o (Document.typeOf o)
      let (arena, ids) ← loadChildren t arena kind.inReadingOrder
      return arena.push ⟨kind.number ids, span⟩) := by
  rw [loadNode]
  congr 1
  funext span
  cases Document.kind t o (Document.typeOf o) <;> rfl

theorem count_lt_of_mem {o : Json.Object} {ty : String} {kind : NodeKind Json}
    (h : Document.kind t o ty = .ok kind) {doc : Json} (hdoc : doc ∈ kind.inReadingOrder) :
    doc.count < (Json.obj o).count := by
  have hle := List.single_le_sum (by simp) _ (List.mem_map_of_mem (f := Json.count) hdoc)
  have hlt := total_inReadingOrder_lt h
  unfold total at hlt
  omega

section Induction

variable {P : Array Node → Json → Array Node → Prop}
  {Q : Array Node → List Json → Array Node → List NodeId → Prop}

theorem loadChildren_induction (hnil : ∀ arena, Q arena [] arena [])
    (hcons : ∀ {arena doc docs mid ids arena'}, Q arena docs mid ids →
      P mid doc arena' → Q arena (doc :: docs) arena' ((arena'.size - 1) :: ids))
    {docs : List Json}
    (hdocs : ∀ doc ∈ docs, ∀ arena arena', loadNode t arena doc = .ok arena' → P arena doc arena')
    {arena mid : Array Node} {ids : List NodeId}
    (h : loadChildren t arena docs = .ok (mid, ids)) : Q arena docs mid ids := by
  induction docs generalizing mid ids with
  | nil =>
    rw [loadChildren] at h
    cases h
    exact hnil arena
  | cons doc docs ih =>
    rw [loadChildren] at h
    obtain ⟨⟨before, ids'⟩, hrest, h⟩ := bind_eq_ok.1 h
    obtain ⟨last, hdoc, h⟩ := bind_eq_ok.1 h
    cases h
    rw [List.forall_mem_cons] at hdocs
    exact hcons (ih hdocs.2 hrest) (hdocs.1 _ _ hdoc)

/-- What holds of the empty list of children, of a list if it holds of its tail and of its head, and
of a node if it holds of its children, holds of every node that is loaded. -/
theorem loadNode_induction
    (hnode : ∀ {arena o span kind mid ids}, Document.nodeSpan t o = .ok span →
      Document.kind t o (Document.typeOf o) = .ok kind →
      Q arena kind.inReadingOrder mid ids →
      P arena (.obj o) (mid.push ⟨kind.number ids, span⟩))
    (hnil : ∀ arena, Q arena [] arena [])
    (hcons : ∀ {arena doc docs mid ids arena'}, Q arena docs mid ids →
      P mid doc arena' → Q arena (doc :: docs) arena' ((arena'.size - 1) :: ids))
    {doc : Json} {arena arena' : Array Node} (h : loadNode t arena doc = .ok arena') :
    P arena doc arena' := by
  induction hcount : doc.count using Nat.strongRecOn generalizing doc arena arena' with
  | _ n ih =>
    cases doc with
    | obj o =>
      rw [loadNode_obj] at h
      obtain ⟨span, hspan, h⟩ := bind_eq_ok.1 h
      obtain ⟨kind, hkind, h⟩ := bind_eq_ok.1 h
      obtain ⟨⟨mid, ids⟩, hchildren, h⟩ := bind_eq_ok.1 h
      cases h
      refine hnode hspan hkind (loadChildren_induction hnil hcons ?_ hchildren)
      intro doc hdoc arena arena' hload
      exact ih doc.count (hcount ▸ count_lt_of_mem hkind hdoc) hload rfl
    | _ => simp [loadNode] at h

end Induction

def named (arena : Array Node) : List NodeId := arena.toList.flatMap fun n => n.kind.inReadingOrder

theorem named_push (arena : Array Node) (n : Node) :
    named (arena.push n) = named arena ++ n.kind.inReadingOrder := by
  simp [named]

/-- Every number is named once, by a node with a greater number, or it is free. -/
structure Accounted (arena : Array Node) (free : List NodeId) : Prop where
  once : (named arena ++ free).Perm (List.range arena.size)
  below : ∀ (id : Nat) (node : Node), arena[id]? = some node →
    ∀ child ∈ node.kind.inReadingOrder, child < id

theorem Accounted.push {arena : Array Node} {ids free : List NodeId} {kind : NodeKind NodeId}
    (h : Accounted arena (ids ++ free)) (hkind : kind.inReadingOrder = ids) (span : Span) :
    Accounted (arena.push ⟨kind, span⟩) (arena.size :: free) := by
  refine ⟨?_, fun id node hnode child hchild => ?_⟩
  · rw [named_push, hkind, Array.size_push, List.range_succ]
    refine List.Perm.trans ?_ (h.once.append_right [arena.size])
    rw [List.append_assoc, List.append_assoc, List.append_assoc]
    refine List.Perm.append_left _ (List.Perm.append_left _ ?_)
    exact (List.perm_append_singleton _ _).symm
  · rw [Array.getElem?_push] at hnode
    split at hnode
    · rename_i hid
      cases hnode
      rw [hkind] at hchild
      rw [hid]
      exact List.mem_range.1 (h.once.subset (by simp [hchild]))
    · exact h.below id node hnode child hchild

theorem Accounted.loadNode {arena arena' : Array Node} {doc : Json} {free : List NodeId}
    (harena : Accounted arena free) (h : loadNode t arena doc = .ok arena') :
    Accounted arena' ((arena'.size - 1) :: free) := by
  refine loadNode_induction (t := t)
    (P := fun arena _ arena' =>
      ∀ free, Accounted arena free → Accounted arena' ((arena'.size - 1) :: free))
    (Q := fun arena docs mid ids => ids.length = docs.length ∧
      ∀ free, Accounted arena free → Accounted mid (ids ++ free)) ?_ ?_ ?_ h free harena
  · intro arena o span kind mid ids _ _ hchildren free harena
    rw [Array.size_push, Nat.add_sub_cancel]
    exact (hchildren.2 free harena).push (NodeKind.inReadingOrder_number hchildren.1) span
  · intro arena
    exact ⟨rfl, fun free harena => harena⟩
  · intro arena doc docs mid ids arena' hdocs hdoc
    refine ⟨by simp [hdocs.1], fun free harena => ?_⟩
    exact hdoc _ (hdocs.2 free harena)

/-- Nodes numbered from the leaves up: every number but the last one is named as a child once, and
by a node with a greater number. -/
structure Numbered (nodes : Array Node) : Prop where
  once : (named nodes ++ [nodes.size - 1]).Perm (List.range nodes.size)
  below : ∀ (id : Nat) (node : Node), nodes[id]? = some node →
    ∀ child ∈ node.kind.inReadingOrder, child < id

theorem numbered_of_loadNode {doc : Json} {nodes : Array Node}
    (h : loadNode t #[] doc = .ok nodes) : Numbered nodes := by
  have hnone : Accounted #[] [] := ⟨by simp [named], by simp⟩
  have hnodes := hnone.loadNode h
  exact ⟨hnodes.once, hnodes.below⟩

end ScriptLint.Loader
