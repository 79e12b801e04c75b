import ScriptLint.Proofs.LoaderRun

/-! Loaded trees are trees: links go both ways, every node but the root has one parent, which has a
greater number. -/
namespace ScriptLint

namespace Tree

structure WellLinked (t : Tree) : Prop where
  root_eq : t.root + 1 = t.size
  size_children : t.children.size = t.size
  parent?_iff : ∀ child p : Nat, t.parent? child = some p ↔ child ∈ t.childrenOf p
  perm : ∀ p : Nat, (t.childrenOf p).Perm (t.kind p).inReadingOrder
  nodup : ∀ p : Nat, (t.childrenOf p).Nodup
  below : ∀ p child : Nat, child ∈ t.childrenOf p → child < p
  /-- Only the root has no parent. -/
  covered : ∀ id : Nat, id < t.size → id = t.root ∨ ∃ p, id ∈ t.childrenOf p
  root_free : ∀ p : Nat, t.root ∉ t.childrenOf p

theorem dedupNeighbours_of_nodup {ids : List NodeId} (h : ids.Nodup) : dedupNeighbours ids = ids := by
  fun_induction dedupNeighbours ids with
  | case1 b ids ih => simp at h
  | case2 a b ids hne ih => rw [ih (List.nodup_cons.1 h).2]
  | case3 ids hshort => rfl

theorem sortedChildren_perm (nodes : Array Node) {kind : NodeKind NodeId}
    (h : kind.inReadingOrder.Nodup) : (sortedChildren nodes kind).Perm kind.inReadingOrder := by
  have hsorted := (List.mergeSort_perm kind.children
    (fun a b => sortKey nodes a ≤ sortKey nodes b)).trans kind.children_perm_inReadingOrder
  unfold sortedChildren
  rwa [dedupNeighbours_of_nodup (hsorted.nodup_iff.2 h)]

end Tree

namespace Loader

variable {nodes : Array Node}

theorem mem_named {id : NodeId} :
    id ∈ named nodes ↔ ∃ (p : Nat) (node : Node), nodes[p]? = some node ∧ id ∈ node.kind.inReadingOrder := by
  simp only [named, List.mem_flatMap, Array.mem_toList_iff, Array.mem_iff_getElem?]
  constructor
  · rintro ⟨node, ⟨p, hp⟩, hid⟩
    exact ⟨p, node, hp, hid⟩
  · rintro ⟨p, node, hp, hid⟩
    exact ⟨node, ⟨p, hp⟩, hid⟩

theorem Numbered.nodup_named (h : Numbered nodes) : (named nodes ++ [nodes.size - 1]).Nodup :=
  h.once.nodup_iff.2 List.nodup_range

theorem Numbered.nodup_children (h : Numbered nodes) (p : Nat) :
    (nodes[p]?.getD Node.missing).kind.inReadingOrder.Nodup := by
  cases hp : nodes[p]? with
  | none => exact List.nodup_nil
  | some node =>
    have hnamed := (List.nodup_append.1 h.nodup_named).1
    exact (List.pairwise_flatMap.1 hnamed).1 node (Array.mem_toList_iff.2 (Array.mem_of_getElem? hp))

theorem Numbered.size_pos (h : Numbered nodes) : 0 < nodes.size := by
  have := h.once.length_eq
  simp only [List.length_append, List.length_range, List.length_singleton] at this
  omega

end Loader

namespace Tree

variable {nodes : Array Node}

theorem sortedIn_perm (h : Loader.Numbered nodes) (p : Nat) :
    (sortedIn nodes p).Perm (nodes[p]?.getD Node.missing).kind.inReadingOrder :=
  sortedChildren_perm nodes (h.nodup_children p)

theorem mem_sortedIn (h : Loader.Numbered nodes) {p child : Nat} :
    child ∈ sortedIn nodes p ↔
      ∃ node, nodes[p]? = some node ∧ child ∈ node.kind.inReadingOrder := by
  rw [(sortedIn_perm h p).mem_iff]
  cases nodes[p]? with
  | none => simp [Node.missing, NodeKind.inReadingOrder_other]
  | some node => simp

theorem getD_children (h : Loader.Numbered nodes) {links : Links}
    (hlinks : LinkedUpTo nodes nodes.size links) (p : Nat) :
    (links.children[p]?).getD [] = sortedIn nodes p := by
  by_cases hp : p < nodes.size
  · rw [hlinks.children p hp]
    rfl
  · have hnone : nodes[p]? = none := Array.getElem?_eq_none (by omega)
    have hempty := sortedIn_perm h p
    rw [hnone] at hempty
    rw [Array.getElem?_eq_none (by rw [hlinks.size_children]; omega), hempty.eq_nil]
    rfl

theorem wellLinked_of_numbered {t : Tree} (h : Loader.Numbered nodes)
    (ht : ofNodes nodes (nodes.size - 1) = .ok t) : t.WellLinked := by
  obtain ⟨links, hlinks, rfl⟩ := ofNodes_eq_ok ht
  have hpos := h.size_pos
  have hchildren := getD_children h hlinks
  refine ⟨?_, hlinks.size_children, ?_, ?_, ?_, ?_, ?_, ?_⟩
  · change nodes.size - 1 + 1 = nodes.size
    omega
  · intro child p
    change (links.parents[child]?).join = some p ↔ child ∈ (links.children[p]?).getD []
    rw [hchildren p, Option.join_eq_some_iff, hlinks.parents]
    constructor
    · exact And.right
    · intro hchild
      obtain ⟨node, hnode, -⟩ := (mem_sortedIn h).1 hchild
      exact ⟨(Array.getElem?_eq_some_iff.1 hnode).1, hchild⟩
  · intro p
    change ((links.children[p]?).getD []).Perm _
    rw [hchildren p]
    exact sortedIn_perm h p
  · intro p
    change ((links.children[p]?).getD []).Nodup
    rw [hchildren p]
    exact (sortedIn_perm h p).nodup_iff.2 (h.nodup_children p)
  · intro p child hchild
    change child ∈ (links.children[p]?).getD [] at hchild
    rw [hchildren p] at hchild
    obtain ⟨node, hnode, hin⟩ := (mem_sortedIn h).1 hchild
    exact h.below p node hnode child hin
  · intro id hid
    have hin := h.once.mem_iff.2 (List.mem_range.2 hid)
    rcases List.mem_append.1 hin with hin | hin
    · obtain ⟨p, hin⟩ := Loader.mem_named.1 hin
      refine .inr ⟨p, ?_⟩
      change id ∈ (links.children[p]?).getD []
      rw [hchildren p]
      exact (mem_sortedIn h).2 hin
    · exact .inl (List.mem_singleton.1 hin)
  · intro p hroot
    change nodes.size - 1 ∈ (links.children[p]?).getD [] at hroot
    rw [hchildren p] at hroot
    have hnamed := Loader.mem_named.2 ⟨p, (mem_sortedIn h).1 hroot⟩
    exact (List.nodup_append.1 h.nodup_named).2.2 _ hnamed _ (by simp) rfl

end Tree

theorem Source.wellLinked_of_ofDocument {path : String} {text : Text} {doc : Json} {s : Source}
    (h : ofDocument path text doc = .ok s) : s.tree.WellLinked := by
  obtain ⟨nodes, tree, hnodes, htree, rfl⟩ := ofDocument_eq_ok h
  exact Tree.wellLinked_of_numbered (Loader.numbered_of_load hnodes) htree

end ScriptLint
