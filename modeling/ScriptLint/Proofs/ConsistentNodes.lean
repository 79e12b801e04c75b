import ScriptLint.Proofs.Enclosure
import ScriptLint.Proofs.StableSorting

/-! Which lists of nodes make a tree. Children are sorted by their starts, and then only neighbours
are compared; where spans are not empty this finds the same faults as a look at all pairs of children
does. So whether a list is accepted can be said without an order, and does not depend on one. -/
namespace ScriptLint.Tree

variable {nodes : Array Node}

abbrev listed (nodes : Array Node) (id : NodeId) : List NodeId :=
  (nodes[id]?.getD Node.missing).kind.children

/-- Every child is a node, has one parent and lies inside it, apart from the other children. -/
structure Consistent (nodes : Array Node) : Prop where
  known : ∀ p, ∀ child ∈ listed nodes p, child < nodes.size
  single : ∀ p q child, child ∈ listed nodes p → child ∈ listed nodes q → p = q
  inside : ∀ p, ∀ child ∈ listed nodes p,
    (spanIn nodes p).contains (spanIn nodes child) = true
  apart : ∀ p, ∀ a ∈ listed nodes p, ∀ b ∈ listed nodes p, a ≠ b →
    (spanIn nodes a).stop ≤ (spanIn nodes b).start ∨ (spanIn nodes b).stop ≤ (spanIn nodes a).start

/-! Sorting and dropping repetitions. -/

theorem listed_of_size_le {id : Nat} (h : nodes.size ≤ id) : listed nodes id = [] := by
  rw [listed, Array.getElem?_eq_none h]
  rfl

theorem mem_sortedIn_iff {p child : NodeId} :
    child ∈ sortedIn nodes p ↔ child ∈ listed nodes p := by
  rw [sortedIn, sortedChildren, mem_dedupNeighbours, List.mem_mergeSort]

theorem sortKey_eq {id : Nat} (h : id < nodes.size) :
    sortKey nodes id = (spanIn nodes id).start + 1 := by
  rw [sortKey, spanIn, Array.getElem?_eq_getElem h]
  rfl

theorem firstOverlap_eq_none {ids : List NodeId}
    (h : ids.Pairwise fun a b => (spanIn nodes a).stop ≤ (spanIn nodes b).start) :
    firstOverlap nodes ids = none := by
  fun_induction firstOverlap nodes ids with
  | case1 a b ids first second hlt =>
    exact absurd hlt (Nat.not_lt.2 (List.rel_of_pairwise_cons h List.mem_cons_self))
  | case2 a b ids first second hlt ih => exact ih h.tail
  | case3 ids hshort => rfl

section Nonempty

variable (hspans : ∀ node ∈ nodes, node.span.start < node.span.stop)
include hspans

theorem start_lt_stop {id : Nat} (h : id < nodes.size) :
    (spanIn nodes id).start < (spanIn nodes id).stop := by
  rw [spanIn, Array.getElem?_eq_getElem h]
  exact hspans _ (Array.getElem_mem h)

theorem start_le_stop (id : NodeId) : (spanIn nodes id).start ≤ (spanIn nodes id).stop := by
  rcases Nat.lt_or_ge id nodes.size with h | h
  · exact Nat.le_of_lt (start_lt_stop hspans h)
  · rw [spanIn, Array.getElem?_eq_none h]
    exact Nat.le_refl _

theorem Consistent.pairwise_sortedIn (h : Consistent nodes) (p : NodeId) :
    (sortedIn nodes p).Pairwise fun a b => (spanIn nodes a).stop ≤ (spanIn nodes b).start := by
  have hsorted : (sortedIn nodes p).Pairwise fun a b => sortKey nodes a < sortKey nodes b := by
    refine pairwise_dedupNeighbours (sortKey nodes) ?_ fun a ha b hb hab => ?_
    · exact pairwise_mergeSort_key (sortKey nodes) _
    · rw [List.mem_mergeSort] at ha hb
      have hpositive := start_lt_stop hspans (h.known p a ha)
      have hpositive' := start_lt_stop hspans (h.known p b hb)
      have hapart := h.apart p a ha b hb hab
      rw [sortKey_eq (h.known p a ha), sortKey_eq (h.known p b hb)]
      omega
  refine hsorted.imp_of_mem fun {a b} ha hb hlt => ?_
  rw [mem_sortedIn_iff] at ha hb
  rw [sortKey_eq (h.known p a ha), sortKey_eq (h.known p b hb)] at hlt
  have hpositive := start_lt_stop hspans (h.known p b hb)
  have hapart := h.apart p a ha b hb (by rintro rfl; omega)
  omega

end Nonempty

/-! Linking. -/

variable {parents : Array (Option NodeId)}

theorem exists_linkChild_eq_ok {parent child : NodeId} (hchild : child < nodes.size)
    (hfree : ∀ other, parents[child]? = some (some other) → other = parent)
    (hinside : (spanIn nodes parent).contains (spanIn nodes child) = true) :
    linkChild nodes parent parents child = .ok (parents.setIfInBounds child (some parent)) := by
  have hnode := Array.getElem?_eq_getElem hchild
  rw [spanIn, spanIn, hnode, Option.getD_some] at hinside
  unfold linkChild
  rw [hnode]
  dsimp only
  rw [if_neg, if_pos hinside]
  split
  · rename_i other hother
    simp [hfree other hother]
  · exact Bool.false_ne_true

theorem exists_foldlM_linkChild_eq_ok {parent : NodeId} {ids : List NodeId}
    (hknown : ∀ child ∈ ids, child < nodes.size)
    (hfree : ∀ child ∈ ids, ∀ other, parents[child]? = some (some other) → other = parent)
    (hinside : ∀ child ∈ ids, (spanIn nodes parent).contains (spanIn nodes child) = true) :
    ∃ parents', ids.foldlM (linkChild nodes parent) parents = .ok parents' := by
  induction ids generalizing parents with
  | nil => exact ⟨parents, rfl⟩
  | cons id ids ih =>
    have hlink := exists_linkChild_eq_ok (hknown id List.mem_cons_self)
      (hfree id List.mem_cons_self) (hinside id List.mem_cons_self)
    rw [List.foldlM_cons, hlink]
    refine ih (fun child hchild => hknown child (List.mem_cons_of_mem _ hchild)) ?_
      fun child hchild => hinside child (List.mem_cons_of_mem _ hchild)
    intro child hchild other hother
    rw [Array.getElem?_setIfInBounds] at hother
    split at hother
    · split at hother
      · exact (Option.some.inj (Option.some.inj hother)).symm
      · cases hother
    · exact hfree child (List.mem_cons_of_mem _ hchild) other hother

section Nonempty

variable (hspans : ∀ node ∈ nodes, node.span.start < node.span.stop)
include hspans

theorem Consistent.exists_linkNode_eq_ok (h : Consistent nodes) {count : Nat} {links : Links}
    (hlinks : LinkedUpTo nodes count links) :
    ∃ links', linkNode nodes links count = .ok links' := by
  have hlinked : ∃ parents', (sortedIn nodes count).foldlM (linkChild nodes count) links.parents =
      .ok parents' := by
    refine exists_foldlM_linkChild_eq_ok ?_ ?_ ?_
    · exact fun child hchild => h.known count child (mem_sortedIn_iff.1 hchild)
    · intro child hchild other hother
      have hlisted := mem_sortedIn_iff.1 ((hlinks.parents child other).1 hother).2
      exact h.single other count child hlisted (mem_sortedIn_iff.1 hchild)
    · exact fun child hchild => h.inside count child (mem_sortedIn_iff.1 hchild)
  obtain ⟨parents, hparents⟩ := hlinked
  have happart := firstOverlap_eq_none (h.pairwise_sortedIn hspans count)
  refine ⟨⟨links.children.push (sortedIn nodes count), parents⟩, ?_⟩
  refine bind_eq_ok.2 ⟨parents, hparents, ?_⟩
  rw [happart]

theorem Consistent.exists_links (h : Consistent nodes) (count : Nat) :
    ∃ links, (List.range count).foldlM (linkNode nodes) ⟨#[], Array.replicate nodes.size none⟩ =
      .ok links := by
  induction count with
  | zero => exact ⟨_, rfl⟩
  | succ count ih =>
    obtain ⟨links, hlinks⟩ := ih
    obtain ⟨links', hnext⟩ := h.exists_linkNode_eq_ok hspans (linkedUpTo_foldlM hlinks)
    refine ⟨links', ?_⟩
    rw [List.range_succ, List.foldlM_append]
    refine bind_eq_ok.2 ⟨links, hlinks, ?_⟩
    rw [List.foldlM_cons]
    exact bind_eq_ok.2 ⟨links', hnext, rfl⟩

theorem LinkedUpTo.consistent {links : Links} (h : LinkedUpTo nodes nodes.size links) :
    Consistent nodes := by
  have hlt {p child : Nat} (hchild : child ∈ listed nodes p) : p < nodes.size := by
    refine Nat.lt_of_not_le fun hle => ?_
    rw [listed_of_size_le hle] at hchild
    cases hchild
  refine ⟨?_, ?_, ?_, ?_⟩
  · exact fun p child hchild => (h.inside p (hlt hchild) child (mem_sortedIn_iff.2 hchild)).1
  · intro p q child hp hq
    have hfirst := (h.parents child p).2 ⟨hlt hp, mem_sortedIn_iff.2 hp⟩
    have hsecond := (h.parents child q).2 ⟨hlt hq, mem_sortedIn_iff.2 hq⟩
    exact Option.some.inj (Option.some.inj (hfirst.symm.trans hsecond))
  · exact fun p child hchild => (h.inside p (hlt hchild) child (mem_sortedIn_iff.2 hchild)).2
  · intro p a ha b hb hab
    have hpairs := pairwise_of_firstOverlap (start_le_stop hspans) (h.apart p (hlt ha))
    exact pairwise_or hpairs (mem_sortedIn_iff.2 ha) (mem_sortedIn_iff.2 hb) hab

theorem exists_ofNodes_eq_ok_iff {root : NodeId} :
    (∃ t, ofNodes nodes root = .ok t) ↔ Consistent nodes := by
  constructor
  · rintro ⟨t, ht⟩
    obtain ⟨links, hlinks, -⟩ := ofNodes_eq_ok ht
    exact hlinks.consistent hspans
  · intro h
    obtain ⟨links, hlinks⟩ := h.exists_links hspans nodes.size
    exact ⟨_, bind_eq_ok.2 ⟨links, hlinks, rfl⟩⟩

end Nonempty

/-- A tree over some nodes, linked as the nodes say. -/
structure LinkedFrom (t : Tree) (nodes : Array Node) (root : NodeId) : Prop where
  nodes_eq : t.nodes = nodes
  root_eq : t.root = root
  mem_iff : ∀ p child, child ∈ t.childrenOf p ↔ child ∈ listed nodes p
  nodup : ∀ p, (t.childrenOf p).Nodup
  ascending : ∀ p, (t.childrenOf p).Pairwise fun a b => (t.span a).start < (t.span b).start
  parent?_iff : ∀ child p, t.parent? child = some p ↔ child ∈ t.childrenOf p

/-- The same nodes, but for the order in which they list their children. -/
structure Relisted (nodes nodes' : Array Node) : Prop where
  size_eq : nodes'.size = nodes.size
  span_eq : ∀ id, spanIn nodes' id = spanIn nodes id
  perm : ∀ id, (listed nodes' id).Perm (listed nodes id)

section Relisted

variable {nodes' : Array Node} (h : Relisted nodes nodes')
include h

theorem Relisted.symm : Relisted nodes' nodes :=
  ⟨h.size_eq.symm, fun id => (h.span_eq id).symm, fun id => (h.perm id).symm⟩

theorem Relisted.consistent (hc : Consistent nodes) : Consistent nodes' := by
  have hmem {p child : NodeId} : child ∈ listed nodes' p → child ∈ listed nodes p :=
    (h.perm p).mem_iff.1
  refine ⟨fun p child hchild => h.size_eq.symm ▸ hc.known p child (hmem hchild),
    fun p q child hp hq => hc.single p q child (hmem hp) (hmem hq), ?_, ?_⟩
  · intro p child hchild
    rw [h.span_eq, h.span_eq]
    exact hc.inside p child (hmem hchild)
  · intro p a ha b hb hab
    rw [h.span_eq, h.span_eq]
    exact hc.apart p a (hmem ha) b (hmem hb) hab

theorem Relisted.consistent_iff : Consistent nodes' ↔ Consistent nodes :=
  ⟨h.symm.consistent, h.consistent⟩

theorem Relisted.spans (hspans : ∀ node ∈ nodes, node.span.start < node.span.stop) :
    ∀ node ∈ nodes', node.span.start < node.span.stop := by
  intro node hnode
  obtain ⟨id, hid, rfl⟩ := Array.mem_iff_getElem.1 hnode
  have heq := h.span_eq id
  have hlt := start_lt_stop hspans (h.size_eq ▸ hid)
  rw [← heq, spanIn, Array.getElem?_eq_getElem hid] at hlt
  exact hlt

end Relisted

theorem linkedFrom_of_ofNodes (hspans : ∀ node ∈ nodes, node.span.start < node.span.stop)
    {root : NodeId} {t : Tree} (ht : ofNodes nodes root = .ok t) : t.LinkedFrom nodes root := by
  obtain ⟨links, hlinks, rfl⟩ := ofNodes_eq_ok ht
  have hc := hlinks.consistent hspans
  have hchildren (p : NodeId) : (links.children[p]?).getD [] = sortedIn nodes p := by
    rcases Nat.lt_or_ge p nodes.size with hp | hp
    · rw [hlinks.children p hp, Option.getD_some]
    · rw [Array.getElem?_eq_none (by rw [hlinks.size_children]; exact hp), Option.getD_none, eq_comm,
        List.eq_nil_iff_forall_not_mem]
      intro child hchild
      rw [mem_sortedIn_iff, listed_of_size_le hp] at hchild
      cases hchild
  have hascending (p : NodeId) : (sortedIn nodes p).Pairwise fun a b =>
      (spanIn nodes a).start < (spanIn nodes b).start := by
    refine (hc.pairwise_sortedIn hspans p).imp_of_mem fun {a b} ha _ hab => ?_
    exact Nat.lt_of_lt_of_le (start_lt_stop hspans (hc.known p a (mem_sortedIn_iff.1 ha))) hab
  refine ⟨rfl, rfl, ?_, ?_, ?_, ?_⟩
  · intro p child
    rw [childrenOf, hchildren, mem_sortedIn_iff]
  · intro p
    rw [childrenOf, hchildren]
    refine (hascending p).imp ?_
    rintro a b hab rfl
    exact Nat.lt_irrefl _ hab
  · intro p
    rw [childrenOf, hchildren]
    exact hascending p
  · intro child p
    rw [childrenOf, hchildren, parent?, Option.join_eq_some_iff, hlinks.parents, and_iff_right_iff_imp]
    intro hchild
    refine Nat.lt_of_not_le fun hle => ?_
    rw [mem_sortedIn_iff, listed_of_size_le hle] at hchild
    cases hchild

/-- Nodes with spans that are not empty make a tree exactly if they are consistent. In the tree each
node has the children that it lists, once and in source order, and is their parent; and in which order
it lists them makes no difference to whether there is a tree. -/
theorem makesTree_iff_consistent (hspans : ∀ node ∈ nodes, node.span.start < node.span.stop)
    (root : NodeId) :
    ((∃ t, ofNodes nodes root = .ok t) ↔ Consistent nodes) ∧
      (∀ t, ofNodes nodes root = .ok t → t.LinkedFrom nodes root) ∧
      ∀ nodes', Relisted nodes nodes' →
        ((∃ t, ofNodes nodes' root = .ok t) ↔ ∃ t, ofNodes nodes root = .ok t) := by
  refine ⟨exists_ofNodes_eq_ok_iff hspans, fun t => linkedFrom_of_ofNodes hspans, ?_⟩
  intro nodes' h
  rw [exists_ofNodes_eq_ok_iff (h.spans hspans), exists_ofNodes_eq_ok_iff hspans, h.consistent_iff]

def repeatedNodes : Array Node := #[
  ⟨.other "X" [], ⟨2, 3⟩⟩,
  ⟨.other "Z" [0, 2, 0], ⟨0, 4⟩⟩,
  ⟨.other "Y" [], ⟨0, 2⟩⟩]

def repeatedTree : Tree where
  nodes := repeatedNodes
  children := #[[], [2, 0], []]
  parents := #[some 1, none, some 1]
  root := 1

theorem makesTree_iff_consistent_repeated :
    (∀ node ∈ repeatedNodes, node.span.start < node.span.stop) ∧ Consistent repeatedNodes ∧
      repeatedTree.LinkedFrom repeatedNodes 1 ∧ repeatedTree.childrenOf 1 = [2, 0] := by
  have hspans : ∀ node ∈ repeatedNodes, node.span.start < node.span.stop := by decide
  have htree : ofNodes repeatedNodes 1 = .ok repeatedTree := by cbv
  have h := makesTree_iff_consistent hspans 1
  exact ⟨hspans, h.1.1 ⟨repeatedTree, htree⟩, h.2.1 repeatedTree htree, rfl⟩

end ScriptLint.Tree
