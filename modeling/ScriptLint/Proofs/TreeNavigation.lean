import ScriptLint.Proofs.Enclosure

/-! Ways through a tree. A walk from several nodes is the walks from each of them one after the
other, so the walk with a stack is the recursive one; what it meets is what parents lead up from, and
the walk from any node is a stretch of the walk from the root. -/
namespace ScriptLint.Tree

variable {t : Tree}

/-! The walk with a stack. -/

theorem visitsUpTo_le_visitBound (t : Tree) (count : Nat) : t.visitsUpTo count ≤ t.visitBound := by
  rw [← visitsUpTo_size]
  rcases Nat.le_total count t.children.size with hle | hle
  · exact t.visitsUpTo_mono hle
  · refine Nat.le_of_eq ?_
    rw [visitsUpTo, visitsUpTo, List.take_of_length_le (by simpa using hle),
      List.take_of_length_le (by simp)]

theorem walks_descendants (hbelow : ∀ p child : Nat, child ∈ t.childrenOf p → child < p)
    (id : NodeId) : t.Walks [id] (t.descendants id) := by
  refine walks_walk hbelow ?_
  rw [List.map_singleton, List.sum_singleton]
  exact t.visitsUpTo_le_visitBound (id + 1)

theorem Walks.append {a b u v : List NodeId} (ha : t.Walks a u) (hb : t.Walks b v) :
    t.Walks (a ++ b) (u ++ v) := by
  induction ha with
  | done => exact hb
  | @visit id stack visited _ ih =>
    rw [List.append_assoc] at ih
    exact .visit ih

theorem Walks.unique {stack u v : List NodeId} (hu : t.Walks stack u) (hv : t.Walks stack v) :
    u = v := by
  induction hu generalizing v with
  | done =>
    cases hv
    rfl
  | visit _ ih =>
    cases hv with
    | visit hv => rw [ih hv]

theorem walks_flatMap_descendants
    (hbelow : ∀ p child : Nat, child ∈ t.childrenOf p → child < p) (ids : List NodeId) :
    t.Walks ids (ids.flatMap t.descendants) := by
  induction ids with
  | nil => exact .done
  | cons id ids ih => exact (walks_descendants hbelow id).append ih

theorem descendants_eq (hbelow : ∀ p child : Nat, child ∈ t.childrenOf p → child < p)
    (id : NodeId) : t.descendants id = id :: (t.childrenOf id).flatMap t.descendants := by
  refine (walks_descendants hbelow id).unique (.visit ?_)
  rw [List.append_nil]
  exact walks_flatMap_descendants hbelow (t.childrenOf id)

theorem eq_descendants (hbelow : ∀ p child : Nat, child ∈ t.childrenOf p → child < p)
    {visits : NodeId → List NodeId}
    (h : ∀ id, visits id = id :: (t.childrenOf id).flatMap visits) (id : NodeId) :
    visits id = t.descendants id := by
  induction id using Nat.strongRecOn with
  | ind id ih =>
    rw [h, descendants_eq hbelow, List.flatMap_congr fun child hchild => ih child (hbelow id child hchild)]

/-! What is met on the way down and on the way up. -/

section Linked

variable (h : t.WellLinked)
include h

theorem mem_descendants_iff {n a : NodeId} : n ∈ t.descendants a ↔ t.Under n a := by
  constructor
  · intro hn
    induction a using Nat.strongRecOn with
    | ind a ih =>
      rw [descendants_eq h.below] at hn
      rcases List.mem_cons.1 hn with rfl | hn
      · exact .refl
      · obtain ⟨child, hchild, hn⟩ := List.mem_flatMap.1 hn
        exact (ih child (h.below a child hchild) hn).tail ((h.parent?_iff child a).2 hchild)
  · intro hunder
    induction hunder with
    | refl =>
      rw [descendants_eq h.below]
      exact List.mem_cons_self
    | @tail child p _ hp ih =>
      rw [descendants_eq h.below]
      exact List.mem_cons_of_mem _ (List.mem_flatMap.2 ⟨child, (h.parent?_iff child p).1 hp, ih⟩)

theorem descendants_infix_of_parent? {child p : NodeId} (hp : t.parent? child = some p) :
    t.descendants child <:+: t.descendants p := by
  obtain ⟨before, after, hsplit⟩ := List.append_of_mem ((h.parent?_iff child p).1 hp)
  refine ⟨p :: before.flatMap t.descendants, after.flatMap t.descendants, ?_⟩
  rw [descendants_eq h.below p, hsplit, List.flatMap_append, List.flatMap_cons, List.cons_append,
    List.cons_append, List.append_assoc]

theorem descendants_infix_of_under {n a : NodeId} (hn : t.Under n a) :
    t.descendants n <:+: t.descendants a := by
  induction hn with
  | refl => exact List.infix_refl _
  | tail _ hp ih => exact ih.trans (descendants_infix_of_parent? h hp)

theorem descendants_of_size_le {a : Nat} (ha : t.size ≤ a) : t.descendants a = [a] := by
  have hnone : t.childrenOf a = [] := by
    refine List.eq_nil_iff_forall_not_mem.2 fun child hchild => ?_
    have := h.lt_size hchild
    omega
  rw [descendants_eq h.below, hnone, List.flatMap_nil]

theorem nodup_descendants (a : NodeId) : (t.descendants a).Nodup := by
  rcases Nat.lt_or_ge a t.size with ha | ha
  · refine List.Nodup.sublist (descendants_infix_of_under h (under_root h ha)).sublist ?_
    exact h.preorder_perm_range.nodup_iff.2 List.nodup_range
  · rw [descendants_of_size_le h ha]
    exact List.nodup_singleton a

end Linked

/-! Neighbours. -/

theorem exists_of_nextIn {l : List NodeId} {a b : NodeId} (h : nextIn a l = some b) :
    ∃ before after, l = before ++ a :: b :: after := by
  fun_induction nextIn a l with
  | case1 c ids =>
    cases h
    exact ⟨[], ids, rfl⟩
  | case2 c d ids hne ih =>
    obtain ⟨before, after, heq⟩ := ih h
    exact ⟨c :: before, after, by rw [heq, List.cons_append]⟩
  | case3 => cases h

theorem nextIn_append {before : List NodeId} {a : NodeId} (h : a ∉ before) (after : List NodeId) :
    nextIn a (before ++ a :: after) = after.head? := by
  induction before with
  | nil => cases after <;> simp [nextIn]
  | cons c before ih =>
    obtain ⟨hne, hmem⟩ := not_or.1 (mt List.mem_cons.2 h)
    rw [← ih hmem, List.cons_append]
    cases before with
    | nil => rw [List.nil_append, nextIn, if_neg (Ne.symm hne)]
    | cons d before => rw [List.cons_append, nextIn, if_neg (Ne.symm hne)]

section Linked

variable (h : t.WellLinked)
include h

theorem nextSibling?_of_append {p a : NodeId} {before after : List NodeId}
    (hsplit : t.childrenOf p = before ++ a :: after) : t.nextSibling? a = after.head? := by
  have hparent : t.parent? a = some p := (h.parent?_iff a p).2 (by simp [hsplit])
  have hnodup := h.nodup p
  rw [hsplit] at hnodup
  rw [nextSibling?, hparent, Option.bind_some, hsplit,
    nextIn_append (List.disjoint_of_nodup_append hnodup · List.mem_cons_self)]

theorem prevSibling?_of_append {p a : NodeId} {before after : List NodeId}
    (hsplit : t.childrenOf p = before ++ a :: after) : t.prevSibling? a = before.getLast? := by
  have hparent : t.parent? a = some p := (h.parent?_iff a p).2 (by simp [hsplit])
  have hnodup := List.nodup_reverse.2 (h.nodup p)
  have hreverse : (t.childrenOf p).reverse = after.reverse ++ a :: before.reverse := by simp [hsplit]
  rw [hreverse] at hnodup
  rw [prevSibling?, hparent, Option.bind_some, hreverse,
    nextIn_append (List.disjoint_of_nodup_append hnodup · List.mem_cons_self), List.head?_reverse]

theorem nextSibling?_eq_some_iff {a b : NodeId} :
    t.nextSibling? a = some b ↔
      ∃ p before after, t.childrenOf p = before ++ a :: b :: after := by
  constructor
  · intro hnext
    obtain ⟨p, -, hnext⟩ := Option.bind_eq_some_iff.1 hnext
    obtain ⟨before, after, hsplit⟩ := exists_of_nextIn hnext
    exact ⟨p, before, after, hsplit⟩
  · rintro ⟨p, before, after, hsplit⟩
    rw [nextSibling?_of_append h hsplit, List.head?_cons]

theorem prevSibling?_eq_some_iff {a b : NodeId} :
    t.prevSibling? b = some a ↔
      ∃ p before after, t.childrenOf p = before ++ a :: b :: after := by
  constructor
  · intro hprev
    obtain ⟨p, -, hprev⟩ := Option.bind_eq_some_iff.1 hprev
    obtain ⟨before, after, hsplit⟩ := exists_of_nextIn hprev
    refine ⟨p, after.reverse, before.reverse, ?_⟩
    rw [← List.reverse_reverse (t.childrenOf p), hsplit]
    simp
  · rintro ⟨p, before, after, hsplit⟩
    have hsplit' : t.childrenOf p = (before ++ [a]) ++ b :: after := by simpa using hsplit
    rw [prevSibling?_of_append h hsplit', List.getLast?_concat]

end Linked

/-- The ways down, up and to the side lead to the same places. -/
structure Navigable (t : Tree) : Prop where
  /-- A walk meets what has its start above it or is the start. -/
  mem_iff : ∀ n a, n ∈ t.descendants a ↔ t.isWithin n a = true
  once : ∀ a, (t.descendants a).Nodup
  /-- A node comes before the walks of its children, -/
  recursive : ∀ a, t.descendants a = a :: (t.childrenOf a).flatMap t.descendants
  /-- and the walk with a stack is the only one that goes that way. -/
  only : ∀ visits : NodeId → List NodeId,
    (∀ a, visits a = a :: (t.childrenOf a).flatMap visits) → visits = t.descendants
  stretch : ∀ a : Nat, a < t.size → t.descendants a <:+: t.preorder
  inverse : ∀ a b, t.nextSibling? a = some b ↔ t.prevSibling? b = some a
  /-- Neighbours are those in the list of the parent. -/
  neighbours : ∀ p a before after, t.childrenOf p = before ++ a :: after →
    t.nextSibling? a = after.head? ∧ t.prevSibling? a = before.getLast?
  root_alone : t.nextSibling? t.root = none ∧ t.prevSibling? t.root = none

theorem navigable_of_wellLinked (h : t.WellLinked) : t.Navigable where
  mem_iff n a := (mem_descendants_iff h).trans (isWithin_iff h).symm
  once := nodup_descendants h
  recursive := descendants_eq h.below
  only _ hvisits := funext (eq_descendants h.below hvisits)
  stretch _ ha := descendants_infix_of_under h (under_root h ha)
  inverse a b := (nextSibling?_eq_some_iff h).trans (prevSibling?_eq_some_iff h).symm
  neighbours _ _ _ _ hsplit := ⟨nextSibling?_of_append h hsplit, prevSibling?_of_append h hsplit⟩
  root_alone := by
    have hparent : t.parent? t.root = none :=
      Option.eq_none_iff_forall_ne_some.2 fun p hp => h.root_free p ((h.parent?_iff _ p).1 hp)
    exact ⟨by rw [nextSibling?, hparent]; rfl, by rw [prevSibling?, hparent]; rfl⟩

end ScriptLint.Tree

namespace ScriptLint.Source

/-- In every loaded tree the ways down, up and to the side agree. -/
theorem navigable_of_load {path : String} {text document : Text} {s : Source}
    (h : load path text document = .ok s) : s.tree.Navigable := by
  obtain ⟨doc, -, h⟩ := exists_ofDocument_of_load h
  exact Tree.navigable_of_wellLinked (wellLinked_of_ofDocument h)

theorem navigable_of_load_swapped :
    load "a.js" swappedSource.text swappedDocumentText = .ok swappedSource ∧
      swappedSource.tree.Navigable ∧ swappedSource.tree.descendants 2 = [2, 0, 1] ∧
      swappedSource.tree.nextSibling? 0 = some 1 ∧ swappedSource.tree.prevSibling? 1 = some 0 :=
  ⟨load_swappedSource, navigable_of_load load_swappedSource, by decide⟩

end ScriptLint.Source
