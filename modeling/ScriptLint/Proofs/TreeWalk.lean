import ScriptLint.Proofs.LoadedTree

/-! The walk over a tree. What is put on the stack is visited, and what is visited puts its children
on the stack; so each node of a well-linked tree is visited once. -/
namespace ScriptLint.Tree

def visitsUpTo (t : Tree) (count : Nat) : Nat :=
  (t.children.toList.take count).foldl (fun n ids => n * (ids.length + 1)) 1

theorem visitsUpTo_size (t : Tree) : t.visitsUpTo t.children.size = t.visitBound := by
  rw [visitsUpTo, visitBound, ← Array.foldl_toList, List.take_of_length_le (by simp)]

theorem visitsUpTo_succ (t : Tree) (count : Nat) :
    t.visitsUpTo (count + 1) = t.visitsUpTo count * ((t.childrenOf count).length + 1) := by
  rw [visitsUpTo, visitsUpTo, List.take_add_one, List.foldl_append, childrenOf]
  simp only [Array.getElem?_toList]
  cases t.children[count]? with
  | none => simp
  | some ids => simp

theorem visitsUpTo_mono (t : Tree) {m n : Nat} (h : m ≤ n) : t.visitsUpTo m ≤ t.visitsUpTo n := by
  induction h with
  | refl => exact Nat.le_refl _
  | step _ ih =>
    rw [visitsUpTo_succ]
    exact Nat.le_trans ih (Nat.le_mul_of_pos_right _ (by omega))

theorem visitsUpTo_pos (t : Tree) (count : Nat) : 0 < t.visitsUpTo count :=
  t.visitsUpTo_mono (Nat.zero_le count)

theorem sum_visits_childrenOf (t : Tree) {id : Nat} (hbelow : ∀ child ∈ t.childrenOf id, child < id) :
    ((t.childrenOf id).map fun child => t.visitsUpTo (child + 1)).sum < t.visitsUpTo (id + 1) := by
  have hsum : ((t.childrenOf id).map fun child => t.visitsUpTo (child + 1)).sum ≤
      (t.childrenOf id).length * t.visitsUpTo id := by
    have hall : ∀ n ∈ (t.childrenOf id).map fun child => t.visitsUpTo (child + 1),
        n ≤ t.visitsUpTo id := by
      intro n hn
      obtain ⟨child, hchild, rfl⟩ := List.mem_map.1 hn
      exact t.visitsUpTo_mono (hbelow child hchild)
    simpa using List.sum_le_card_nsmul _ _ hall
  have hpos := t.visitsUpTo_pos id
  rw [visitsUpTo_succ, Nat.mul_add, Nat.mul_one, Nat.mul_comm]
  omega

/-- With enough visits, the visited nodes are those on the stack and the children of visited ones,
each as often as it comes up. -/
theorem walk_perm {t : Tree} (hbelow : ∀ p child : Nat, child ∈ t.childrenOf p → child < p)
    {fuel : Nat} {stack : List NodeId}
    (hfuel : (stack.map fun id => t.visitsUpTo (id + 1)).sum ≤ fuel) :
    (t.walk fuel stack).Perm (stack ++ (t.walk fuel stack).flatMap t.childrenOf) := by
  induction fuel generalizing stack with
  | zero =>
    cases stack with
    | nil => simp [walk]
    | cons id stack =>
      have := t.visitsUpTo_pos (id + 1)
      simp only [List.map_cons, List.sum_cons] at hfuel
      omega
  | succ fuel ih =>
    cases stack with
    | nil => simp [walk]
    | cons id stack =>
      -- The children put on the stack lead to fewer visits than the node did.
      have hless := t.sum_visits_childrenOf (hbelow id)
      have hfuel' : ((t.childrenOf id ++ stack).map fun id => t.visitsUpTo (id + 1)).sum ≤ fuel := by
        simp only [List.map_cons, List.sum_cons] at hfuel
        simp only [List.map_append, List.sum_append]
        omega
      rw [walk, List.cons_append, List.flatMap_cons]
      refine List.Perm.cons id ((ih hfuel').trans ?_)
      rw [← List.append_assoc stack]
      exact List.perm_append_comm.append_right _

theorem walk_eq_take (t : Tree) {m n : Nat} (h : m ≤ n) (stack : List NodeId) :
    t.walk m stack = (t.walk n stack).take m := by
  induction m generalizing n stack with
  | zero => cases stack <;> simp [walk]
  | succ m ih =>
    obtain ⟨n, rfl⟩ : ∃ k, n = k + 1 := ⟨n - 1, by omega⟩
    cases stack with
    | nil => simp [walk]
    | cons id stack => rw [walk, walk, List.take_succ_cons, ih (Nat.le_of_succ_le_succ h)]

namespace WellLinked

variable {t : Tree} (h : t.WellLinked)
include h

theorem lt_size {p child : Nat} (hchild : child ∈ t.childrenOf p) : p < t.size := by
  refine Nat.lt_of_not_le fun hle => ?_
  rw [childrenOf, Array.getElem?_eq_none (by rw [h.size_children]; exact hle)] at hchild
  simp at hchild

theorem count_childrenOf (p child : Nat) :
    (t.childrenOf p).count child = if t.parent? child = some p then 1 else 0 := by
  rw [(h.nodup p).count]
  simp only [h.parent?_iff]

theorem walk_root_perm {fuel : Nat} (hfuel : t.visitBound ≤ fuel) :
    (t.walk fuel [t.root]).Perm (t.root :: (t.walk fuel [t.root]).flatMap t.childrenOf) := by
  change (t.walk fuel [t.root]).Perm ([t.root] ++ (t.walk fuel [t.root]).flatMap t.childrenOf)
  refine walk_perm h.below ?_
  rw [List.map_singleton, List.sum_singleton, h.root_eq, ← h.size_children, visitsUpTo_size]
  exact hfuel

theorem count_walk_child {fuel : Nat} (hfuel : t.visitBound ≤ fuel) {p child : Nat}
    (hchild : child ∈ t.childrenOf p) :
    (t.walk fuel [t.root]).count child = (t.walk fuel [t.root]).count p := by
  have hroot : t.root ≠ child := fun heq => h.root_free p (heq ▸ hchild)
  have hsum (l : List NodeId) :
      (l.map fun q => if t.parent? child = some q then 1 else 0).sum = l.count p := by
    rw [(h.parent?_iff child p).2 hchild]
    induction l with
    | nil => rfl
    | cons q l ih =>
      rw [List.map_cons, List.sum_cons, ih, List.count_cons]
      by_cases hq : p = q
      · simp [hq, Nat.add_comm]
      · simp [hq, Ne.symm hq]
  rw [(h.walk_root_perm hfuel).count_eq, List.count_cons_of_ne hroot, List.count_flatMap, ← hsum]
  simp only [Function.comp_def, h.count_childrenOf]

theorem count_walk_root {fuel : Nat} (hfuel : t.visitBound ≤ fuel) :
    (t.walk fuel [t.root]).count t.root = 1 := by
  have hnone : ((t.walk fuel [t.root]).flatMap t.childrenOf).count t.root = 0 := by
    rw [List.count_eq_zero, List.mem_flatMap]
    rintro ⟨p, -, hp⟩
    exact h.root_free p hp
  rw [(h.walk_root_perm hfuel).count_eq, List.count_cons_self, hnone]

theorem count_walk {fuel : Nat} (hfuel : t.visitBound ≤ fuel) {id : Nat} (hid : id < t.size) :
    (t.walk fuel [t.root]).count id = 1 := by
  -- Parents have greater numbers, so the induction goes down from the root.
  induction hn : t.size - id using Nat.strongRecOn generalizing id with
  | _ n ih =>
    rcases h.covered id hid with rfl | ⟨p, hp⟩
    · exact h.count_walk_root hfuel
    · have hlt := h.below p id hp
      have hsize := h.lt_size hp
      rw [h.count_walk_child hfuel hp]
      exact ih (t.size - p) (by omega) hsize rfl

theorem lt_size_of_mem_walk {fuel : Nat} (hfuel : t.visitBound ≤ fuel) {id : Nat}
    (hid : id ∈ t.walk fuel [t.root]) : id < t.size := by
  rcases List.mem_cons.1 ((h.walk_root_perm hfuel).subset hid) with rfl | hchild
  · exact Nat.lt_of_succ_le (Nat.le_of_eq h.root_eq)
  · obtain ⟨p, -, hp⟩ := List.mem_flatMap.1 hchild
    have hlt := h.below p id hp
    have hsize := h.lt_size hp
    omega

theorem walk_perm_range {fuel : Nat} (hfuel : t.visitBound ≤ fuel) :
    (t.walk fuel [t.root]).Perm (List.range t.size) := by
  rw [List.perm_iff_count]
  intro id
  rw [List.nodup_range.count]
  split
  · rename_i hid
    exact h.count_walk hfuel (List.mem_range.1 hid)
  · rename_i hid
    rw [List.count_eq_zero]
    exact fun hmem => hid (List.mem_range.2 (h.lt_size_of_mem_walk hfuel hmem))

theorem preorder_perm_range : t.preorder.Perm (List.range t.size) :=
  h.walk_perm_range (Nat.le_refl _)

theorem mem_preorder {id : Nat} : id ∈ t.preorder ↔ id < t.size := by
  rw [h.preorder_perm_range.mem_iff, List.mem_range]

theorem root_cons_walk_size :
    t.root :: t.walk t.size (t.childrenOf t.root) =
      t.walk (t.visitBound + t.size + 1) [t.root] := by
  have hlength := (h.walk_perm_range (Nat.le_add_right t.visitBound (t.size + 1))).length_eq
  rw [← Nat.add_assoc, walk, List.append_nil, List.length_cons, List.length_range] at hlength
  rw [walk, List.append_nil, t.walk_eq_take (Nat.le_add_left t.size t.visitBound),
    List.take_of_length_le (by omega)]

theorem root_cons_walk_perm_range :
    (t.root :: t.walk t.size (t.childrenOf t.root)).Perm (List.range t.size) := by
  rw [h.root_cons_walk_size]
  exact h.walk_perm_range (Nat.le_add_right t.visitBound (t.size + 1))

theorem walk_size_perm :
    (t.walk t.size (t.childrenOf t.root)).Perm
      (t.childrenOf t.root ++ (t.walk t.size (t.childrenOf t.root)).flatMap t.childrenOf) := by
  have hperm := h.walk_root_perm (Nat.le_add_right t.visitBound (t.size + 1))
  rw [← Nat.add_assoc, ← h.root_cons_walk_size, List.flatMap_cons] at hperm
  exact hperm.cons_inv

end WellLinked

end ScriptLint.Tree
