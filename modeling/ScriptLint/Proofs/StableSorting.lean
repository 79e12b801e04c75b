import Mathlib

/-! Sorting by a key. What has smaller keys comes first, and elements that may stand in either order
keep the one they had. -/
namespace ScriptLint

variable {α : Type}

/-- Elements of which no two have to change places come out as they went in. -/
theorem filter_mergeSort {le : α → α → Bool}
    (htrans : ∀ a b c, le a b = true → le b c = true → le a c = true)
    (htotal : ∀ a b, (le a b || le b a) = true) {p : α → Bool} {l : List α}
    (h : (l.filter p).Pairwise fun a b => le a b = true) :
    (l.mergeSort le).filter p = l.filter p := by
  have hsub := (List.sublist_mergeSort htrans htotal h List.filter_sublist).filter p
  simp only [List.filter_filter, Bool.and_self] at hsub
  exact (hsub.eq_of_length ((List.mergeSort_perm l le).filter p).length_eq.symm).symm

/-- A sorted list is known from what it has at each place. -/
theorem eq_of_filter_eq {le : α → α → Bool} (htotal : ∀ a b, (le a b || le b a) = true)
    {l l' : List α} (hl : l.Pairwise fun a b => le a b = true)
    (hl' : l'.Pairwise fun a b => le a b = true)
    (h : ∀ a, l.filter (fun b => le a b && le b a) = l'.filter fun b => le a b && le b a) :
    l = l' := by
  have hrefl (a : α) : le a a = true := by simpa using htotal a a
  induction l generalizing l' with
  | nil =>
    cases l' with
    | nil => rfl
    | cons y l' => simpa [hrefl] using h y
  | cons x l ih =>
    cases l' with
    | nil => simpa [hrefl] using h x
    | cons y l' =>
      have hmem {a : α} : a ∈ x :: l ↔ a ∈ y :: l' := by
        have hsame := congrArg (a ∈ ·) (h a)
        simpa [hrefl] using hsame
      have hxy : le x y = true := by
        rcases List.mem_cons.1 (hmem.2 List.mem_cons_self) with heq | hy
        · rw [heq]
          exact hrefl x
        · exact List.rel_of_pairwise_cons hl hy
      have hyx : le y x = true := by
        rcases List.mem_cons.1 (hmem.1 List.mem_cons_self) with heq | hx
        · rw [heq]
          exact hrefl y
        · exact List.rel_of_pairwise_cons hl' hx
      have hhead := h x
      rw [List.filter_cons_of_pos (by simp [hrefl]),
        List.filter_cons_of_pos (by simp [hxy, hyx])] at hhead
      obtain ⟨rfl, -⟩ := List.cons.inj hhead
      rw [ih hl.of_cons hl'.of_cons fun a => ?_]
      have hfilter := h a
      rw [List.filter_cons, List.filter_cons] at hfilter
      split at hfilter
      · exact (List.cons.inj hfilter).2
      · exact hfilter

/-- Sorting and leaving out may change places. -/
theorem filter_mergeSort_comm {le : α → α → Bool}
    (htrans : ∀ a b c, le a b = true → le b c = true → le a c = true)
    (htotal : ∀ a b, (le a b || le b a) = true) (p : α → Bool) (l : List α) :
    (l.mergeSort le).filter p = (l.filter p).mergeSort le := by
  have halike (l : List α) (a : α) {q : α → Bool} (hq : ∀ b, q b = true → (le a b && le b a) = true) :
      (l.mergeSort le).filter q = l.filter q := by
    refine filter_mergeSort htrans htotal (List.pairwise_of_forall_mem_list fun b hb c hc => ?_)
    have hb := Bool.and_eq_true_iff.1 (hq b (List.mem_filter.1 hb).2)
    have hc := Bool.and_eq_true_iff.1 (hq c (List.mem_filter.1 hc).2)
    exact htrans b a c hb.2 hc.1
  refine eq_of_filter_eq htotal ((List.pairwise_mergeSort htrans htotal l).filter p)
    (List.pairwise_mergeSort htrans htotal _) fun a => ?_
  rw [halike (l.filter p) a fun _ => id, List.filter_filter, List.filter_filter]
  exact halike l a fun b hb => (Bool.and_eq_true_iff.1 hb).1

section Key

variable (key : α → Nat)

theorem key_trans (a b c : α) (hab : decide (key a ≤ key b) = true)
    (hbc : decide (key b ≤ key c) = true) : decide (key a ≤ key c) = true :=
  decide_eq_true (Nat.le_trans (of_decide_eq_true hab) (of_decide_eq_true hbc))

theorem key_total (a b : α) : (decide (key a ≤ key b) || decide (key b ≤ key a)) = true := by
  simp only [Bool.or_eq_true, decide_eq_true_eq]
  exact Nat.le_total _ _

theorem pairwise_mergeSort_key (l : List α) :
    (l.mergeSort fun a b => key a ≤ key b).Pairwise fun a b => key a ≤ key b :=
  (List.pairwise_mergeSort (key_trans key) (key_total key) l).imp of_decide_eq_true

theorem filter_mergeSort_key (l : List α) (k : Nat) :
    (l.mergeSort fun a b => key a ≤ key b).filter (fun a => key a == k) =
      l.filter fun a => key a == k := by
  refine filter_mergeSort (key_trans key) (key_total key) ?_
  refine List.pairwise_of_forall_mem_list fun a ha b hb => ?_
  simp only [List.mem_filter, beq_iff_eq] at ha hb
  exact decide_eq_true (Nat.le_of_eq (ha.2.trans hb.2.symm))

end Key

end ScriptLint
