import Mathlib
import ScriptLint.Scope.Graph

/-! The chain of scopes from one scope outwards. In a graph where every scope comes after its
parent the bound on the chain's length is never felt, and the chain goes strictly down. -/
namespace ScriptLint.ScopeGraph

def ParentsPrecede (g : ScopeGraph) : Prop := ∀ s p : Nat, g.parent? s = some p → p < s

variable {g : ScopeGraph}

theorem parent?_eq_none_of_ge {s : Nat} (hs : g.scopes.size ≤ s) : g.parent? s = none := by
  rw [parent?, Array.getElem?_eq_none hs]
  rfl

theorem outwards_congr {g' : ScopeGraph} (hparent : ∀ s, g'.parent? s = g.parent? s)
    (hsize : g'.scopes.size = g.scopes.size) (s : Nat) : g'.outwards s = g.outwards s := by
  have hfrom (fuel : Nat) (o : Option ScopeId) : g'.outwardsFrom fuel o = g.outwardsFrom fuel o := by
    induction fuel generalizing o with
    | zero => rfl
    | succ fuel ih =>
      cases o with
      | none => rfl
      | some s => simp only [outwardsFrom, ih, hparent]
  rw [outwards, outwards, hfrom, hsize]

/-- Any bound above the scope's own number is as good as any other. -/
theorem outwardsFrom_eq_of_lt (h : g.ParentsPrecede) {s m n : Nat} (hm : s < m) (hn : s < n) :
    g.outwardsFrom m (some s) = g.outwardsFrom n (some s) := by
  induction s using Nat.strongRecOn generalizing m n with
  | ind s ih =>
    obtain ⟨m, rfl⟩ : ∃ k, m = k + 1 := ⟨m - 1, by omega⟩
    obtain ⟨n, rfl⟩ : ∃ k, n = k + 1 := ⟨n - 1, by omega⟩
    simp only [outwardsFrom, List.cons.injEq, true_and]
    cases hp : g.parent? s with
    | none => cases m <;> cases n <;> rfl
    | some p =>
      have hlt := h s p hp
      exact ih p hlt (by omega) (by omega)

theorem outwards_eq_cons (h : g.ParentsPrecede) {s : Nat} (hs : s < g.scopes.size) :
    g.outwards s = s :: ((g.parent? s).map g.outwards).getD [] := by
  unfold outwards
  obtain ⟨n, hn⟩ : ∃ k, g.scopes.size = k + 1 := ⟨g.scopes.size - 1, by omega⟩
  rw [hn, outwardsFrom]
  cases hp : g.parent? s with
  | none => cases n <;> rfl
  | some p =>
    have hlt := h s p hp
    simp only [Option.map_some, Option.getD_some]
    rw [outwardsFrom_eq_of_lt h (Nat.lt_of_lt_of_le hlt (show s ≤ n by omega))
      (Nat.lt_of_lt_of_le hlt (show s ≤ n + 1 by omega))]

theorem outwards_of_ge {s : Nat} (hs : g.scopes.size ≤ s) :
    g.outwards s = if g.scopes.size = 0 then [] else [s] := by
  unfold outwards
  cases hn : g.scopes.size with
  | zero => rfl
  | succ n =>
    rw [outwardsFrom, parent?_eq_none_of_ge hs]
    cases n <;> rfl

/-- Induction along the chain: what holds of a scope if it holds of its parent holds of all. -/
theorem chain_induction (h : g.ParentsPrecede) {P : Nat → Prop}
    (outside : ∀ s, g.scopes.size ≤ s → P s)
    (step : ∀ s, s < g.scopes.size → (∀ p, g.parent? s = some p → P p) → P s) (s : Nat) :
    P s := by
  induction s using Nat.strongRecOn with
  | ind s ih =>
    by_cases hs : s < g.scopes.size
    · exact step s hs fun p hp => ih p (h s p hp)
    · exact outside s (by omega)

theorem le_of_mem_outwards (h : g.ParentsPrecede) {a s : Nat} (ha : a ∈ g.outwards s) :
    a ≤ s := by
  induction s using chain_induction h with
  | outside s hs =>
    rw [outwards_of_ge hs] at ha
    split at ha <;> simp_all
  | step s hs ih =>
    rw [outwards_eq_cons h hs] at ha
    cases hp : g.parent? s with
    | none => simp_all
    | some p =>
      have hlt := h s p hp
      simp only [hp, Option.map_some, Option.getD_some, List.mem_cons] at ha
      rcases ha with rfl | ha
      · exact Nat.le_refl _
      · exact Nat.le_trans (ih p hp ha) (by omega)

theorem outwards_pairwise (h : g.ParentsPrecede) (s : Nat) :
    (g.outwards s).Pairwise (· > ·) := by
  induction s using chain_induction h with
  | outside s hs =>
    rw [outwards_of_ge hs]
    split <;> simp
  | step s hs ih =>
    rw [outwards_eq_cons h hs]
    cases hp : g.parent? s with
    | none => simp
    | some p =>
      simp only [Option.map_some, Option.getD_some, List.pairwise_cons]
      exact ⟨fun a ha => Nat.lt_of_le_of_lt (le_of_mem_outwards h ha) (h s p hp), ih p hp⟩

theorem mem_outwards_of_split (h : g.ParentsPrecede) {s a x : Nat} {l r : List Nat}
    (hsplit : g.outwards s = l ++ a :: r) (hx : x ∈ l) : a ∈ g.outwards x := by
  induction s using chain_induction h generalizing l with
  | outside s hs =>
    have hlen := congrArg List.length hsplit
    have hpos := List.length_pos_of_mem hx
    rw [outwards_of_ge hs] at hlen
    split at hlen
    · simp at hlen
    · simp at hlen
      omega
  | step s hs ih =>
    obtain ⟨y, l, rfl⟩ := List.exists_cons_of_ne_nil (List.ne_nil_of_mem hx)
    have hcons := outwards_eq_cons h hs
    rw [hsplit, List.cons_append, List.cons.injEq] at hcons
    obtain ⟨rfl, htail⟩ := hcons
    rcases List.mem_cons.1 hx with rfl | hx
    · rw [hsplit]
      simp
    · cases hp : g.parent? y with
      | none => simp [hp] at htail
      | some p =>
        simp only [hp, Option.map_some, Option.getD_some] at htail
        exact ih p hp htail.symm hx

end ScriptLint.ScopeGraph
