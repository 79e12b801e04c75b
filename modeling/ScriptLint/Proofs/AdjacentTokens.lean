import ScriptLint.Proofs.FittingFixes

/-! Neighbouring tokens. No token stands between two of them, so behind a token there is one gap only,
and the gaps behind two different tokens do not touch. -/
namespace ScriptLint

namespace TokenIndex

variable {ix : TokenIndex} {a b c d : Token}

theorem Sequential.pairwise_within (h : ix.Sequential) (span : Span) :
    (ix.within span).Pairwise fun a b => a.span.stop ≤ b.span.start :=
  h.ordered.sublist ((List.drop_sublist _ _).trans (List.take_sublist _ _))

structure Adjacent (ix : TokenIndex) (a b : Token) : Prop where
  left : a ∈ ix.all
  right : b ∈ ix.all
  le : a.span.stop ≤ b.span.start
  between : ∀ t ∈ ix.all, t.span.stop ≤ a.span.stop ∨ b.span.start ≤ t.span.start

theorem adjacent_of_after? (h : ix.Ordered) (ha : a ∈ ix.all)
    (hb : ix.after? a.span.stop true = some b) : ix.Adjacent a b := by
  obtain ⟨hmem, hle, hnext⟩ := after?_eq_some h hb
  refine ⟨ha, hmem, hle, fun t ht => ?_⟩
  have := h.nonempty t ht
  have := h.nonempty b hmem
  rcases h.eq_or_apart ht ha with rfl | hbefore | hbehind
  · exact .inl (Nat.le_refl _)
  · have := h.nonempty a ha
    exact .inl (by omega)
  · rcases hnext t ht hbehind with rfl | hlater
    · exact .inr (Nat.le_refl _)
    · exact .inr (by omega)

theorem adjacent_of_before? (h : ix.Ordered) (hb : b ∈ ix.all)
    (ha : ix.before? b.span.start true = some a) : ix.Adjacent a b := by
  obtain ⟨hmem, hle, hlast⟩ := before?_eq_some h ha
  refine ⟨hmem, hb, hle, fun t ht => ?_⟩
  have := h.nonempty t ht
  have := h.nonempty a hmem
  rcases h.eq_or_apart ht hb with rfl | hbefore | hbehind
  · exact .inr (Nat.le_refl _)
  · rcases hlast t ht hbefore with rfl | hearlier
    · exact .inl (Nat.le_refl _)
    · exact .inl (by omega)
  · have := h.nonempty b hb
    exact .inr (by omega)

namespace Adjacent

theorem right_unique (h : ix.Ordered) (hab : ix.Adjacent a b) (hac : ix.Adjacent a c) : b = c := by
  have := h.nonempty b hab.right
  have := h.nonempty c hac.right
  have hb := hac.between b hab.right
  have hc := hab.between c hac.right
  have hble := hab.le
  have hcle := hac.le
  rcases h.eq_or_apart hab.right hac.right with heq | hbefore | hbehind
  · exact heq
  · omega
  · omega

theorem apart (h : ix.Ordered) (hab : ix.Adjacent a b) (hcd : ix.Adjacent c d) (hne : a ≠ c) :
    b.span.start < c.span.stop ∨ d.span.start < a.span.stop := by
  have := h.nonempty a hab.left
  have := h.nonempty c hcd.left
  have hc := hab.between c hcd.left
  have ha := hcd.between a hab.left
  rcases h.eq_or_apart hab.left hcd.left with heq | hbefore | hbehind
  · exact absurd heq hne
  · left
    omega
  · right
    omega

theorem commentsBetween_eq_nil (h : ix.Ordered) (hab : ix.Adjacent a b) :
    ix.commentsBetween a.span.stop b.span.start = [] := by
  rw [List.eq_nil_iff_forall_not_mem]
  intro t ht
  obtain ⟨hmem, hstart, hstop⟩ := mem_commentsBetween h ht
  have := h.nonempty t hmem
  have := hab.between t hmem
  omega

theorem consecutive (h : ix.Ordered) (hab : ix.Adjacent a b) : [a, b] <:+: ix.all.toList := by
  have hle := hab.le
  have hposa := h.nonempty a hab.left
  have hposb := h.nonempty b hab.right
  obtain ⟨front, back, hsplit⟩ := List.append_of_mem (Array.mem_toList_iff.2 hab.left)
  have hpairs := h.ordered
  rw [hsplit] at hpairs
  obtain ⟨-, hpairs, hfront⟩ := List.pairwise_append.1 hpairs
  have hb : b ∈ back := by
    have hmem := Array.mem_toList_iff.2 hab.right
    rw [hsplit] at hmem
    rcases List.mem_append.1 hmem with hmem | hmem
    · have := hfront b hmem a (by simp)
      omega
    · rcases List.mem_cons.1 hmem with rfl | hmem
      · omega
      · exact hmem
  cases back with
  | nil => simp at hb
  | cons c back =>
    have hc : c ∈ ix.all := Array.mem_toList_iff.1 (by simp [hsplit])
    have hposc := h.nonempty c hc
    have hnext := List.rel_of_pairwise_cons hpairs (List.mem_cons_self (a := c) (l := back))
    have hbetween := hab.between c hc
    rcases List.mem_cons.1 hb with rfl | hb
    · exact ⟨front, back, by simp [hsplit]⟩
    · have := List.rel_of_pairwise_cons hpairs.of_cons hb
      omega

end Adjacent

end TokenIndex

end ScriptLint
