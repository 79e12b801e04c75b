import ScriptLint.Proofs.ReferentialIntegrity

/-! Nodes and scopes around a node. The scopes seen from a node are those that the nodes around it
create, so of two siblings neither sees the scopes inside the other one. -/
namespace ScriptLint

theorem pairwise_or {α : Type} {R : α → α → Prop} {l : List α} (h : l.Pairwise R) {a b : α}
    (ha : a ∈ l) (hb : b ∈ l) (hne : a ≠ b) : R a b ∨ R b a := by
  let S : α → α → Prop := fun x y => R x y ∨ R y x
  have : Std.Symm S := ⟨fun _ _ => Or.symm⟩
  have hS : l.Pairwise S := h.imp fun hxy => .inl hxy
  exact hS.forall ha hb hne

namespace Tree

variable {t : Tree}

/-- A node is another one or lies below it. -/
abbrev Under (t : Tree) : NodeId → NodeId → Prop :=
  Relation.ReflTransGen fun child p => t.parent? child = some p

theorem under_iff {n a : NodeId} :
    t.Under n a ↔ n = a ∨ ∃ p, t.parent? n = some p ∧ t.Under p a :=
  Relation.ReflTransGen.cases_head_iff

theorem Under.total {n a b : NodeId} (ha : t.Under n a) (hb : t.Under n b) :
    t.Under a b ∨ t.Under b a := by
  refine Relation.ReflTransGen.total_of_right_unique ?_ ha hb
  intro child p q hp hq
  exact Option.some.inj (hp.symm.trans hq)

theorem Under.eq_or_parent {a b p : NodeId} (hab : t.Under a b) (hp : t.parent? a = some p) :
    a = b ∨ t.Under p b := by
  rcases under_iff.1 hab with heq | ⟨q, hq, hqb⟩
  · exact .inl heq
  · rw [Option.some.inj (hp.symm.trans hq)]
    exact .inr hqb

theorem InPattern.under (h : t.WellLinked) {part pattern : NodeId}
    (hpart : t.InPattern part pattern) : t.Under part pattern := by
  induction hpart with
  | refl => exact .refl
  | tail _ hstep ih => exact ih.tail (hstep.parent h)

section Linked

variable (h : t.WellLinked)
include h

theorem lt_of_parent? {child p : Nat} (hp : t.parent? child = some p) : child < p :=
  h.below p child ((h.parent?_iff child p).1 hp)

theorem Under.le {n a : Nat} (ha : t.Under n a) : n ≤ a := by
  induction ha with
  | refl => exact Nat.le_refl n
  | tail _ hp ih => exact Nat.le_trans ih (Nat.le_of_lt (lt_of_parent? h hp))

theorem not_under_of_parent? {child p : NodeId} (hp : t.parent? child = some p) :
    ¬t.Under p child :=
  fun hunder => Nat.not_le.2 (lt_of_parent? h hp) (Under.le h hunder)

theorem Under.eq_of_siblings {n a b p : NodeId} (ha : t.Under n a) (hb : t.Under n b)
    (hpa : t.parent? a = some p) (hpb : t.parent? b = some p) : a = b := by
  rcases ha.total hb with hab | hba
  · exact (hab.eq_or_parent hpa).resolve_right (not_under_of_parent? h hpb)
  · exact ((hba.eq_or_parent hpb).resolve_right (not_under_of_parent? h hpa)).symm

theorem mem_ancestorsFrom {fuel : Nat} {first : Option NodeId} {a : NodeId}
    (hfuel : ∀ n : Nat, first = some n → n < t.size ∧ t.size ≤ n + fuel) :
    a ∈ t.ancestorsFrom fuel first ↔ ∃ n, first = some n ∧ t.Under n a := by
  induction fuel generalizing first with
  | zero =>
    cases first with
    | none => simp [ancestorsFrom]
    | some n =>
      have := hfuel n rfl
      omega
  | succ fuel ih =>
    cases first with
    | none => simp [ancestorsFrom]
    | some n =>
      have hnext : ∀ p : Nat, t.parent? n = some p → p < t.size ∧ t.size ≤ p + fuel := by
        intro p hp
        have hlt := lt_of_parent? h hp
        have := hfuel n rfl
        exact ⟨h.lt_size ((h.parent?_iff n p).1 hp), by omega⟩
      rw [ancestorsFrom, List.mem_cons, ih hnext, eq_comm, ← under_iff]
      simp

theorem isWithin_iff {n a : NodeId} : t.isWithin n a = true ↔ t.Under n a := by
  have hfuel : ∀ p : Nat, t.parent? n = some p → p < t.size ∧ t.size ≤ p + t.size :=
    fun p hp => ⟨h.lt_size ((h.parent?_iff n p).1 hp), Nat.le_add_left ..⟩
  rw [isWithin, Bool.or_eq_true, beq_iff_eq, List.contains_iff_mem, ancestors,
    mem_ancestorsFrom h hfuel, ← under_iff]

theorem Declares.under {node id : NodeId} {form : DeclarationForm}
    (hdeclares : t.Declares node form id) : t.Under id node := by
  obtain ⟨top, owner, hsite, howner⟩ := hdeclares.site h
  refine (InPattern.under h hsite.climbs).tail hsite.parent |>.trans ?_
  unfold declaring? at howner
  split at howner
  case h_5 => rw [Option.some.inj howner]
  all_goals exact .single howner

theorem Under.exists_child {n a : NodeId} (hn : t.Under n a) (hne : n ≠ a) :
    ∃ child ∈ t.childrenOf a, t.Under n child := by
  rcases Relation.ReflTransGen.cases_tail hn with heq | ⟨child, hunder, hparent⟩
  · exact absurd heq.symm hne
  · exact ⟨child, (h.parent?_iff child a).1 hparent, hunder⟩

theorem under_root {n : Nat} (hn : n < t.size) : t.Under n t.root := by
  obtain ⟨k, hk⟩ : ∃ k, t.size ≤ n + k := ⟨t.size, Nat.le_add_left ..⟩
  induction k generalizing n with
  | zero => omega
  | succ k ih =>
    by_cases hroot : n = t.root
    · rw [hroot]
    · obtain ⟨p, hp⟩ := exists_parent?_of_ne_root h hn hroot
      have hlt := lt_of_parent? h hp
      exact .head hp (ih (h.lt_size ((h.parent?_iff n p).1 hp)) (by omega))

section Nested

variable {text : Text} (hnested : t.Nested text)
include hnested

theorem Under.inside {a b : NodeId} (hab : t.Under a b) :
    (t.span b).start ≤ (t.span a).start ∧ (t.span a).stop ≤ (t.span b).stop := by
  induction hab with
  | refl => exact ⟨Nat.le_refl _, Nat.le_refl _⟩
  | @tail child p _ hp ih =>
    have hinside := hnested.inside p child ((h.parent?_iff child p).1 hp)
    simp only [Span.contains, Bool.and_eq_true, decide_eq_true_eq] at hinside
    omega

/-- Of two nodes one lies below the other, or one stands behind the other. -/
theorem under_or_apart {a b : Nat} (ha : a < t.size) (hb : b < t.size) :
    t.Under a b ∨ t.Under b a ∨ (t.span a).stop ≤ (t.span b).start ∨
      (t.span b).stop ≤ (t.span a).start := by
  -- Go down from the root as long as both lie below one child.
  have hbelow (top : Nat) : t.Under a top → t.Under b top → t.Under a b ∨ t.Under b a ∨
      (t.span a).stop ≤ (t.span b).start ∨ (t.span b).stop ≤ (t.span a).start := by
    induction top using Nat.strongRecOn with
    | ind top ih =>
      intro hat hbt
      by_cases hatop : a = top
      · exact .inr (.inl (hatop ▸ hbt))
      by_cases hbtop : b = top
      · exact .inl (hbtop ▸ hat)
      obtain ⟨c, hc, hac⟩ := Under.exists_child h hat hatop
      obtain ⟨d, hd, hbd⟩ := Under.exists_child h hbt hbtop
      by_cases hcd : c = d
      · subst hcd
        exact ih c (h.below top c hc) hac hbd
      · have hac := Under.inside h hnested hac
        have hbd := Under.inside h hnested hbd
        have hsiblings := pairwise_or (hnested.apart top) hc hd hcd
        omega
  exact hbelow t.root (under_root h ha) (under_root h hb)

end Nested

end Linked

end Tree

namespace ScopeGraph

/-- A scope is created by a node or by one below it. -/
def LiesIn (t : Tree) (g : ScopeGraph) (s : ScopeId) (node : NodeId) : Prop :=
  ∃ scope, g.scopes[s]? = some scope ∧ t.Under scope.node node

section Finished

variable {t : Tree} (h : t.WellLinked)
  (hroot : ∃ body sourceType, t.kind t.root = .program body sourceType)
include h hroot

theorem scopeOf_lt_size {n : Nat} (hn : n < t.size) :
    (ofTree t).scopeOf n < (ofTree t).scopes.size := by
  have hext := (collected_ofTree t).extends_
  rw [hext.scopeOf, hext.scopes]
  exact (Declaring.placed_run h hroot).scopeOf_lt n (h.mem_preorder.2 hn)

theorem mem_outwards_self {n : Nat} (hn : n < t.size) :
    (ofTree t).scopeOf n ∈ (ofTree t).outwards ((ofTree t).scopeOf n) := by
  rw [outwards_eq_cons (wellFormed_ofTree t).parentsPrecede (scopeOf_lt_size h hroot hn)]
  exact List.mem_cons_self

theorem outwards_of_parent? {n p : NodeId} (hp : t.parent? n = some p) :
    (ofTree t).scopeOf n = (ofTree t).scopeOf p ∨
      (ofTree t).outwards ((ofTree t).scopeOf n) =
        (ofTree t).scopeOf n :: (ofTree t).outwards ((ofTree t).scopeOf p) ∧
      ∃ scope, (ofTree t).scopes[(ofTree t).scopeOf n]? = some scope ∧ scope.node = n := by
  have hn := Tree.lt_size_of_parent? h hp
  have hne : n ≠ t.root := by
    rintro rfl
    exact h.root_free p ((h.parent?_iff _ _).1 hp)
  obtain ⟨q, hq, hinherits, hcreates⟩ := (mirrors_ofTree h hroot).placed n hn hne
  cases Option.some.inj (hp.symm.trans hq)
  cases hkind : t.scopeKind? n with
  | none => exact .inl (hinherits hkind)
  | some kind =>
    obtain ⟨scope, hscope, -, hnode, hparent⟩ := hcreates kind hkind
    refine .inr ⟨?_, scope, hscope, hnode⟩
    rw [outwards_eq_cons (wellFormed_ofTree t).parentsPrecede (scopeOf_lt_size h hroot hn), parent?,
      hscope, Option.bind_some, hparent]
    rfl

/-- From inside a child, the scopes inside it come first, then those around its parent. -/
theorem outwards_of_under {n b p : NodeId} (hb : t.parent? b = some p) (hn : t.Under n b) :
    ∃ inner, (ofTree t).outwards ((ofTree t).scopeOf n) =
        inner ++ (ofTree t).outwards ((ofTree t).scopeOf p) ∧
      ∀ a ∈ inner, (ofTree t).LiesIn t a b := by
  have hstep {n m : NodeId} {inner : List ScopeId} (hm : t.parent? n = some m) (hn : t.Under n b)
      (hsplit : (ofTree t).outwards ((ofTree t).scopeOf m) =
        inner ++ (ofTree t).outwards ((ofTree t).scopeOf p))
      (hinner : ∀ a ∈ inner, (ofTree t).LiesIn t a b) :
      ∃ inner, (ofTree t).outwards ((ofTree t).scopeOf n) =
          inner ++ (ofTree t).outwards ((ofTree t).scopeOf p) ∧
        ∀ a ∈ inner, (ofTree t).LiesIn t a b := by
    rcases outwards_of_parent? h hroot hm with hsame | ⟨hcons, scope, hscope, rfl⟩
    · exact ⟨inner, hsame ▸ hsplit, hinner⟩
    · refine ⟨_ :: inner, by rw [hcons, hsplit, List.cons_append], ?_⟩
      intro a ha
      rcases List.mem_cons.1 ha with rfl | ha
      · exact ⟨scope, hscope, hn⟩
      · exact hinner a ha
  induction hn using Relation.ReflTransGen.head_induction_on with
  | refl => exact hstep hb .refl (List.nil_append _).symm (List.forall_mem_nil _)
  | head hm hrest ih =>
    obtain ⟨inner, hsplit, hinner⟩ := ih
    exact hstep hm (.head hm hrest) hsplit hinner

theorem node_of_mem_outwards_root {a : ScopeId}
    (ha : a ∈ (ofTree t).outwards ((ofTree t).scopeOf t.root)) :
    ∃ scope, (ofTree t).scopes[a]? = some scope ∧ scope.node = t.root := by
  have hle := le_of_mem_outwards (wellFormed_ofTree t).parentsPrecede ha
  rw [(collected_ofTree t).extends_.scopeOf, (Declaring.placed_run h hroot).scopeOf_root] at hle
  obtain ⟨entry, hentry⟩ : ∃ entry, (Declaring.fileScopes t)[a]? = some entry := by
    refine ⟨_, List.getElem?_eq_getElem ?_⟩
    rw [Declaring.length_fileScopes]
    exact Nat.lt_succ_of_le hle
  have hnode : entry.2.1 = t.root := by
    have hmem := List.mem_of_getElem? hentry
    unfold Declaring.fileScopes at hmem
    split at hmem <;> simp at hmem
    · rcases hmem with rfl | rfl <;> rfl
    · rw [hmem]
  obtain ⟨scope, hscope, -, heq, -⟩ := getElem?_scopes_ofTree (outline_fileScopes h hroot hentry)
  exact ⟨scope, hscope, heq.trans hnode⟩

/-- The scopes around a node are created by nodes around it. -/
theorem under_of_mem_outwards {n : Nat} (hn : n < t.size) {a : ScopeId}
    (ha : a ∈ (ofTree t).outwards ((ofTree t).scopeOf n)) :
    ∃ scope, (ofTree t).scopes[a]? = some scope ∧ t.Under n scope.node := by
  by_cases hne : n = t.root
  · subst hne
    obtain ⟨scope, hscope, hnode⟩ := node_of_mem_outwards_root h hroot ha
    exact ⟨scope, hscope, by rw [hnode]⟩
  · obtain ⟨p, hp⟩ := Tree.exists_parent?_of_ne_root h hn hne
    have hlt := Tree.lt_of_parent? h hp
    have hsize := h.lt_size ((h.parent?_iff n p).1 hp)
    have houter (ha : a ∈ (ofTree t).outwards ((ofTree t).scopeOf p)) :
        ∃ scope, (ofTree t).scopes[a]? = some scope ∧ t.Under n scope.node := by
      obtain ⟨scope, hscope, hunder⟩ := under_of_mem_outwards hsize ha
      exact ⟨scope, hscope, .head hp hunder⟩
    rcases outwards_of_parent? h hroot hp with hsame | ⟨hcons, scope, hscope, hnode⟩
    · exact houter (hsame ▸ ha)
    · rcases List.mem_cons.1 (hcons ▸ ha) with rfl | ha
      · exact ⟨scope, hscope, by rw [hnode]⟩
      · exact houter ha
  termination_by t.size - n

theorem not_liesIn_of_siblings {n a b p : NodeId} (hn : t.Under n a) (ha : t.parent? a = some p)
    (hb : t.parent? b = some p) (hne : a ≠ b) {s : ScopeId}
    (hs : s ∈ (ofTree t).outwards ((ofTree t).scopeOf n)) : ¬(ofTree t).LiesIn t s b := by
  rintro ⟨scope, hscope, hunder⟩
  obtain ⟨inner, hsplit, hinner⟩ := outwards_of_under h hroot ha hn
  rcases List.mem_append.1 (hsplit ▸ hs) with hin | hout
  · obtain ⟨scope', hscope', hunder'⟩ := hinner s hin
    cases hscope.symm.trans hscope'
    exact hne (hunder'.eq_of_siblings h hunder ha hb)
  · obtain ⟨scope', hscope', hunder'⟩ :=
      under_of_mem_outwards h hroot (h.lt_size ((h.parent?_iff a p).1 ha)) hout
    cases hscope.symm.trans hscope'
    exact Tree.not_under_of_parent? h hb (hunder'.trans hunder)

end Finished

end ScopeGraph

end ScriptLint
