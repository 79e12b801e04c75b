import ScriptLint.Proofs.Enclosure

/-! The smallest node around a stretch of the text. The way down from the root goes to a child that
covers the stretch as long as there is one. Siblings are apart, so such a child has no rival, and
the nodes that cover the stretch are those on the way. -/
namespace ScriptLint

namespace Tree

variable {t : Tree} {span : Span}

/-- The way down from a node to the one at which no child covers a span. -/
inductive Descends (t : Tree) (span : Span) : NodeId → NodeId → Prop
  | done {id : NodeId} :
      (∀ child ∈ t.childrenOf id, (t.span child).contains span = false) → Descends t span id id
  | down {id child last : NodeId} :
      ((t.childrenOf id).find? fun child => (t.span child).contains span) = some child →
      Descends t span child last → Descends t span id last

theorem descends_coveringFrom (hbelow : ∀ p child : Nat, child ∈ t.childrenOf p → child < p)
    {fuel id : Nat} (hfuel : id < fuel) : t.Descends span id (t.coveringFrom span fuel id) := by
  induction fuel generalizing id with
  | zero => omega
  | succ fuel ih =>
    rw [coveringFrom]
    split
    · next child hchild =>
      have hlt := hbelow id child (List.mem_of_find?_eq_some hchild)
      exact .down hchild (ih (by omega))
    · next hnone =>
      exact .done fun child hchild => Bool.eq_false_iff.2 (List.find?_eq_none.1 hnone child hchild)

theorem find?_covering_eq_none_iff {ids : List NodeId} :
    (ids.find? fun child => (t.span child).contains span) = none ↔
      ∀ child ∈ ids, (t.span child).contains span = false := by
  simp only [List.find?_eq_none, Bool.not_eq_true]

theorem Descends.unique {id a b : NodeId} (ha : t.Descends span id a) (hb : t.Descends span id b) :
    a = b := by
  induction ha with
  | done hnone =>
    cases hb with
    | done => rfl
    | down hchild => cases hchild.symm.trans (find?_covering_eq_none_iff.2 hnone)
  | down hchild _ ih =>
    cases hb with
    | done hnone => cases hchild.symm.trans (find?_covering_eq_none_iff.2 hnone)
    | down hchild' hb => exact ih (Option.some.inj (hchild'.symm.trans hchild) ▸ hb)

theorem Descends.deepest {id last : NodeId} (h : t.Descends span id last) :
    ∀ child ∈ t.childrenOf last, (t.span child).contains span = false := by
  induction h with
  | done hnone => exact hnone
  | down _ _ ih => exact ih

theorem Descends.covers {id last : NodeId} (h : t.Descends span id last)
    (hid : (t.span id).contains span = true) : (t.span last).contains span = true := by
  induction h with
  | done => exact hid
  | down hchild _ ih =>
    have hcovers := List.find?_some hchild
    exact ih hcovers

theorem lt_size_of_contains {n : Nat} (hne : span.start < span.stop)
    (hn : (t.span n).contains span = true) : n < t.size := by
  refine Nat.lt_of_not_le fun hle => ?_
  have hmissing : t.span n = ⟨0, 0⟩ := by
    rw [Tree.span, node, Array.getElem?_eq_none hle]
    rfl
  rw [hmissing, Span.contains_iff] at hn
  dsimp only at hn
  omega

structure IsSmallestCover (t : Tree) (span : Span) (c : NodeId) : Prop where
  lt_size : c < t.size
  /-- What covers the span is this node or stands above it, -/
  covers_iff : ∀ n, (t.span n).contains span = true ↔ n = c ∨ n ∈ t.ancestors c
  /-- so it has this node inside. -/
  inside : ∀ n, (t.span n).contains span = true → (t.span n).contains (t.span c) = true
  deepest : ∀ child ∈ t.childrenOf c, (t.span child).contains span = false

section Nested

variable (h : t.WellLinked) {text : Text} (hnested : t.Nested text)
include h hnested

theorem under_or_under_of_contains {a b : NodeId} (hne : span.start < span.stop)
    (ha : (t.span a).contains span = true) (hb : (t.span b).contains span = true) :
    t.Under a b ∨ t.Under b a := by
  have hapart := under_or_apart h hnested (lt_size_of_contains hne ha) (lt_size_of_contains hne hb)
  rw [Span.contains_iff] at ha hb
  rcases hapart with hab | hba | hbehind | hbehind
  · exact .inl hab
  · exact .inr hba
  · omega
  · omega

theorem isSmallestCover_of_deepest {c : NodeId} (hne : span.start < span.stop)
    (hcovers : (t.span c).contains span = true)
    (hdeepest : ∀ child ∈ t.childrenOf c, (t.span child).contains span = false) :
    t.IsSmallestCover span c := by
  have hunder {n : NodeId} (hn : (t.span n).contains span = true) : t.Under c n := by
    rcases under_or_under_of_contains h hnested hne hn hcovers with hnc | hcn
    · -- Strictly below, the node would lie in a child, which would cover the span too.
      by_cases heq : n = c
      · rw [heq]
      · obtain ⟨child, hchild, hunder⟩ := Under.exists_child h hnc heq
        have hinside := Under.inside h hnested hunder
        have hnot := hdeepest child hchild
        rw [← Bool.not_eq_true, Span.contains_iff] at hnot
        rw [Span.contains_iff] at hn
        omega
    · exact hcn
  have hwithin (n : NodeId) : t.Under c n ↔ n = c ∨ n ∈ t.ancestors c := by
    rw [← isWithin_iff h, isWithin, Bool.or_eq_true, beq_iff_eq, List.contains_iff_mem, eq_comm]
  refine ⟨lt_size_of_contains hne hcovers, fun n => ⟨fun hn => (hwithin n).1 (hunder hn), ?_⟩,
    fun n hn => Span.contains_iff.2 (Under.inside h hnested (hunder hn)), hdeepest⟩
  intro hn
  have hinside := Under.inside h hnested ((hwithin n).2 hn)
  rw [Span.contains_iff] at hcovers ⊢
  omega

theorem isSmallestCover_of_descends {c : NodeId} (hdescends : t.Descends span t.root c)
    (hne : span.start < span.stop) (hstop : span.stop ≤ text.size) : t.IsSmallestCover span c := by
  have hroot : (t.span t.root).contains span = true := by
    rw [hnested.whole.span_eq, Span.contains_iff]
    exact ⟨Nat.zero_le _, hstop⟩
  exact isSmallestCover_of_deepest h hnested hne (hdescends.covers hroot) hdescends.deepest

end Nested

theorem WellLinked.descends_covering (h : t.WellLinked) (span : Span) :
    t.Descends span t.root (t.covering span) :=
  descends_coveringFrom h.below (Nat.lt_of_succ_le (Nat.le_of_eq h.root_eq))

end Tree

namespace Source

/-- In every loaded tree the way down from the root ends, at the smallest node around the span. -/
theorem isSmallestCover_of_load {path : String} {text document : Text} {s : Source}
    (h : load path text document = .ok s) {span : Span} (hne : span.start < span.stop)
    (hstop : span.stop ≤ text.size) :
    (∀ c, s.tree.Descends span s.tree.root c ↔ c = s.tree.covering span) ∧
      s.tree.IsSmallestCover span (s.tree.covering span) := by
  obtain ⟨doc, -, h⟩ := exists_ofDocument_of_load h
  have hlinked := wellLinked_of_ofDocument h
  have hdescends := hlinked.descends_covering span
  refine ⟨fun c => ⟨fun hc => hc.unique hdescends, fun hc => hc ▸ hdescends⟩, ?_⟩
  exact Tree.isSmallestCover_of_descends hlinked (nested_of_ofDocument h).2 hdescends hne hstop

theorem isSmallestCover_of_load_swapped :
    load "a.js" swappedSource.text swappedDocumentText = .ok swappedSource ∧
      swappedSource.tree.span 2 = swappedSource.tree.span swappedSource.tree.root ∧
      swappedSource.tree.covering ⟨2, 4⟩ = 2 ∧ swappedSource.tree.IsSmallestCover ⟨2, 4⟩ 2 :=
  ⟨load_swappedSource, by decide,
    by decide, (isSmallestCover_of_load load_swappedSource (by decide) (by decide)).2⟩

end Source

end ScriptLint
