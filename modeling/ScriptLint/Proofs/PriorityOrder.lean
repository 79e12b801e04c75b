import ScriptLint.Proofs.StableSorting
import ScriptLint.Rule.Ordering

/-! The order that a list of priorities asks for. Names come by rank, those of one rank as they stood;
the first place that holds another name than its own has a name of smaller rank to wait for, and
names that stand by rank are left alone. -/
namespace ScriptLint

namespace Priority

variable {priorities : List Priority} {names : List Text} {order : List Nat}

def rankAt (priorities : List Priority) (names : List Text) (i : Nat) : Nat :=
  (names.map (rank priorities)).getD i 0

def Precedes (priorities : List Priority) (names : List Text) (a b : Nat) : Prop :=
  rankAt priorities names a < rankAt priorities names b ∨
    (rankAt priorities names a = rankAt priorities names b ∧ a < b)

/-- All numbers of names by rank, those of one rank as they stood. -/
structure IsStableOrder (priorities : List Priority) (names : List Text) (order : List Nat) :
    Prop where
  perm : order.Perm (List.range names.length)
  pairwise : order.Pairwise (Precedes priorities names)

def arrange (order : List Nat) (names : List Text) : List Text := order.filterMap fun i => names[i]?

theorem rankAt_eq {i : Nat} {name : Text} (h : names[i]? = some name) :
    rankAt priorities names i = rank priorities name := by
  rw [rankAt, List.getD_eq_getElem?_getD, List.getElem?_map, h]
  rfl

theorem expectedOrder_eq (priorities : List Priority) (names : List Text) :
    expectedOrder priorities names = (List.range names.length).mergeSort fun a b =>
      rankAt priorities names a ≤ rankAt priorities names b := by
  simp only [expectedOrder, rankAt, List.getD_eq_getElem?_getD, Array.getD_eq_getD_getElem?,
    List.getElem?_toArray]

theorem filter_expectedOrder (priorities : List Priority) (names : List Text) (r : Nat) :
    (expectedOrder priorities names).filter (fun i => rankAt priorities names i == r) =
      (List.range names.length).filter fun i => rankAt priorities names i == r := by
  rw [expectedOrder_eq]
  exact filter_mergeSort_key (rankAt priorities names) _ r

theorem isStableOrder_expectedOrder (priorities : List Priority) (names : List Text) :
    IsStableOrder priorities names (expectedOrder priorities names) := by
  refine ⟨?_, List.pairwise_iff_forall_sublist.2 fun {a b} hsub => ?_⟩
  · rw [expectedOrder_eq]
    exact List.mergeSort_perm _ _
  have hle : rankAt priorities names a ≤ rankAt priorities names b := by
    rw [expectedOrder_eq] at hsub
    exact List.pairwise_iff_forall_sublist.1
      (pairwise_mergeSort_key (rankAt priorities names) _) hsub
  refine (Nat.lt_or_eq_of_le hle).imp_right fun heq => ⟨heq, ?_⟩
  have hpair := hsub.filter fun i => rankAt priorities names i == rankAt priorities names a
  rw [filter_expectedOrder] at hpair
  simp only [List.filter_cons, beq_self_eq_true, if_true, heq] at hpair
  exact List.pairwise_pair.1 (List.pairwise_lt_range.sublist (hpair.trans List.filter_sublist))

/-! The first place that differs. -/

theorem findSome?_zipIdx_eq_some {k p : Nat}
    (h : ((order.zipIdx k).findSome? fun (source, position) =>
      if source = position then none else some position) = some p) :
    ∃ j q, p = k + j ∧ order[j]? = some q ∧ q ≠ p ∧ ∀ i < j, order[i]? = some (k + i) := by
  induction order generalizing k with
  | nil => simp at h
  | cons source order ih =>
    rw [List.zipIdx_cons, List.findSome?_cons] at h
    by_cases hk : source = k
    · simp only [hk, if_true] at h
      obtain ⟨j, q, rfl, hq, hne, hbefore⟩ := ih h
      refine ⟨j + 1, q, by omega, hq, hne, fun i hi => ?_⟩
      cases i with
      | zero => exact congrArg some hk
      | succ i =>
        rw [List.getElem?_cons_succ, hbefore i (by omega)]
        exact congrArg some (by omega)
    · simp only [hk, if_false, Option.some.injEq] at h
      subst h
      exact ⟨0, source, rfl, rfl, hk, fun i hi => by omega⟩

theorem firstDivergence?_eq_some {p : Nat} (h : firstDivergence? order = some p) :
    (∃ q, order[p]? = some q ∧ q ≠ p) ∧ ∀ i < p, order[i]? = some i := by
  obtain ⟨j, q, rfl, hq, hne, hbefore⟩ := findSome?_zipIdx_eq_some h
  simp only [Nat.zero_add] at hne hbefore ⊢
  exact ⟨⟨q, hq, hne⟩, hbefore⟩

theorem firstDivergence?_eq_none_iff :
    firstDivergence? order = none ↔ order = List.range order.length := by
  simp only [firstDivergence?, List.findSome?_eq_none_iff, Prod.forall,
    List.mk_mem_zipIdx_iff_getElem?]
  constructor
  · intro h
    refine List.ext_getElem List.length_range.symm fun i hi _ => ?_
    have hhere := h order[i] i (List.getElem?_eq_getElem hi)
    rw [List.getElem_range]
    by_contra hne
    simp [hne] at hhere
  · intro h source position hsource
    obtain ⟨hposition, rfl⟩ := List.getElem?_eq_some_iff.1 hsource
    rw [if_pos]
    simp only [List.getElem_of_eq h, List.getElem_range]

/-! Names that stand in order. -/

theorem expectedOrder_eq_range_iff :
    expectedOrder priorities names = List.range names.length ↔
      (names.map (rank priorities)).Pairwise (· ≤ ·) := by
  have hrank {i : Nat} (hi : i < (names.map (rank priorities)).length) :
      rankAt priorities names i = (names.map (rank priorities))[i] := by
    rw [rankAt, List.getD_eq_getElem?_getD, List.getElem?_eq_getElem hi, Option.getD_some]
  constructor
  · intro h
    have hstable := (isStableOrder_expectedOrder priorities names).pairwise
    rw [h] at hstable
    refine List.pairwise_iff_getElem.2 fun i j hi hj hij => ?_
    have hij := List.pairwise_iff_getElem.1 hstable i j (by simpa using hi) (by simpa using hj) hij
    simp only [List.getElem_range, Precedes, hrank hi, hrank hj] at hij
    omega
  · intro h
    rw [expectedOrder_eq]
    refine List.mergeSort_of_pairwise (List.pairwise_iff_getElem.2 fun i j hi hj hij => ?_)
    have hi : i < (names.map (rank priorities)).length := by simpa using hi
    have hj : j < (names.map (rank priorities)).length := by simpa using hj
    simp only [List.getElem_range, decide_eq_true_eq, hrank hi, hrank hj]
    exact List.pairwise_iff_getElem.1 h i j hi hj hij

namespace IsStableOrder

variable (h : IsStableOrder priorities names order)
include h

theorem lt_length {i : Nat} (hi : i ∈ order) : i < names.length :=
  List.mem_range.1 (h.perm.mem_iff.1 hi)

theorem map_rank_arrange :
    (arrange order names).map (rank priorities) = order.map (rankAt priorities names) := by
  rw [arrange, List.map_filterMap, ← List.filterMap_eq_map]
  refine List.filterMap_congr fun i hi => ?_
  have hname := List.getElem?_eq_getElem (h.lt_length hi)
  rw [hname, Option.map_some, Function.comp_apply, rankAt_eq hname]

theorem expectedOrder_arrange :
    expectedOrder priorities (arrange order names) = List.range names.length := by
  have hlength : (arrange order names).length = names.length := by
    have := congrArg List.length h.map_rank_arrange
    rwa [List.length_map, List.length_map, h.perm.length_eq, List.length_range] at this
  rw [← hlength, expectedOrder_eq_range_iff, h.map_rank_arrange, List.pairwise_map]
  exact h.pairwise.imp fun hab => hab.elim Nat.le_of_lt fun hab => Nat.le_of_eq hab.1

/-- What should stand in the first place that differs comes later, and has a smaller rank than what
stands there. -/
theorem lt_of_firstDivergence? {p : Nat} (hp : firstDivergence? order = some p) :
    ∃ q, order[p]? = some q ∧ p < q ∧ q < names.length ∧
      rankAt priorities names q < rankAt priorities names p := by
  obtain ⟨⟨q, hq, hne⟩, hbefore⟩ := firstDivergence?_eq_some hp
  obtain ⟨hlt, heq⟩ := List.getElem?_eq_some_iff.1 hq
  have hnodup := h.perm.nodup_iff.2 List.nodup_range
  have hplace {i j x : Nat} (hi : order[i]? = some x) (hj : order[j]? = some x) : i = j := by
    obtain ⟨hi', rfl⟩ := List.getElem?_eq_some_iff.1 hi
    obtain ⟨hj', heq⟩ := List.getElem?_eq_some_iff.1 hj
    exact (List.Nodup.getElem_inj_iff hnodup).1 heq.symm
  have hpq : p < q := by
    by_contra hle
    exact hne (hplace (hbefore q (by omega)) hq)
  -- The number of the place itself stands behind it.
  have hmem : p ∈ order := by
    rw [h.perm.mem_iff, List.mem_range, ← List.length_range (n := names.length),
      ← h.perm.length_eq]
    exact hlt
  obtain ⟨k, hk⟩ := List.mem_iff_getElem?.1 hmem
  have hpk : p < k := by
    rcases Nat.lt_trichotomy k p with hkp | rfl | hpk
    · have heq := hk.symm.trans (hbefore k hkp)
      simp only [Option.some.injEq] at heq
      omega
    · exact absurd (Option.some.inj (hq.symm.trans hk)) hne
    · exact hpk
  obtain ⟨hk', hkeq⟩ := List.getElem?_eq_some_iff.1 hk
  have hprecedes := List.pairwise_iff_getElem.1 h.pairwise p k hlt hk' hpk
  rw [heq, hkeq] at hprecedes
  refine ⟨q, hq, hpq, h.lt_length (List.mem_of_getElem? hq), ?_⟩
  rcases hprecedes with hrank | ⟨-, hqp⟩
  · exact hrank
  · omega

end IsStableOrder

theorem divergence?_eq_none {segment : Segment}
    (h : expectedOrder priorities (segment.map Prod.snd) = List.range segment.length) :
    segment.divergence? priorities = none := by
  have hnone : firstDivergence? (expectedOrder priorities (segment.map Prod.snd)) = none := by
    rw [firstDivergence?_eq_none_iff, h, List.length_range]
  rw [Segment.divergence?, hnone]
  rfl

/-- The expected order puts all names by rank and leaves those of one rank as they stand; it differs
from the order of the names exactly if these do not stand by rank, and first of all at a place where
a later name of smaller rank should stand. Names that have been put in order are not reported. -/
theorem sorts_expectedOrder (priorities : List Priority) (names : List Text) :
    IsStableOrder priorities names (expectedOrder priorities names) ∧
      ((firstDivergence? (expectedOrder priorities names)).isSome = true ↔
        ¬(names.map (rank priorities)).Pairwise (· ≤ ·)) ∧
      (∀ p, firstDivergence? (expectedOrder priorities names) = some p →
        (∀ i < p, (expectedOrder priorities names)[i]? = some i) ∧
          ∃ q expected actual, (expectedOrder priorities names)[p]? = some q ∧ p < q ∧
            names[q]? = some expected ∧ names[p]? = some actual ∧
            rank priorities expected < rank priorities actual) ∧
      expectedOrder priorities (arrange (expectedOrder priorities names) names) =
        List.range names.length ∧
      ∀ (s : Source) (segment : Segment),
        segment.map Prod.snd = arrange (expectedOrder priorities names) names →
          PropertyOrder.checkSegment priorities s segment = none ∧
            ImportOrder.checkSegment priorities s segment = none := by
  have hstable := isStableOrder_expectedOrder priorities names
  have hsettled := hstable.expectedOrder_arrange
  refine ⟨hstable, ?_, ?_, hsettled, ?_⟩
  · rw [← expectedOrder_eq_range_iff, Option.isSome_iff_ne_none, ne_eq,
      firstDivergence?_eq_none_iff, hstable.perm.length_eq, List.length_range]
  · intro p hp
    obtain ⟨q, hq, hpq, hlt, hrank⟩ := hstable.lt_of_firstDivergence? hp
    have hexpected := List.getElem?_eq_getElem hlt
    have hactual := List.getElem?_eq_getElem (Nat.lt_trans hpq hlt)
    rw [rankAt_eq hexpected, rankAt_eq hactual] at hrank
    exact ⟨(firstDivergence?_eq_some hp).2, q, _, _, hq, hpq, hexpected, hactual, hrank⟩
  · intro s segment hsegment
    have hnone : segment.divergence? priorities = none := by
      refine divergence?_eq_none ?_
      have hlength := congrArg List.length hsettled
      rw [(isStableOrder_expectedOrder ..).perm.length_eq, List.length_range, List.length_range,
        ← hsegment, List.length_map] at hlength
      rw [hsegment, hsettled, hlength]
    rw [PropertyOrder.checkSegment, ImportOrder.checkSegment, hnone]
    exact ⟨rfl, rfl⟩

/-- Handlers and dates around the rest, which two entries claim: the first of them counts. -/
def handlersLast : List Priority :=
  ["id", "*", "*At", "on*"].map fun s => ofText s.toList

def mixedNames : List Text := ["name", "onOpenedAt", "onClick", "openedAt", "id"].map String.toList

theorem expectedOrder_mixedNames : expectedOrder handlersLast mixedNames = [4, 0, 1, 3, 2] := by
  cbv

theorem sorts_expectedOrder_mixed :
    firstDivergence? (expectedOrder handlersLast mixedNames) = some 0 ∧
      (∃ q expected actual, (expectedOrder handlersLast mixedNames)[0]? = some q ∧ 0 < q ∧
        mixedNames[q]? = some expected ∧ mixedNames[0]? = some actual ∧
        rank handlersLast expected < rank handlersLast actual) ∧
      ∀ s, PropertyOrder.checkSegment handlersLast s
        [(9, "id".toList), (1, "name".toList), (3, "onOpenedAt".toList), (7, "openedAt".toList),
          (5, "onClick".toList)] = none := by
  have hfirst : firstDivergence? (expectedOrder handlersLast mixedNames) = some 0 := by
    rw [expectedOrder_mixedNames]
    decide
  obtain ⟨-, -, hdivergence, -, hsettled⟩ := sorts_expectedOrder handlersLast mixedNames
  refine ⟨hfirst, (hdivergence 0 hfirst).2, fun s => (hsettled s _ ?_).1⟩
  rw [expectedOrder_mixedNames]
  decide

end Priority

end ScriptLint
