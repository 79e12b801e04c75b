import ScriptLint.Proofs.SimultaneousEdits

/-! Places of a text after edits. An edit moves what stands behind it by what it puts in, less what it
takes out. A stretch that all other edits stay away from stands between its moved ends afterwards,
with only its own edits carried out. -/
namespace ScriptLint

namespace Edit

def shift (es : List Edit) (offset : Nat) : Nat :=
  offset + (es.map fun e => Text.size e.replacement.toList).sum -
    (es.map fun e => e.span.stop - e.span.start).sum

/-- The place where something ends, after edits. What is put in right there comes behind it. -/
def movedStop (es : List Edit) (offset : Nat) : Nat :=
  shift (es.filter fun e => decide (e.span.start < offset)) offset

/-- The place where something starts, after edits. What is put in right there comes before it. -/
def movedStart (es : List Edit) (offset : Nat) : Nat :=
  shift (es.filter fun e => decide (e.span.stop ≤ offset)) offset

theorem start_ne_of_conflictsWith {a b : Edit} (h : a.conflictsWith b = false) :
    a.span.start ≠ b.span.start := by
  simp only [conflictsWith, Bool.or_eq_false_iff, beq_eq_false_iff_ne] at h
  exact h.1

end Edit

namespace Patch

variable {t : Text} {start : Nat} {es : List Edit}

theorem size_spliced (hstart : t.isBoundary start = true) (h : InOrder t start es) :
    (spliced t start es).size + start + (es.map fun e => e.span.stop - e.span.start).sum =
      t.size + (es.map fun e => Text.size e.replacement.toList).sum := by
  induction es generalizing start with
  | nil =>
    have hle := Text.le_size_of_isBoundary hstart
    have hsize := Text.size_slice hstart t.isBoundary_size hle
    simp only [spliced, List.map_nil, List.sum_nil]
    omega
  | cons e es ih =>
    obtain ⟨hle, hspan, hb, hb', hrest⟩ := h
    have hgap := Text.size_slice hstart hb hle
    have htail := ih hb' hrest
    simp only [spliced, Text.size_append, List.map_cons, List.sum_cons]
    omega

theorem filter_spliced (p : Char → Bool) (hstart : t.isBoundary start = true)
    (h : InOrder t start es)
    (hes : ∀ e ∈ es, (t.slice e.span.start e.span.stop).filter p = [] ∧
      e.replacement.toList.filter p = []) :
    (spliced t start es).filter p = (t.slice start t.size).filter p := by
  induction es generalizing start with
  | nil => rfl
  | cons e es ih =>
    obtain ⟨hle, hspan, hb, hb', hrest⟩ := h
    obtain ⟨⟨hcut, hput⟩, hes⟩ := List.forall_mem_cons.1 hes
    have hstop := Text.le_size_of_isBoundary hb'
    have hsplit := Text.slice_append_slice hstart hb t.isBoundary_size hle (by omega)
    have hsplit' := Text.slice_append_slice hb hb' t.isBoundary_size hspan hstop
    rw [spliced, ← hsplit, ← hsplit', List.filter_append, List.filter_append, List.filter_append,
      List.filter_append, ih hb' hrest hes, hcut, hput, List.append_nil, List.nil_append]

end Patch

theorem Span.Placed.of_append {u v : Text} {s : Span} (h : s.Placed (u ++ v)) (hle : s.stop ≤ u.size) :
    s.Placed u :=
  ⟨h.le, Patch.isBoundary_of_append h.start (Nat.le_trans h.le hle),
    Patch.isBoundary_of_append h.stop hle⟩

theorem Span.placed_between (u m w : Text) : Span.Placed (u ++ m ++ w) ⟨u.size, (u ++ m).size⟩ := by
  refine ⟨?_, Text.isBoundary_iff.2 ⟨u, m ++ w, by simp, rfl⟩,
    Text.isBoundary_iff.2 ⟨u ++ m, w, rfl, rfl⟩⟩
  rw [Text.size_append]
  exact Nat.le_add_right _ _

namespace Text

section Whole

variable {t : Text} {es : List Edit} (hplaced : ∀ e ∈ es, e.span.Placed t)
  (hapart : es.Pairwise fun a b => a.conflictsWith b = false)
include hplaced hapart

theorem exists_spliced_eq_replaceAll :
    ∃ sorted, sorted.Perm es ∧ Patch.InOrder t 0 sorted ∧
      replaceAll es 0 t = Patch.spliced t 0 sorted := by
  have hperm := List.mergeSort_perm es Edit.le
  have hplaced' : ∀ e ∈ es.mergeSort Edit.le, e.span.Placed t :=
    fun e he => hplaced e (hperm.mem_iff.1 he)
  have hfollows := (Patch.pairwise_conflictsWith_iff (fun e he => (hplaced' e he).le)
    (Patch.pairwise_mergeSort es)).1 ((hperm.pairwise_iff Edit.conflictsWith_symm).2 hapart)
  have horder := Patch.Consistent.inOrder_of_placed hfollows hplaced' fun _ _ => Nat.zero_le _
  refine ⟨_, hperm, horder, ?_⟩
  rw [replaceAll_perm hperm.symm (hapart.imp Edit.start_ne_of_conflictsWith)]
  exact replaceAll_eq_spliced (u := []) (v := t) hfollows horder

theorem size_replaceAll : (replaceAll es 0 t).size = Edit.shift es t.size := by
  obtain ⟨sorted, hperm, horder, heq⟩ := exists_spliced_eq_replaceAll hplaced hapart
  have hsize := Patch.size_spliced t.isBoundary_zero horder
  have hput := (hperm.map fun e => Text.size e.replacement.toList).sum_eq
  have hcut := (hperm.map fun e => e.span.stop - e.span.start).sum_eq
  rw [heq, Edit.shift, ← hput, ← hcut]
  omega

theorem filter_replaceAll (p : Char → Bool)
    (hes : ∀ e ∈ es, (t.slice e.span.start e.span.stop).filter p = [] ∧
      e.replacement.toList.filter p = []) :
    (replaceAll es 0 t).filter p = t.filter p := by
  obtain ⟨sorted, hperm, horder, heq⟩ := exists_spliced_eq_replaceAll hplaced hapart
  rw [heq, Patch.filter_spliced p t.isBoundary_zero horder
    fun e he => hes e (hperm.mem_iff.1 he), slice_zero_size]

end Whole

theorem putIn_append (es es' : List Edit) (offset : Nat) :
    putIn (es ++ es') offset = putIn es offset ++ putIn es' offset := by
  rw [putIn, List.filter_append, List.flatMap_append]
  rfl

theorem replaceAll_append_of_past {es es' : List Edit} {offset : Nat}
    (h : ∀ e ∈ es, e.Past offset) (t : Text) :
    replaceAll (es ++ es') offset t = replaceAll es' offset t := by
  induction es with
  | nil => rfl
  | cons e es ih =>
    rw [List.cons_append, replaceAll_cons_of_past (h e (by simp)),
      ih fun e' he' => h e' (List.mem_cons_of_mem _ he')]

theorem replaceAll_append {es es' : List Edit} {offset : Nat} {u : Text} (v : Text)
    (hbefore : ∀ e ∈ es, e.span.start ≤ e.span.stop ∧ e.span.stop ≤ offset + u.size)
    (hbehind : ∀ e ∈ es', offset + u.size ≤ e.span.start) :
    replaceAll (es ++ es') offset (u ++ v) =
      replaceAll es offset u ++ replaceAll es' (offset + u.size) v := by
  induction u generalizing offset with
  | nil =>
    have huncovered : (es.any fun e => e.covers offset) = false :=
      any_covers_eq_false fun e he => .inl (hbefore e he).2
    cases v with
    | nil => exact putIn_append es es' offset
    | cons c v =>
      have hc := c.utf8Size_pos
      have hpast : replaceAll (es ++ es') (offset + c.utf8Size) v =
          replaceAll es' (offset + c.utf8Size) v := by
        refine replaceAll_append_of_past (fun e he => ?_) v
        have := hbefore e he
        simp only [size_nil, Nat.add_zero] at this
        exact ⟨by omega, by omega⟩
      rw [List.nil_append, replaceAll, replaceAll, putIn_append, List.any_append, huncovered,
        Bool.false_or, hpast, size_nil, Nat.add_zero, replaceAll]
      simp only [List.append_assoc]
  | cons c u ih =>
    have hc := c.utf8Size_pos
    simp only [size_cons] at hbefore hbehind
    have hput : putIn es' offset = [] := by
      apply putIn_eq_nil
      intro e he
      have := hbehind e he
      omega
    have huncovered : (es'.any fun e => e.covers offset) = false := by
      refine any_covers_eq_false fun e he => .inr ?_
      have := hbehind e he
      omega
    have hrest : replaceAll (es ++ es') (offset + c.utf8Size) (u ++ v) =
        replaceAll es (offset + c.utf8Size) u ++
          replaceAll es' (offset + c.utf8Size + size u) v := by
      refine ih (fun e he => ?_) fun e he => ?_
      · have := hbefore e he
        exact ⟨this.1, by omega⟩
      · have := hbehind e he
        omega
    rw [List.cons_append, replaceAll, replaceAll, putIn_append, hput, List.append_nil,
      List.any_append, huncovered, Bool.or_false, hrest, size_cons]
    simp only [List.append_assoc, Nat.add_assoc]

theorem replaceAll_single {e : Edit} {offset : Nat} {u cut : Text} (v : Text)
    (hstart : e.span.start = offset + u.size) (hstop : e.span.stop = e.span.start + cut.size) :
    replaceAll [e] offset (u ++ cut ++ v) = u ++ e.replacement.toList ++ v := by
  rw [List.append_assoc, replaceAll_append_of_before (cut ++ v) (by simp [hstart]), ← hstart,
    replaceAll_cons_append v hstop.symm (by simp), replaceAll_nil, List.append_assoc]

theorem replaceAll_filter {es : List Edit} {offset : Nat} {u : Text} (v : Text) (q : Edit → Bool)
    (hapart : es.Pairwise fun a b => a.conflictsWith b = false)
    (hle : ∀ e ∈ es, e.span.start ≤ e.span.stop)
    (hbefore : ∀ e ∈ es, q e = true → e.span.stop ≤ offset + u.size)
    (hbehind : ∀ e ∈ es, q e = false → offset + u.size ≤ e.span.start) :
    replaceAll es offset (u ++ v) = replaceAll (es.filter q) offset u ++
      replaceAll (es.filter fun e => !q e) (offset + u.size) v := by
  have hperm := (List.filter_append_perm q es).symm
  rw [replaceAll_perm hperm (hapart.imp Edit.start_ne_of_conflictsWith), replaceAll_append]
  · intro e he
    obtain ⟨he, hq⟩ := List.mem_filter.1 he
    exact ⟨hle e he, hbefore e he hq⟩
  · intro e he
    obtain ⟨he, hq⟩ := List.mem_filter.1 he
    exact hbehind e he (by simpa using hq)

/-- Edits stay away from a stretch, apart from those inside it. -/
def KeepClear (es : List Edit) (gap : Span) : Prop :=
  ∀ e ∈ es, e.span.stop < gap.start ∨ gap.stop < e.span.start ∨ gap.contains e.span = true

theorem KeepClear.stop_lt {es : List Edit} {gap : Span} (hclear : KeepClear es gap)
    (hgap : gap.start ≤ gap.stop) {e : Edit} (he : e ∈ es) (hlt : e.span.start < gap.start) :
    e.span.stop < gap.start := by
  have := hclear e he
  simp only [Span.contains, Bool.and_eq_true, decide_eq_true_eq] at this
  omega

theorem KeepClear.lt_start {es : List Edit} {gap : Span} (hclear : KeepClear es gap)
    (hgap : gap.start ≤ gap.stop) {e : Edit} (he : e ∈ es) (hlt : gap.stop < e.span.stop) :
    gap.stop < e.span.start := by
  have := hclear e he
  simp only [Span.contains, Bool.and_eq_true, decide_eq_true_eq] at this
  omega

theorem exists_replaceAll_between {es : List Edit} (u m w : Text)
    (hplaced : ∀ e ∈ es, e.span.Placed (u ++ m ++ w))
    (hapart : es.Pairwise fun a b => a.conflictsWith b = false)
    (hclear : KeepClear es ⟨u.size, (u ++ m).size⟩) :
    ∃ x m' z, replaceAll es 0 (u ++ m ++ w) = x ++ m' ++ z ∧
      x.size = Edit.movedStop es u.size ∧ (x ++ m').size = Edit.movedStart es (u ++ m).size ∧
      m' = replaceAll (es.filter fun e => Span.contains ⟨u.size, (u ++ m).size⟩ e.span) u.size m := by
  have hle : ∀ e ∈ es, e.span.start ≤ e.span.stop := fun e he => (hplaced e he).le
  have hgap : u.size ≤ (u ++ m).size := by
    rw [size_append]
    exact Nat.le_add_right _ _
  have hstop {e : Edit} (he : e ∈ es) (hlt : e.span.start < u.size) : e.span.stop < u.size :=
    hclear.stop_lt hgap he hlt
  have hstart {e : Edit} (he : e ∈ es) (hlt : (u ++ m).size < e.span.stop) :
      (u ++ m).size < e.span.start :=
    hclear.lt_start hgap he hlt
  let upTo := es.filter fun e => decide (e.span.stop ≤ (u ++ m).size)
  have hright : replaceAll es 0 (u ++ m ++ w) = replaceAll upTo 0 (u ++ m) ++
      replaceAll (es.filter fun e => !decide (e.span.stop ≤ (u ++ m).size))
        (0 + (u ++ m).size) w := by
    refine replaceAll_filter w _ hapart hle (by simp) fun e he hq => ?_
    have := hstart he (Nat.lt_of_not_le (of_decide_eq_false hq))
    omega
  have hleft : replaceAll upTo 0 (u ++ m) =
      replaceAll (upTo.filter fun e => decide (e.span.start < u.size)) 0 u ++
        replaceAll (upTo.filter fun e => !decide (e.span.start < u.size)) (0 + u.size) m := by
    refine replaceAll_filter m _ (hapart.filter _) (fun e he => hle e (List.mem_of_mem_filter he))
      (fun e he hq => ?_) fun e _ hq => ?_
    · have := hstop (List.mem_of_mem_filter he) (of_decide_eq_true hq)
      omega
    · have := of_decide_eq_false hq
      omega
  have hbefore : upTo.filter (fun e => decide (e.span.start < u.size)) =
      es.filter fun e => decide (e.span.start < u.size) := by
    rw [List.filter_filter]
    refine List.filter_congr fun e he => ?_
    rw [Bool.and_eq_decide, decide_eq_decide]
    simp only [decide_eq_true_eq]
    refine and_iff_left_of_imp fun hlt => ?_
    have := hstop he hlt
    omega
  have hinside : upTo.filter (fun e => !decide (e.span.start < u.size)) =
      es.filter fun e => Span.contains ⟨u.size, (u ++ m).size⟩ e.span := by
    rw [List.filter_filter]
    refine List.filter_congr fun e _ => ?_
    rw [Span.contains, ← decide_not]
    simp only [Nat.not_lt]
  rw [hbefore, hinside] at hleft
  have hplacedStop (e : Edit) (he : e ∈ upTo) : e.span.Placed (u ++ m) := by
    obtain ⟨he, hq⟩ := List.mem_filter.1 he
    exact (hplaced e he).of_append (of_decide_eq_true hq)
  have hplacedStart (e : Edit) (he : e ∈ es.filter fun e => decide (e.span.start < u.size)) :
      e.span.Placed u := by
    obtain ⟨he, hq⟩ := List.mem_filter.1 he
    exact (List.append_assoc u m w ▸ hplaced e he).of_append
      (Nat.le_of_lt (hstop he (of_decide_eq_true hq)))
  simp only [Nat.zero_add] at hleft hright
  refine ⟨_, _, _, by rw [hright, hleft], ?_, ?_, rfl⟩
  · exact size_replaceAll hplacedStart (hapart.filter _)
  · rw [← hleft]
    exact size_replaceAll hplacedStop (hapart.filter _)

end Text

end ScriptLint
