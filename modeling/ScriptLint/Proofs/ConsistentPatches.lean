import ScriptLint.Proofs.SplicedText

/-! Patches whose edits come one after the other. Sorting brings edits that do not conflict into this
order, and a patch in this order applies exactly if its cuts fall between characters. -/
namespace ScriptLint

/-- A span of a text: its ends are in order and fall between characters. -/
structure Span.Placed (t : Text) (s : Span) : Prop where
  le : s.start ≤ s.stop
  start : t.isBoundary s.start = true
  stop : t.isBoundary s.stop = true

namespace Edit

/-- The second edit begins behind the first one, which it does not touch from inside. -/
def Follows (a b : Edit) : Prop := a.span.start < b.span.start ∧ a.span.stop ≤ b.span.start

theorem conflictsWith_eq_false_iff {a b : Edit} (ha : a.span.start ≤ a.span.stop)
    (hb : b.span.start ≤ b.span.stop) :
    a.conflictsWith b = false ↔ a.Follows b ∨ b.Follows a := by
  simp only [conflictsWith, Follows, Bool.or_eq_false_iff, beq_eq_false_iff_ne,
    Bool.and_eq_false_iff, decide_eq_false_iff_not]
  omega

theorem conflictsWith_symm {a b : Edit} (h : a.conflictsWith b = false) :
    b.conflictsWith a = false := by
  rwa [conflictsWith_comm]

theorem follows_iff_of_le {a b : Edit} (ha : a.span.start ≤ a.span.stop)
    (hb : b.span.start ≤ b.span.stop) (hle : a.le b = true) :
    a.conflictsWith b = false ↔ a.Follows b := by
  rw [conflictsWith_eq_false_iff ha hb]
  simp only [Edit.le, Bool.or_eq_true, Bool.and_eq_true, decide_eq_true_eq, beq_iff_eq] at hle
  simp only [Follows]
  omega

theorem Follows.trans {a b c : Edit} (hab : a.Follows b) (hbc : b.Follows c) : a.Follows c := by
  simp only [Follows] at *
  omega

end Edit

namespace Patch

theorem pairwise_mergeSort (es : List Edit) :
    (es.mergeSort Edit.le).Pairwise fun a b => a.le b = true := by
  refine List.pairwise_mergeSort ?_ ?_ es
  · intro a b c hab hbc
    simp only [Edit.le, Bool.or_eq_true, Bool.and_eq_true, decide_eq_true_eq, beq_iff_eq] at hab hbc ⊢
    omega
  · intro a b
    simp only [Edit.le, Bool.or_eq_true, Bool.and_eq_true, decide_eq_true_eq, beq_iff_eq]
    omega

theorem firstConflict_eq_none_iff {es : List Edit} (hspan : ∀ e ∈ es, e.span.start ≤ e.span.stop)
    (hsorted : es.Pairwise fun a b => a.le b = true) :
    firstConflict es = none ↔ es.Pairwise Edit.Follows := by
  induction es with
  | nil => simp [firstConflict]
  | cons a es ih =>
    cases es with
    | nil => simp [firstConflict]
    | cons b es =>
      have ha := hspan a (by simp)
      have hb := hspan b (by simp)
      have hfollows := Edit.follows_iff_of_le ha hb (List.rel_of_pairwise_cons hsorted (by simp))
      have hrest := ih (fun e he => hspan e (List.mem_cons_of_mem _ he)) hsorted.tail
      rw [firstConflict]
      constructor
      · intro h
        split at h
        · cases h
        · rename_i hab
          have hab := hfollows.1 (Bool.eq_false_iff.2 hab)
          have htail := hrest.1 h
          refine List.pairwise_cons.2 ⟨?_, htail⟩
          intro c hc
          rcases List.mem_cons.1 hc with rfl | hc
          · exact hab
          · exact hab.trans (List.rel_of_pairwise_cons htail hc)
      · intro h
        have hab := hfollows.2 (List.rel_of_pairwise_cons h (by simp))
        rw [hab, if_neg Bool.false_ne_true]
        exact hrest.2 h.tail

theorem pairwise_conflictsWith_iff {es : List Edit}
    (hspan : ∀ e ∈ es, e.span.start ≤ e.span.stop)
    (hsorted : es.Pairwise fun a b => a.le b = true) :
    es.Pairwise (fun a b => a.conflictsWith b = false) ↔ es.Pairwise Edit.Follows := by
  constructor
  · intro h
    refine (h.and hsorted).imp_of_mem ?_
    rintro a b ha hb ⟨hab, hle⟩
    exact (Edit.follows_iff_of_le (hspan a ha) (hspan b hb) hle).1 hab
  · intro h
    refine h.imp_of_mem ?_
    intro a b ha hb hab
    exact (Edit.conflictsWith_eq_false_iff (hspan a ha) (hspan b hb)).2 (.inl hab)

theorem ofEdits_eq_ok_iff {es : List Edit} (hspan : ∀ e ∈ es, e.span.start ≤ e.span.stop)
    {p : Patch} :
    ofEdits es = .ok p ↔ es ≠ [] ∧ (es.Pairwise fun a b => a.conflictsWith b = false) ∧
      p = ⟨es.mergeSort Edit.le⟩ := by
  have hperm := List.mergeSort_perm es Edit.le
  have hsorted := pairwise_mergeSort es
  have hspan' : ∀ e ∈ es.mergeSort Edit.le, e.span.start ≤ e.span.stop :=
    fun e he => hspan e (hperm.mem_iff.1 he)
  have hconflict : (es.Pairwise fun a b => a.conflictsWith b = false) ↔
      firstConflict (es.mergeSort Edit.le) = none := by
    rw [firstConflict_eq_none_iff hspan' hsorted, ← pairwise_conflictsWith_iff hspan' hsorted]
    exact (hperm.pairwise_iff Edit.conflictsWith_symm).symm
  rw [hconflict]
  unfold ofEdits
  by_cases hempty : es = []
  · simp [hempty]
  · rw [if_neg (by simpa using hempty)]
    dsimp only
    cases firstConflict (es.mergeSort Edit.le) with
    | none => simp [hempty, eq_comm]
    | some pair => simp

structure Consistent (p : Patch) : Prop where
  nonempty : p.edits ≠ []
  span_le : ∀ e ∈ p.edits, e.span.start ≤ e.span.stop
  follows : p.edits.Pairwise Edit.Follows

theorem consistent_single {e : Edit} (h : e.span.start ≤ e.span.stop) : (single e).Consistent :=
  ⟨by simp [single], by simpa [single] using h, by simp [single]⟩

theorem perm_of_ofEdits {es : List Edit} {p : Patch} (h : ofEdits es = .ok p) : p.edits.Perm es := by
  unfold ofEdits at h
  split at h
  · cases h
  · dsimp only at h
    split at h
    · cases h
    · cases h
      exact List.mergeSort_perm es Edit.le

theorem consistent_of_ofEdits {es : List Edit} {p : Patch} (h : ofEdits es = .ok p)
    (hspan : ∀ e ∈ es, e.span.start ≤ e.span.stop) : p.Consistent := by
  have hperm := perm_of_ofEdits h
  have hspan' : ∀ e ∈ p.edits, e.span.start ≤ e.span.stop :=
    fun e he => hspan e (hperm.mem_iff.1 he)
  obtain ⟨hne, hpairwise, rfl⟩ := (ofEdits_eq_ok_iff hspan).1 h
  refine ⟨fun hnil => hne (hperm.symm.trans (.of_eq hnil)).eq_nil, hspan', ?_⟩
  rw [← pairwise_conflictsWith_iff hspan' (pairwise_mergeSort es)]
  exact (hperm.pairwise_iff Edit.conflictsWith_symm).2 hpairwise

namespace Consistent

variable {p : Patch} {t : Text}

theorem inOrder_of_placed {es : List Edit} (hfollows : es.Pairwise Edit.Follows)
    (hplaced : ∀ e ∈ es, e.span.Placed t) {start : Nat} (hstart : ∀ e ∈ es, start ≤ e.span.start) :
    InOrder t start es := by
  induction es generalizing start with
  | nil => trivial
  | cons e es ih =>
    have he := hplaced e (by simp)
    refine ⟨hstart e (by simp), he.le, he.start, he.stop, ?_⟩
    exact ih hfollows.tail (fun e' he' => hplaced e' (List.mem_cons_of_mem _ he'))
      fun e' he' => (List.rel_of_pairwise_cons hfollows he').2

theorem inOrder (h : p.Consistent) (hplaced : ∀ e ∈ p.edits, e.span.Placed t) :
    InOrder t 0 p.edits :=
  inOrder_of_placed h.follows hplaced fun _ _ => Nat.zero_le _

theorem apply_eq_ok (h : p.Consistent) (hplaced : ∀ e ∈ p.edits, e.span.Placed t) :
    p.apply t = .ok (spliced t 0 p.edits) :=
  Patch.apply_eq_ok (h.inOrder hplaced)

end Consistent

/-! A patch that applies is cut between characters. -/

theorem isBoundary_of_append {u v : Text} {n : Nat} (h : (u ++ v).isBoundary n = true)
    (hle : n ≤ u.size) : u.isBoundary n = true := by
  obtain ⟨x, y, hxy, rfl⟩ := Text.isBoundary_iff.1 h
  rcases List.append_eq_append_iff.1 hxy with ⟨w, rfl, -⟩ | ⟨w, rfl, -⟩
  · have hw : w = [] := by
      rw [Text.size_append] at hle
      exact Text.eq_nil_of_size_eq_zero (by omega)
    rw [hw, List.append_nil]
    exact Text.isBoundary_size u
  · exact Text.isBoundary_iff.2 ⟨x, w, rfl, rfl⟩

theorem isBoundary_of_slice_zero {t : Text} {m n : Nat} (hm : t.isBoundary m = true)
    (h : (t.slice 0 m).isBoundary n = true) : t.isBoundary n = true := by
  obtain ⟨u, v, rfl, rfl⟩ := Text.isBoundary_iff.1 hm
  rw [show (u ++ v).slice 0 u.size = u by simpa using Text.slice_append [] u v] at h
  obtain ⟨x, y, rfl, rfl⟩ := Text.isBoundary_iff.1 h
  exact Text.isBoundary_iff.2 ⟨x, y ++ v, by rw [List.append_assoc], rfl⟩

theorem isBoundary_of_applyEdit {size : Nat} {e : Edit} {t r : Text}
    (h : applyEdit size e t = .ok r) :
    t.isBoundary e.span.start = true ∧ t.isBoundary e.span.stop = true := by
  unfold applyEdit at h
  split at h
  · cases h
  · split at h
    · cases h
    · cases h
    · rename_i before after htake hdrop
      constructor
      · cases hcut : t.splitAt? e.span.start <;> simp_all [Text.take?, Text.isBoundary]
      · cases hcut : t.splitAt? e.span.stop <;> simp_all [Text.drop?, Text.isBoundary]

/-- Edits are applied from the last to the first, so what stands before an edit is still the old text
when its turn comes. -/
theorem placed_of_applyEdits {t r : Text} {es : List Edit}
    (hspan : ∀ e ∈ es, e.span.start ≤ e.span.stop) (hfollows : es.Pairwise Edit.Follows)
    (h : applyEdits t.size es t = .ok r) : ∀ e ∈ es, e.span.Placed t := by
  induction es generalizing r with
  | nil => simp
  | cons e es ih =>
    rw [applyEdits] at h
    cases hrest : applyEdits t.size es t with
    | error err =>
      rw [hrest] at h
      cases h
    | ok u =>
      rw [hrest] at h
      have hes := ih (fun e' he' => hspan e' (List.mem_cons_of_mem _ he')) hfollows.tail hrest
      have hle := hspan e (by simp)
      obtain ⟨hstart, hstop⟩ := isBoundary_of_applyEdit h
      refine List.forall_mem_cons.2 ⟨?_, hes⟩
      cases es with
      | nil =>
        cases hrest
        exact ⟨hle, hstart, hstop⟩
      | cons e' es =>
        have hinOrder : InOrder t 0 (e' :: es) :=
          Consistent.inOrder_of_placed hfollows.tail hes fun _ _ => Nat.zero_le _
        rw [applyEdits_eq_ok hinOrder t.isBoundary_zero, t.slice_self t.isBoundary_zero,
          List.nil_append, spliced, List.append_assoc, Except.ok.injEq] at hrest
        have hnext := (hes e' (by simp)).start
        have hbefore : e.span.stop ≤ (t.slice 0 e'.span.start).size := by
          rw [Text.size_slice_zero hnext]
          exact (List.rel_of_pairwise_cons hfollows (by simp)).2
        rw [← hrest] at hstart hstop
        exact ⟨hle, isBoundary_of_slice_zero hnext (isBoundary_of_append hstart (by omega)),
          isBoundary_of_slice_zero hnext (isBoundary_of_append hstop hbefore)⟩

theorem Consistent.placed_of_apply {p : Patch} (h : p.Consistent) {t r : Text}
    (happly : p.apply t = .ok r) : ∀ e ∈ p.edits, e.span.Placed t :=
  placed_of_applyEdits h.span_le h.follows happly

end Patch

end ScriptLint
