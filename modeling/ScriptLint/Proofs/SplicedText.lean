import Mathlib
import ScriptLint.Patch
import ScriptLint.Syntax.Source

/-! Applying edits in source order. The patched text is what stands between the edits with the
replacements put in. -/
namespace ScriptLint

namespace Text

variable {t : Text} {a b c : Nat}

theorem isBoundary_iff : t.isBoundary a = true ↔ ∃ u v : Text, t = u ++ v ∧ u.size = a := by
  rw [isBoundary, Option.isSome_iff_exists]
  constructor
  · rintro ⟨⟨u, v⟩, h⟩
    exact ⟨u, v, eq_append_of_splitAt? h⟩
  · rintro ⟨u, v, rfl, rfl⟩
    exact ⟨_, splitAt?_append u v⟩

theorem isBoundary_zero (t : Text) : t.isBoundary 0 = true := isBoundary_iff.2 ⟨[], t, rfl, rfl⟩

theorem isBoundary_size (t : Text) : t.isBoundary t.size = true :=
  isBoundary_iff.2 ⟨t, [], by simp, rfl⟩

theorem le_size_of_isBoundary (h : t.isBoundary a = true) : a ≤ t.size := by
  obtain ⟨u, v, rfl, rfl⟩ := isBoundary_iff.1 h
  rw [size_append]
  omega

theorem eq_nil_of_size_eq_zero {u : Text} (h : u.size = 0) : u = [] := by
  cases u with
  | nil => rfl
  | cons c u =>
    have := c.utf8Size_pos
    simp only [size_cons] at h
    omega

theorem exists_append_of_boundaries (ha : t.isBoundary a = true) (hb : t.isBoundary b = true)
    (hab : a ≤ b) : ∃ u v w : Text, t = u ++ v ++ w ∧ u.size = a ∧ (u ++ v).size = b := by
  obtain ⟨u, u', hu, rfl⟩ := isBoundary_iff.1 ha
  obtain ⟨x, w, hx, rfl⟩ := isBoundary_iff.1 hb
  rw [hu] at hx
  rcases List.append_eq_append_iff.1 hx with ⟨v, rfl, rfl⟩ | ⟨v, rfl, rfl⟩
  · exact ⟨u, v, w, by rw [hu, List.append_assoc], rfl, rfl⟩
  · have hv : v = [] := by
      rw [size_append] at hab
      exact eq_nil_of_size_eq_zero (by omega)
    subst hv
    exact ⟨x, [], u', by simpa using hu, by simp, by simp⟩

theorem slice_append (u v w : Text) : (u ++ v ++ w).slice u.size (u ++ v).size = v := by
  have hsize : (u ++ v).size - u.size = v.size := by
    rw [size_append]
    omega
  have hle : u.size ≤ (u ++ v).size := by
    rw [size_append]
    omega
  rw [slice, slice?, if_pos hle, drop?, List.append_assoc, splitAt?_append, Option.map_some,
    Option.bind_some, take?, hsize, splitAt?_append, Option.map_some, Option.getD_some]

theorem append_inj_of_size {u v x y : Text} (h : u ++ v = x ++ y) (hsize : u.size = x.size) :
    u = x ∧ v = y := by
  rcases List.append_eq_append_iff.1 h with ⟨w, rfl, rfl⟩ | ⟨w, rfl, rfl⟩
  · have hw : w = [] := by
      rw [size_append] at hsize
      exact eq_nil_of_size_eq_zero (by omega)
    simp [hw]
  · have hw : w = [] := by
      rw [size_append] at hsize
      exact eq_nil_of_size_eq_zero (by omega)
    simp [hw]

theorem slice_append_slice (ha : t.isBoundary a = true) (hb : t.isBoundary b = true)
    (hc : t.isBoundary c = true) (hab : a ≤ b) (hbc : b ≤ c) :
    t.slice a b ++ t.slice b c = t.slice a c := by
  obtain ⟨u, v, w, ht, rfl, rfl⟩ := exists_append_of_boundaries ha hb hab
  obtain ⟨x, y, z, ht', hx, rfl⟩ := exists_append_of_boundaries hb hc hbc
  obtain ⟨rfl, rfl⟩ := append_inj_of_size (by rw [← ht, ht', List.append_assoc]) hx.symm
  have hleft : t.slice u.size (u ++ v).size = v := by
    rw [ht]
    exact slice_append u v (y ++ z)
  have hright : t.slice (u ++ v).size (u ++ v ++ y).size = y := by
    rw [ht']
    exact slice_append (u ++ v) y z
  have hboth : t.slice u.size (u ++ v ++ y).size = v ++ y := by
    rw [ht', List.append_assoc u v y]
    exact slice_append u (v ++ y) z
  rw [hleft, hright, hboth]

theorem slice_zero_size (t : Text) : t.slice 0 t.size = t := by
  simpa using slice_append [] t []

theorem slice_self (t : Text) (ha : t.isBoundary a = true) : t.slice a a = [] := by
  obtain ⟨u, v, rfl, rfl⟩ := isBoundary_iff.1 ha
  simpa using slice_append u [] v

theorem isBoundary_of_slice? {u : Text} (h : t.slice? a b = some u) :
    t.isBoundary a = true ∧ t.isBoundary b = true := by
  rw [slice?] at h
  split at h
  · rename_i hle
    simp only [drop?, take?, Option.bind_eq_some_iff, Option.map_eq_some_iff] at h
    obtain ⟨_, ⟨⟨v, w⟩, hvw, rfl⟩, ⟨x, y⟩, hxy, rfl⟩ := h
    obtain ⟨rfl, rfl⟩ := eq_append_of_splitAt? hvw
    obtain ⟨rfl, hsize⟩ := eq_append_of_splitAt? hxy
    refine ⟨isBoundary_iff.2 ⟨v, x ++ y, rfl, rfl⟩, isBoundary_iff.2 ⟨v ++ x, y, ?_, ?_⟩⟩
    · rw [List.append_assoc]
    · rw [size_append, hsize]
      omega
  · cases h

theorem size_slice_zero (ha : t.isBoundary a = true) : (t.slice 0 a).size = a := by
  obtain ⟨u, v, rfl, rfl⟩ := isBoundary_iff.1 ha
  rw [show (u ++ v).slice 0 u.size = u by simpa using slice_append [] u v]

theorem size_slice (ha : t.isBoundary a = true) (hb : t.isBoundary b = true) (hab : a ≤ b) :
    (t.slice a b).size = b - a := by
  obtain ⟨u, v, w, rfl, rfl, rfl⟩ := exists_append_of_boundaries ha hb hab
  rw [slice_append, size_append]
  omega

end Text

namespace Patch

def spliced (t : Text) : Nat → List Edit → Text
  | start, [] => t.slice start t.size
  | start, e :: es =>
    t.slice start e.span.start ++ e.replacement.toList ++ spliced t e.span.stop es

def InOrder (t : Text) : Nat → List Edit → Prop
  | _, [] => True
  | start, e :: es => start ≤ e.span.start ∧ e.span.start ≤ e.span.stop ∧
      t.isBoundary e.span.start = true ∧ t.isBoundary e.span.stop = true ∧
      InOrder t e.span.stop es

theorem InOrder.mono {t : Text} {start start' : Nat} {es : List Edit} (h : InOrder t start es)
    (hle : start' ≤ start) : InOrder t start' es := by
  cases es with
  | nil => trivial
  | cons e es => exact ⟨Nat.le_trans hle h.1, h.2⟩

theorem InOrder.pairwise {t : Text} {start : Nat} {es : List Edit} (h : InOrder t start es) :
    (∀ e ∈ es, start ≤ e.span.start) ∧ es.Pairwise fun a b => a.span.stop ≤ b.span.start := by
  induction es generalizing start with
  | nil => exact ⟨by simp, .nil⟩
  | cons e es ih =>
    obtain ⟨hle, hspan, -, -, hrest⟩ := h
    obtain ⟨hfrom, hpairwise⟩ := ih hrest
    refine ⟨List.forall_mem_cons.2 ⟨hle, fun e' he' => ?_⟩, List.pairwise_cons.2 ⟨hfrom, hpairwise⟩⟩
    have := hfrom e' he'
    omega

theorem slice_append_spliced {t : Text} {start mid : Nat} {es : List Edit}
    (hstart : t.isBoundary start = true) (hmid : t.isBoundary mid = true) (hle : start ≤ mid)
    (h : InOrder t mid es) : t.slice start mid ++ spliced t mid es = spliced t start es := by
  cases es with
  | nil =>
    exact Text.slice_append_slice hstart hmid t.isBoundary_size hle (Text.le_size_of_isBoundary hmid)
  | cons e es =>
    simp only [spliced, ← List.append_assoc]
    rw [Text.slice_append_slice hstart hmid h.2.2.1 hle h.1]

theorem applyEdits_eq_ok {t : Text} {start : Nat} {es : List Edit} (h : InOrder t start es)
    (hstart : t.isBoundary start = true) :
    applyEdits t.size es t = .ok (t.slice 0 start ++ spliced t start es) := by
  induction es generalizing start with
  | nil =>
    rw [applyEdits, spliced, Text.slice_append_slice t.isBoundary_zero hstart t.isBoundary_size
      (Nat.zero_le _) (Text.le_size_of_isBoundary hstart), Text.slice_zero_size]
  | cons e es ih =>
    obtain ⟨hle, hspan, hb, hb', hrest⟩ := h
    have hsplit := Text.slice_append_slice t.isBoundary_zero hb hb' (Nat.zero_le _) hspan
    have htake : (t.slice 0 e.span.stop ++ spliced t e.span.stop es).take? e.span.start =
        some (t.slice 0 e.span.start) := by
      have hcut := Text.splitAt?_append (t.slice 0 e.span.start)
        (t.slice e.span.start e.span.stop ++ spliced t e.span.stop es)
      rw [Text.size_slice_zero hb] at hcut
      rw [← hsplit, List.append_assoc, Text.take?, hcut, Option.map_some]
    have hdrop : (t.slice 0 e.span.stop ++ spliced t e.span.stop es).drop? e.span.stop =
        some (spliced t e.span.stop es) := by
      have hcut := Text.splitAt?_append (t.slice 0 e.span.stop) (spliced t e.span.stop es)
      rw [Text.size_slice_zero hb'] at hcut
      rw [Text.drop?, hcut, Option.map_some]
    have hsize : ¬ (t.slice 0 e.span.stop ++ spliced t e.span.stop es).size < e.span.stop := by
      rw [Text.size_append, Text.size_slice_zero hb']
      omega
    rw [applyEdits, ih hrest hb', Except.bind, applyEdit, if_neg hsize, htake, hdrop]
    dsimp only
    rw [spliced, ← Text.slice_append_slice t.isBoundary_zero hstart hb (Nat.zero_le _) hle]
    simp only [List.append_assoc]

theorem apply_eq_ok {t : Text} {es : List Edit} (h : InOrder t 0 es) :
    apply ⟨es⟩ t = .ok (spliced t 0 es) := by
  rw [apply, applyEdits_eq_ok h t.isBoundary_zero, t.slice_self t.isBoundary_zero, List.nil_append]

theorem ofEdits_eq_ok {es : List Edit} (hne : es ≠ [])
    (hspan : ∀ e ∈ es, e.span.start < e.span.stop)
    (h : es.Pairwise fun a b => a.span.stop ≤ b.span.start) : ofEdits es = .ok ⟨es⟩ := by
  have hsorted : es.mergeSort Edit.le = es := by
    refine List.mergeSort_of_pairwise (h.imp_of_mem ?_)
    intro a b ha _ hab
    have := hspan a ha
    simp only [Edit.le, Bool.or_eq_true, Bool.and_eq_true, decide_eq_true_eq, beq_iff_eq]
    omega
  have hconflict : firstConflict es = none := by
    clear hsorted hne
    induction es with
    | nil => rfl
    | cons a es ih =>
      cases es with
      | nil => rfl
      | cons b es =>
        have hab := List.rel_of_pairwise_cons h (List.mem_cons_self)
        have ha := hspan a (by simp)
        rw [firstConflict, if_neg, ih (fun e he => hspan e (List.mem_cons_of_mem _ he)) h.tail]
        simp only [Edit.conflictsWith, Bool.or_eq_true, Bool.and_eq_true, decide_eq_true_eq,
          beq_iff_eq]
        omega
  unfold ofEdits
  rw [if_neg (by simpa using hne)]
  dsimp only
  rw [hsorted, hconflict]

end Patch

end ScriptLint
