import ScriptLint.Proofs.CaselessLetters

/-! Members of sets of characters. Joining sorted ranges changes no membership, so that a set which
is put together from others has their members; the letters of ASCII are among the characters of
words. -/
namespace ScriptLint

namespace Unicode.CodeSet

variable {rs : List (Nat × Nat)} {n : Nat}

def Ascending (rs : List (Nat × Nat)) : Prop := rs.Pairwise fun a b => startsBefore a b = true

def Covers (rs : List (Nat × Nat)) (n : Nat) : Prop := ∃ r ∈ rs, r.1 ≤ n ∧ n ≤ r.2

theorem covers_cons {r : Nat × Nat} : Covers (r :: rs) n ↔ (r.1 ≤ n ∧ n ≤ r.2) ∨ Covers rs n := by
  simp only [Covers, List.mem_cons, exists_eq_or_imp]

theorem not_covers_of_lt (h : ∀ r ∈ rs, n < r.1) : ¬Covers rs n := by
  rintro ⟨r, hr, hle, -⟩
  have := h r hr
  omega

theorem covers_of_inAscending (h : inAscending rs n = true) : Covers rs n := by
  induction rs with
  | nil => cases h
  | cons r rs ih =>
    rw [inAscending] at h
    split at h
    · cases h
    · rename_i hlow
      rcases Bool.or_eq_true_iff.1 h with hhigh | h
      · exact covers_cons.2 (.inl ⟨by omega, of_decide_eq_true hhigh⟩)
      · exact covers_cons.2 (.inr (ih h))

theorem Ascending.cons {r : Nat × Nat} (h : Ascending (r :: rs)) :
    (∀ q ∈ rs, r.1 ≤ q.1) ∧ Ascending rs := by
  obtain ⟨hr, hrs⟩ := List.pairwise_cons.1 h
  exact ⟨fun q hq => of_decide_eq_true (hr q hq), hrs⟩

theorem inAscending_joinFrom {low high : Nat} (hrs : Ascending rs) (hlow : ∀ r ∈ rs, low ≤ r.1) :
    inAscending (joinFrom low high rs) n = true ↔ (low ≤ n ∧ n ≤ high) ∨ Covers rs n := by
  induction rs generalizing low high with
  | nil =>
    simp only [joinFrom, inAscending, Bool.or_false]
    split
    · simp [Covers]; omega
    · simp [Covers]; omega
  | cons r rs ih =>
    obtain ⟨hr, hrs⟩ := hrs.cons
    obtain ⟨hlow, hlows⟩ := List.forall_mem_cons.1 hlow
    rw [joinFrom, covers_cons]
    split
    · rw [ih hrs hlows]
      by_cases hn : Covers rs n
      · simp only [hn, or_true]
      · simp only [hn, or_false]
        omega
    · rw [inAscending]
      split
      · have hnone : ¬Covers rs n := not_covers_of_lt fun q hq => by have := hr q hq; omega
        simp only [hnone, or_false, Bool.false_eq_true, false_iff]
        omega
      · rw [Bool.or_eq_true, decide_eq_true_eq, ih hrs hr]
        exact or_congr_left ⟨fun h => ⟨by omega, h⟩, And.right⟩

theorem inAscending_join (h : Ascending rs) : inAscending (join rs) n = true ↔ Covers rs n := by
  cases rs with
  | nil => simp [join, inAscending, Covers]
  | cons r rs =>
    obtain ⟨hr, hrs⟩ := h.cons
    rw [join, inAscending_joinFrom hrs hr, covers_cons]

theorem startsBefore_trans (a b c : Nat × Nat) (hab : startsBefore a b = true)
    (hbc : startsBefore b c = true) : startsBefore a c = true :=
  decide_eq_true (Nat.le_trans (of_decide_eq_true hab) (of_decide_eq_true hbc))

theorem startsBefore_total (a b : Nat × Nat) : (startsBefore a b || startsBefore b a) = true := by
  simp only [startsBefore, Bool.or_eq_true, decide_eq_true_eq]
  exact Nat.le_total _ _

theorem has_ofRanges {c : Char} : (ofRanges rs).has c = true ↔ Covers rs c.toNat := by
  have hsorted : Ascending (rs.mergeSort startsBefore) :=
    List.pairwise_mergeSort startsBefore_trans startsBefore_total rs
  refine (inAscending_join hsorted).trans ?_
  simp only [Covers, List.mem_mergeSort]

theorem has_unionAll {sets : List CodeSet} {s : CodeSet} {c : Char} (hs : s ∈ sets)
    (h : s.has c = true) : (unionAll sets).has c = true := by
  obtain ⟨r, hr, hcovers⟩ := covers_of_inAscending h
  exact has_ofRanges.2 ⟨r, List.mem_flatMap.2 ⟨s, hs, hr⟩, hcovers⟩

theorem has_ofText {s : String} {cs : List Char} {c : Char} {r : Nat × Nat} (htext : s.toList = cs)
    (hr : r ∈ (((splitBlanks cs).filter fun w => !w.isEmpty).map CodeRange.ofText).flatMap
      progression) (h : r.1 ≤ c.toNat ∧ c.toNat ≤ r.2) : (ofText s).has c = true := by
  subst htext
  exact has_ofRanges.2 ⟨r, hr, h⟩

/-! Sorted ranges stay sorted. -/

theorem exists_of_mem_joinFrom {low high : Nat} {q : Nat × Nat} (hq : q ∈ joinFrom low high rs) :
    q.1 = low ∨ ∃ r ∈ rs, q.1 = r.1 := by
  induction rs generalizing low high with
  | nil => exact .inl (List.mem_singleton.1 hq ▸ rfl)
  | cons r rs ih =>
    rw [joinFrom] at hq
    split at hq
    · rcases ih hq with h | ⟨p, hp, h⟩
      · exact .inl h
      · exact .inr ⟨p, List.mem_cons_of_mem r hp, h⟩
    · rcases List.mem_cons.1 hq with rfl | hq
      · exact .inl rfl
      · rcases ih hq with h | ⟨p, hp, h⟩
        · exact .inr ⟨r, List.mem_cons_self, h⟩
        · exact .inr ⟨p, List.mem_cons_of_mem r hp, h⟩

theorem ascending_joinFrom {low high : Nat} (hrs : Ascending rs) (hlow : ∀ r ∈ rs, low ≤ r.1) :
    Ascending (joinFrom low high rs) := by
  induction rs generalizing low high with
  | nil => exact List.pairwise_singleton _ _
  | cons r rs ih =>
    obtain ⟨hr, hrs⟩ := hrs.cons
    obtain ⟨hlow, hlows⟩ := List.forall_mem_cons.1 hlow
    rw [joinFrom]
    split
    · exact ih hrs hlows
    · refine List.pairwise_cons.2 ⟨fun q hq => decide_eq_true ?_, ih hrs hr⟩
      rcases exists_of_mem_joinFrom hq with h | ⟨p, hp, h⟩
      · exact h ▸ hlow
      · exact h ▸ hlows p hp

theorem ascending_ofRanges (rs : List (Nat × Nat)) : Ascending (ofRanges rs).ranges := by
  have hsorted : Ascending (rs.mergeSort startsBefore) :=
    List.pairwise_mergeSort startsBefore_trans startsBefore_total rs
  rw [ofRanges]
  cases h : rs.mergeSort startsBefore with
  | nil => exact .nil
  | cons r rs =>
    obtain ⟨hr, hrs⟩ := (h ▸ hsorted : Ascending (r :: rs)).cons
    exact ascending_joinFrom hrs hr

theorem has_union {a b : CodeSet} {c : Char} (ha : Ascending a.ranges) (hb : Ascending b.ranges)
    (h : a.has c = true ∨ b.has c = true) : (a.union b).has c = true := by
  refine (inAscending_join (List.pairwise_merge startsBefore_trans startsBefore_total _ _ ha hb)).2 ?_
  simp only [Covers, List.mem_merge]
  rcases h with h | h
  · obtain ⟨r, hr, hcovers⟩ := covers_of_inAscending h
    exact ⟨r, .inl hr, hcovers⟩
  · obtain ⟨r, hr, hcovers⟩ := covers_of_inAscending h
    exact ⟨r, .inr hr, hcovers⟩

end Unicode.CodeSet

/-! Letters of words. -/

open Unicode

variable {c : Char}

set_option maxRecDepth 100000 in
theorem has_capital (h : (65 ≤ c.toNat ∧ c.toNat ≤ 90) ∨ c.toNat = 8490) :
    uppercase.has c = true := by
  refine CodeSet.has_union (CodeSet.ascending_ofRanges _) (CodeSet.ascending_ofRanges _) (.inl ?_)
  rcases h with h | h
  · exact CodeSet.has_ofText (r := (65, 90)) String.toList_ofList (by decide) h
  · exact CodeSet.has_ofText (r := (8490, 8493)) String.toList_ofList (by decide) (by omega)

set_option maxRecDepth 100000 in
theorem has_small (h : (97 ≤ c.toNat ∧ c.toNat ≤ 122) ∨ c.toNat = 383) :
    lowercase.has c = true := by
  refine CodeSet.has_union (CodeSet.ascending_ofRanges _) (CodeSet.ascending_ofRanges _) (.inl ?_)
  rcases h with h | h
  · exact CodeSet.has_ofText (r := (97, 122)) String.toList_ofList (by decide) h
  · exact CodeSet.has_ofText (r := (382, 384)) String.toList_ofList (by decide) (by omega)

theorem isWordChar_of_isLower (h : (smallLetter c).isLower = true) :
    Regex.isWordChar c = true := by
  have hbounds := bounds_of_isLower h
  have halphabetic : alphabetic.has c = true := by
    rcases (smallLetter_eq_iff h).1 rfl with heq | heq | ⟨-, heq⟩ | ⟨-, heq⟩
    · exact CodeSet.has_unionAll (s := lowercase) (by simp) (has_small (by omega))
    · exact CodeSet.has_unionAll (s := uppercase) (by simp) (has_capital (by omega))
    · exact CodeSet.has_unionAll (s := uppercase) (by simp) (has_capital (by omega))
    · exact CodeSet.has_unionAll (s := lowercase) (by simp) (has_small (by omega))
  exact CodeSet.has_unionAll (s := alphabetic) (by simp) halphabetic

end ScriptLint
