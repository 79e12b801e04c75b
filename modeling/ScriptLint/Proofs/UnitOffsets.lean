import ScriptLint.Proofs.SplicedText
import ScriptLint.Text.Units

/-! Offsets in UTF-16 units against offsets in bytes. An entry of the table is the place of a cut of
the text: that before the character of the unit, or the end of the text. All else is read off that:
how far the table reaches, that its entries ascend, and that a place is found again by its units. -/
namespace ScriptLint

theorem unitsOf_pos (c : Char) : 0 < unitsOf c := by
  unfold unitsOf
  split <;> omega

namespace Text

variable {t : Text} {n a b : Nat}

@[simp] theorem units_nil : units [] = 0 := rfl

@[simp] theorem units_cons (c : Char) (t : Text) : units (c :: t) = unitsOf c + units t := rfl

@[simp] theorem units_append (t u : Text) : units (t ++ u) = units t + units u := by
  induction t with
  | nil => simp
  | cons c t ih => simp [ih, Nat.add_assoc]

@[simp] theorem length_unitOffsets (base : Nat) (t : Text) :
    (unitOffsets base t).length = t.units + 1 := by
  induction t generalizing base with
  | nil => rfl
  | cons c t ih =>
    rw [unitOffsets, List.length_append, List.length_replicate, ih, units_cons, Nat.add_assoc]

/-- Number of offsets that lead to the start of a text: one for each unit of its first character, and
one at the end of all. -/
def offsetsAt : Text → Nat
  | [] => 1
  | c :: _ => unitsOf c

theorem getElem?_unitOffsets_iff {base : Nat} :
    (unitOffsets base t)[n]? = some a ↔
      ∃ u v : Text, t = u ++ v ∧ a = base + u.size ∧ u.units ≤ n ∧ n < u.units + offsetsAt v := by
  induction t generalizing base n with
  | nil =>
    rw [unitOffsets, List.getElem?_singleton]
    constructor
    · intro h
      split at h
      · cases h
        exact ⟨[], [], rfl, rfl, Nat.zero_le _, by simp only [offsetsAt, units_nil]; omega⟩
      · cases h
    · rintro ⟨u, v, huv, rfl, -, hn⟩
      obtain ⟨rfl, rfl⟩ := List.append_eq_nil_iff.1 huv.symm
      simp only [offsetsAt, units_nil] at hn
      rw [if_pos (by omega)]
      rfl
  | cons c t ih =>
    rw [unitOffsets]
    by_cases hn : n < unitsOf c
    · rw [List.getElem?_append_left (by simpa using hn), List.getElem?_replicate, if_pos hn]
      constructor
      · intro h
        cases h
        exact ⟨[], c :: t, rfl, rfl, Nat.zero_le _, by simpa [offsetsAt] using hn⟩
      · rintro ⟨u, v, huv, rfl, hle, -⟩
        cases u with
        | nil => rfl
        | cons d u =>
          obtain ⟨rfl, rfl⟩ := List.cons.inj huv
          simp only [units_cons] at hle
          omega
    · rw [List.getElem?_append_right (by simpa using hn), List.length_replicate, ih]
      constructor
      · rintro ⟨u, v, rfl, rfl, hle, hlt⟩
        refine ⟨c :: u, v, rfl, ?_, ?_, ?_⟩
        · rw [size_cons, Nat.add_assoc]
        · rw [units_cons]
          omega
        · rw [units_cons]
          omega
      · rintro ⟨u, v, huv, rfl, hle, hlt⟩
        cases u with
        | nil =>
          subst huv
          simp only [units_nil, offsetsAt] at hlt
          omega
        | cons d u =>
          obtain ⟨rfl, rfl⟩ := List.cons.inj huv
          simp only [units_cons] at hle hlt
          exact ⟨u, v, rfl, by rw [size_cons, Nat.add_assoc], by omega, by omega⟩

theorem unitOffsets_of_isAscii (h : t.isAscii = true) (base : Nat) :
    unitOffsets base t = List.range' base (t.size + 1) := by
  induction t generalizing base with
  | nil => rfl
  | cons c t ih =>
    rw [isAscii, List.all_cons, Bool.and_eq_true, decide_eq_true_eq] at h
    have hunits : unitsOf c = 1 := if_pos (by omega)
    have hsize : c.utf8Size = 1 :=
      Char.utf8Size_eq_one_iff.2 (UInt32.le_iff_toNat_le.2 (Nat.le_of_lt_succ h.1))
    rw [unitOffsets, hunits, ih h.2, size_cons, hsize, Nat.add_comm 1, List.range'_succ]
    rfl

theorem byteOffset?_offsetMap (t : Text) (n : Nat) :
    t.offsetMap.byteOffset? n = t.offsetTable.byteOffset? n := by
  unfold offsetMap
  split
  · rename_i h
    simp only [OffsetMap.byteOffset?, offsetTable, List.getElem?_toArray, unitOffsets_of_isAscii h]
    split
    · rw [List.getElem?_range' (by omega)]
      simp
    · rw [List.getElem?_eq_none_iff.2 (by rw [List.length_range']; omega)]
  · rfl

theorem byteOffset?_eq (t : Text) (n : Nat) : t.byteOffset? n = (unitOffsets 0 t)[n]? := by
  rw [byteOffset?, byteOffset?_offsetMap]
  exact List.getElem?_toArray

theorem byteOffset?_eq_some_iff :
    t.byteOffset? n = some a ↔
      ∃ u v : Text, t = u ++ v ∧ a = u.size ∧ u.units ≤ n ∧ n < u.units + offsetsAt v := by
  rw [byteOffset?_eq, getElem?_unitOffsets_iff]
  simp only [Nat.zero_add]

theorem isSome_byteOffset?_iff : (t.byteOffset? n).isSome = true ↔ n ≤ t.units := by
  simp [byteOffset?_eq]

theorem isBoundary_of_byteOffset? (h : t.byteOffset? n = some a) : t.isBoundary a = true := by
  obtain ⟨u, v, rfl, rfl, -, -⟩ := byteOffset?_eq_some_iff.1 h
  exact isBoundary_iff.2 ⟨u, v, rfl, rfl⟩

theorem pairwise_unitOffsets (base : Nat) (t : Text) : (unitOffsets base t).Pairwise (· ≤ ·) := by
  induction t generalizing base with
  | nil => exact List.pairwise_singleton _ _
  | cons c t ih =>
    refine List.pairwise_append.2 ⟨List.pairwise_replicate.2 (.inr (Nat.le_refl _)), ih _, ?_⟩
    intro x hx y hy
    obtain ⟨i, hi⟩ := List.mem_iff_getElem?.1 hy
    obtain ⟨u, v, -, rfl, -, -⟩ := getElem?_unitOffsets_iff.1 hi
    obtain rfl := List.eq_of_mem_replicate hx
    omega

theorem byteOffset?_mono {m : Nat} (hmn : m ≤ n) (ha : t.byteOffset? m = some a)
    (hb : t.byteOffset? n = some b) : a ≤ b := by
  rw [byteOffset?_eq] at ha hb
  rcases Nat.lt_or_eq_of_le hmn with hlt | rfl
  · obtain ⟨hm, rfl⟩ := List.getElem?_eq_some_iff.1 ha
    obtain ⟨hn, rfl⟩ := List.getElem?_eq_some_iff.1 hb
    exact List.pairwise_iff_getElem.1 (pairwise_unitOffsets 0 t) m n hm hn hlt
  · exact Nat.le_of_eq (Option.some.inj (ha.symm.trans hb))

theorem offsetsAt_pos (v : Text) : 0 < offsetsAt v := by
  cases v with
  | nil => exact Nat.one_pos
  | cons c v => exact unitsOf_pos c

theorem byteOffset?_units (u v : Text) : (u ++ v).byteOffset? u.units = some u.size :=
  byteOffset?_eq_some_iff.2
    ⟨u, v, rfl, rfl, Nat.le_refl _, Nat.lt_add_of_pos_right (offsetsAt_pos v)⟩

end Text

end ScriptLint
