import ScriptLint.Proofs.LinesBetween

/-! Places by line and column. The line of an offset counts the feeds among the bytes before it, and
on one line columns count characters, so line and column together order places as offsets do. -/
namespace ScriptLint.Text

def bytes (t : Text) : List UInt8 := t.flatMap String.utf8EncodeChar

def placeOf (t : Text) (offset : Nat) : Nat ×ₗ Nat := toLex (t.lineOf offset, t.columnOf offset)

theorem bytes_cons (c : Char) (t : Text) : bytes (c :: t) = String.utf8EncodeChar c ++ bytes t :=
  List.flatMap_cons

@[simp] theorem length_bytes (t : Text) : t.bytes.length = t.size := by
  induction t with
  | nil => rfl
  | cons c t ih => rw [bytes_cons, List.length_append, String.length_utf8EncodeChar, ih, size_cons]

/-- A feed is one byte, and no part of another character looks like one. -/
theorem ten_notMem_utf8EncodeChar {c : Char} (hc : c ≠ '\n') : 10 ∉ String.utf8EncodeChar c := by
  have hval : c.val.toNat ≠ 10 := fun h => hc (Char.ext (UInt32.toNat_inj.1 h))
  have hten (n : Nat) : 10 = UInt8.ofNat n ↔ n % 256 = 10 := by
    rw [← UInt8.toNat_inj, UInt8.toNat_ofNat', eq_comm]
    rfl
  simp only [String.utf8EncodeChar]
  split_ifs <;> simp only [List.mem_cons, List.not_mem_nil, or_false, hten] <;> omega

theorem countP_startsAfterFeeds (base n : Nat) (t : Text) :
    ((startsAfterFeeds base t).countP fun a => decide (a ≤ base + n)) =
      (t.bytes.take n).count 10 := by
  induction t generalizing base n with
  | nil => simp [startsAfterFeeds, bytes]
  | cons c t ih =>
    rw [startsAfterFeeds, bytes_cons]
    split
    · rename_i hc
      subst hc
      cases n with
      | zero =>
        rw [List.countP_cons, countP_startsAfterFeeds_eq_zero (by omega)]
        simp
      | succ n =>
        rw [List.countP_cons, Nat.add_comm n 1, ← Nat.add_assoc, ih,
          show String.utf8EncodeChar '\n' = [10] from by decide]
        simp [Nat.add_comm 1 n]
    · rename_i hc
      have hnone : ((String.utf8EncodeChar c).take n).count 10 = 0 :=
        List.count_eq_zero_of_not_mem fun h => ten_notMem_utf8EncodeChar hc (List.mem_of_mem_take h)
      rw [List.take_append, List.count_append, hnone, Nat.zero_add, String.length_utf8EncodeChar]
      rcases Nat.le_total c.utf8Size n with hle | hle
      · rw [← ih (base + c.utf8Size)]
        exact congrArg (fun m => List.countP (fun a => decide (a ≤ m)) _) (by omega)
      · rw [countP_startsAfterFeeds_eq_zero (by omega), Nat.sub_eq_zero_of_le hle]
        simp

theorem lineOf_eq_count (t : Text) (offset : Nat) :
    t.lineOf offset = 1 + (t.bytes.take offset).count 10 := by
  have hfeeds := countP_startsAfterFeeds 0 offset t
  rw [Nat.zero_add] at hfeeds
  rw [lineOf, lineStarts, List.countP_cons, hfeeds]
  simp [Nat.add_comm]

theorem placeOf_lt_placeOf {t : Text} {a b : Nat} (ha : t.isBoundary a = true)
    (hb : t.isBoundary b = true) (hab : a < b) : t.placeOf a < t.placeOf b := by
  obtain ⟨u, v, w, rfl, rfl, rfl⟩ := exists_append_of_boundaries ha hb (Nat.le_of_lt hab)
  rw [placeOf, placeOf, Prod.Lex.toLex_lt_toLex, lineOf_left, lineOf_right]
  by_cases hfeed : '\n' ∈ v
  · have hpos := List.count_pos_iff.2 hfeed
    exact .inl (by dsimp only; omega)
  · -- Both places are on one line, and the characters between them are on it too.
    obtain ⟨x, y, rfl, hx, hy⟩ := exists_last_line u
    have hlength : 0 < v.length := by
      refine List.length_pos_iff.2 ?_
      rintro rfl
      simp at hab
    have hleft := columnOf_append hx hy (v ++ w)
    have hright := columnOf_append hx (y := y ++ v) (by simp [hy, hfeed]) w
    rw [← List.append_assoc] at hleft hright
    refine .inr ⟨by rw [List.count_eq_zero_of_not_mem hfeed], ?_⟩
    dsimp only
    rw [hleft, hright, List.length_append]
    omega

theorem strictMonoOn_placeOf (t : Text) : StrictMonoOn t.placeOf {o | t.isBoundary o = true} :=
  fun _ ha _ hb hab => placeOf_lt_placeOf ha hb hab

theorem placeOf_le_placeOf_iff {t : Text} {a b : Nat} (ha : t.isBoundary a = true)
    (hb : t.isBoundary b = true) : t.placeOf a ≤ t.placeOf b ↔ a ≤ b :=
  t.strictMonoOn_placeOf.le_iff_le ha hb

end ScriptLint.Text
