import Mathlib
import ScriptLint.Casing
import ScriptLint.Proofs.CommentPatterns

/-! Capitals of letters. Whatever a character becomes in upper case, it is no small letter of ASCII,
and it is a blank only if the character is one. -/
namespace ScriptLint

namespace Unicode

def smallOrBlank : List (Nat × Nat) := (97, 122) :: Regex.blankSet.ranges

/-- A shift whose images all lie before a range or behind it. -/
structure Shift.StaysOutside (s : Shift) (r : Nat × Nat) : Prop where
  pos : 0 < r.1
  outside : (r.2 : Int) < s.range.low + s.delta ∨ s.range.high + s.delta < (r.1 : Int)

instance (s : Shift) (r : Nat × Nat) : Decidable (s.StaysOutside r) :=
  decidable_of_iff (0 < r.1 ∧ ((r.2 : Int) < s.range.low + s.delta ∨
    s.range.high + s.delta < (r.1 : Int))) ⟨fun ⟨h, h'⟩ => ⟨h, h'⟩, fun ⟨h, h'⟩ => ⟨h, h'⟩⟩

theorem Shift.StaysOutside.not_covers {s : Shift} {r : Nat × Nat} (h : s.StaysOutside r) {n m : Nat}
    (hm : s.apply? n = some m) : ¬(r.1 ≤ m ∧ m ≤ r.2) := by
  obtain ⟨hpos, h⟩ := h
  unfold Shift.apply? at hm
  split at hm
  · rename_i hn
    cases hm
    simp only [CodeRange.has, Bool.and_eq_true, decide_eq_true_eq] at hn
    omega
  · cases hm

set_option maxRecDepth 1000 in
theorem stayOutside_upperShifts : ∀ r ∈ smallOrBlank, ∀ s ∈ upperShifts, s.StaysOutside r := by
  decide

theorem outside_upperSequences :
    ∀ r ∈ smallOrBlank, ∀ p ∈ upperSequences, ∀ n ∈ p.2, ¬(r.1 ≤ n ∧ n ≤ r.2) := by
  decide

theorem toUpper_of_lt {c : Char} (h : c.toNat < 128) : toUpper c = [c.toUpper] := if_pos h

set_option maxRecDepth 1000 in
theorem ascii_toUpper {c : Char} (h : c.toNat < 128) :
    c.toUpper.isLower = false ∧ (isBlank c.toUpper = true → isBlank c = true) ∧
      smallLetter c.toUpper = smallLetter c ∧ isLowercase c.toUpper = false := by
  have hall : ∀ n ∈ List.range 128, (Char.ofNat n).toUpper.isLower = false ∧
      (isBlank (Char.ofNat n).toUpper = true → isBlank (Char.ofNat n) = true) ∧
      smallLetter (Char.ofNat n).toUpper = smallLetter (Char.ofNat n) ∧
      isLowercase (Char.ofNat n).toUpper = false := by decide
  simpa only [Char.ofNat_toNat] using hall c.toNat (List.mem_range.2 h)

theorem not_covers_ofNat {n : Nat} {r : Nat × Nat} (hpos : 0 < r.1) (h : ¬(r.1 ≤ n ∧ n ≤ r.2)) :
    ¬(r.1 ≤ (Char.ofNat n).toNat ∧ (Char.ofNat n).toNat ≤ r.2) := by
  rw [Char.toNat_ofNat]
  split
  · exact h
  · omega

/-- Beyond ASCII, a capital is outside of every range that the tables avoid, or it is the character
itself. -/
theorem outside_of_mem_toUpper {c x : Char} (hc : 128 ≤ c.toNat) (hx : x ∈ toUpper c) :
    x = c ∨ ¬CodeSet.Covers smallOrBlank x.toNat := by
  have hpos : ∀ r ∈ smallOrBlank, 0 < r.1 := by decide
  rw [toUpper, if_neg (by omega)] at hx
  split at hx
  · rename_i codes hcodes
    obtain ⟨n, hn, rfl⟩ := List.mem_map.1 hx
    obtain ⟨l, l', heq, -⟩ := List.lookup_eq_some_iff.1 hcodes
    refine .inr fun ⟨r, hr, hcovers⟩ => not_covers_ofNat (hpos r hr) ?_ hcovers
    exact outside_upperSequences r hr (c.toNat, codes) (by simp [heq]) n hn
  · rw [List.mem_singleton.1 hx, shiftBy]
    cases hfound : upperShifts.findSome? fun s => s.apply? c.toNat with
    | none => exact .inl (Char.ofNat_toNat c)
    | some m =>
      obtain ⟨s, hs, hm⟩ := List.exists_of_findSome?_eq_some hfound
      refine .inr fun ⟨r, hr, hcovers⟩ => not_covers_ofNat (hpos r hr) ?_ hcovers
      exact (stayOutside_upperShifts r hr s hs).not_covers hm

theorem isLower_of_mem_toUpper {c x : Char} (hx : x ∈ toUpper c) : x.isLower = false := by
  by_cases hc : c.toNat < 128
  · rw [toUpper_of_lt hc, List.mem_singleton] at hx
    exact hx ▸ (ascii_toUpper hc).1
  rw [Bool.eq_false_iff]
  intro hlower
  have hbounds := bounds_of_isLower hlower
  rcases outside_of_mem_toUpper (by omega) hx with rfl | houtside
  · omega
  · exact houtside ⟨(97, 122), by simp [smallOrBlank], hbounds⟩

theorem isBlank_of_mem_toUpper {c x : Char} (hx : x ∈ toUpper c) (hblank : isBlank x = true) :
    isBlank c = true := by
  by_cases hc : c.toNat < 128
  · rw [toUpper_of_lt hc, List.mem_singleton] at hx
    exact (ascii_toUpper hc).2.1 (hx ▸ hblank)
  rcases outside_of_mem_toUpper (by omega) hx with rfl | houtside
  · exact hblank
  · obtain ⟨r, hr, hcovers⟩ := CodeSet.covers_of_inAscending (Regex.has_blankSet.2 hblank)
    exact absurd ⟨r, List.mem_cons_of_mem _ hr, hcovers⟩ houtside

theorem toUpper_ne_nil (c : Char) : toUpper c ≠ [] := by
  have hall : ∀ p ∈ upperSequences, p.2 ≠ [] := by decide
  rw [toUpper]
  split
  · simp
  · split
    · rename_i codes hcodes
      obtain ⟨l, l', heq, -⟩ := List.lookup_eq_some_iff.1 hcodes
      simpa using hall (c.toNat, codes) (by simp [heq])
    · simp

end Unicode

end ScriptLint
