import Mathlib
import ScriptLint.Regex.Parser

/-! Letters without regard to case, and how a pattern made of words is read. A small letter of ASCII
stands for itself and its capital; two of them stand for one more character, the Kelvin sign and the
long s. -/
namespace ScriptLint

namespace Unicode

/-- A letter in its small form, of which the Kelvin sign and the long s have one too. -/
def smallLetter (c : Char) : Char :=
  if c.toNat = 8490 then 'k' else if c.toNat = 383 then 's' else c.toLower

theorem bounds_of_isLower {c : Char} (h : c.isLower = true) : 97 ≤ c.toNat ∧ c.toNat ≤ 122 := by
  simpa [Char.isLower, UInt32.le_iff_toNat_le, ← Char.toNat_val] using h

theorem toLower_eq_iff {c x : Char} (hc : c.isLower = true) :
    x.toLower = c ↔ x.toNat = c.toNat ∨ x.toNat = c.toNat - 32 := by
  have hc' := bounds_of_isLower hc
  have hcapital : (x.val ≥ 'A'.val ∧ x.val ≤ 'Z'.val) ↔ 65 ≤ x.toNat ∧ x.toNat ≤ 90 := Iff.rfl
  rw [← Char.toNat_inj, Char.toLower]
  split
  · rename_i h
    have hsum : (x.val + ('a'.val - 'A'.val)).toNat = (x.toNat + 32) % 2 ^ 32 := by
      rw [UInt32.toNat_add]
      rfl
    rw [hcapital] at h
    change (x.val + ('a'.val - 'A'.val)).toNat = c.toNat ↔ _
    rw [hsum]
    omega
  · rename_i h
    rw [hcapital] at h
    omega

theorem smallLetter_eq_iff {c x : Char} (hc : c.isLower = true) :
    smallLetter x = c ↔ x.toNat = c.toNat ∨ x.toNat = c.toNat - 32 ∨
      (c = 'k' ∧ x.toNat = 8490) ∨ (c = 's' ∧ x.toNat = 383) := by
  have hbounds := bounds_of_isLower hc
  rw [smallLetter]
  split_ifs with hkelvin hlong
  · have hfar : ¬ 8490 = c.toNat ∧ ¬ 8490 = c.toNat - 32 := by omega
    simp [hkelvin, hfar, eq_comm]
  · have hfar : ¬ 383 = c.toNat ∧ ¬ 383 = c.toNat - 32 := by omega
    simp [hlong, hfar, eq_comm]
  · rw [toLower_eq_iff hc]
    simp [hkelvin, hlong]

theorem Shift.between_eq_nil {s : Shift} {low high : Nat}
    (h : high < s.range.low ∨ s.range.high < low) : s.between low high = [] := by
  rw [between, if_pos (by simpa using h)]

theorem Shift.image_eq_nil {s : Shift} {n : Nat} (h : n < s.range.low ∨ s.range.high < n) :
    s.image (n, n) = [] := by
  rw [image, between_eq_nil h, List.map_nil]

theorem Shift.preimage_eq_nil {s : Shift} {n : Nat}
    (h : (n : Int) < s.range.low + s.delta ∨ s.range.high + s.delta < (n : Int)) :
    s.preimage (n, n) = [] := by
  unfold preimage
  split
  · rfl
  · exact between_eq_nil (by omega)

namespace CodeSet

def letter (c : Char) : CodeSet :=
  if c = 'k' then ⟨[(75, 75), (107, 107), (8490, 8490)]⟩
  else if c = 's' then ⟨[(83, 83), (115, 115), (383, 383)]⟩
  else ⟨[(c.toNat - 32, c.toNat - 32), (c.toNat, c.toNat)]⟩

theorem has_letter {c x : Char} (hc : c.isLower = true) :
    (letter c).has x = true ↔ smallLetter x = c := by
  rw [smallLetter_eq_iff hc, has, letter]
  split_ifs with hk hs
  · subst hk
    simp [inAscending]
    omega
  · subst hs
    simp [inAscending]
    omega
  · simp [inAscending, hk, hs]
    omega

/-- The first shift is the one of the capitals of ASCII; the others begin behind the small letters,
and lead to none of them but `k` and `s`. -/
theorem foldShifts_letter {n : Nat} (hlow : 97 ≤ n) (hhigh : n ≤ 122) (hk : n ≠ 107) (hs : n ≠ 115) :
    (foldShifts.flatMap fun shift => shift.image (n, n)) = [] ∧
      (foldShifts.flatMap fun shift => shift.preimage (n, n)) = [n - 32] := by
  have hfirst : ∀ n ∈ List.range' 97 26,
      Shift.preimage ⟨⟨65, 90, 1⟩, 32⟩ (n, n) = [n - 32] := by decide
  have hrest : ∀ s ∈ foldShifts.tail, 122 < s.range.low ∧ (122 < s.range.low + s.delta ∨
      (s.range.low + s.delta = 107 ∧ s.range.high + s.delta = 107) ∨
      (s.range.low + s.delta = 115 ∧ s.range.high + s.delta = 115)) := by decide +kernel
  have himage : (foldShifts.tail.flatMap fun shift => shift.image (n, n)) = [] :=
    List.flatMap_eq_nil_iff.2 fun s hs => Shift.image_eq_nil (.inl (by have := (hrest s hs).1; omega))
  have hpreimage : (foldShifts.tail.flatMap fun shift => shift.preimage (n, n)) = [] :=
    List.flatMap_eq_nil_iff.2 fun s hs => Shift.preimage_eq_nil (by have := (hrest s hs).2; omega)
  rw [show foldShifts = ⟨⟨65, 90, 1⟩, 32⟩ :: foldShifts.tail from rfl, List.flatMap_cons,
    List.flatMap_cons, himage, hpreimage, hfirst n (List.mem_range'_1.2 ⟨hlow, by omega⟩)]
  exact ⟨by rw [Shift.image_eq_nil (.inr (by dsimp only; omega)), List.append_nil], rfl⟩

theorem foldCase_single {c : Char} (hc : c.isLower = true) : (single c).foldCase = letter c := by
  by_cases hk : c = 'k'
  · subst hk
    cbv
  by_cases hs : c = 's'
  · subst hs
    cbv
  have ⟨hlow, hhigh⟩ := bounds_of_isLower hc
  have hne {d : Char} (h : c ≠ d) : c.toNat ≠ d.toNat := fun heq => h (Char.toNat_inj.1 heq)
  obtain ⟨himage, hpreimage⟩ := foldShifts_letter hlow hhigh (hne hk) (hne hs)
  have hbefore : startsBefore (c.toNat, c.toNat) (c.toNat - 32, c.toNat - 32) = false := by
    simp only [startsBefore, decide_eq_false_iff_not]
    omega
  have hgap : ¬ c.toNat ≤ c.toNat - 32 + 1 := by omega
  rw [letter, if_neg hk, if_neg hs, foldCase, single, grow]
  simp only [List.flatMap_cons, List.flatMap_nil, List.append_nil, himage, grow, hpreimage,
    List.map_cons, List.map_nil, union, ofRanges, List.mergeSort_singleton, join, joinFrom,
    List.merge, hbefore, Bool.false_eq_true, if_false, if_neg hgap]

end CodeSet

end Unicode

namespace Regex

theorem skip_of_not_blanks {f : Flags} (h : f.has .blanks = false) (s : List Char) :
    f.skip s = s := by
  rw [Flags.skip, h, if_neg Bool.false_ne_true]

def caseless (w : List Char) : List Part := w.map fun c => .pattern (.chars (.letter c)) 0

theorem ofSet_letter {c : Char} (hc : c.isLower = true) :
    Pattern.ofSet (.letter c) = .chars (.letter c) := by
  have hbounds := Unicode.bounds_of_isLower hc
  rw [Pattern.ofSet, Unicode.CodeSet.single?, Unicode.CodeSet.letter]
  split_ifs with hk hs
  · rfl
  · rfl
  · rfl

theorem readPart_letter {r : Reading} {c : Char} {s : List Char} (hc : c.isLower = true)
    (hcaseless : r.flags.has .caseless = true) (hunicode : r.flags.has .unicode = true) :
    readPart r c s = some (r.add (.chars (.letter c)), s) := by
  have hfold : r.flags.fold (.single c) = .letter c := by
    rw [Flags.fold, hcaseless, hunicode, ← Unicode.CodeSet.foldCase_single hc]
    rfl
  have hne {d : Char} (hd : d.isLower = false) : c ≠ d := by
    rintro rfl
    rw [hc] at hd
    cases hd
  have hchar : readPart r c s = (r.addAtom (.char c false)).map fun r => (r, s) := by
    fun_cases readPart r c s <;> first | rfl | exact absurd rfl (hne (by decide))
  rw [hchar, Reading.addAtom, checkChar, Bool.and_false, Bool.false_and, if_neg Bool.false_ne_true]
  simp only [Option.map_some, hfold, ofSet_letter hc]

theorem readParts_caseless {n : Nat} {r : Reading} {w : List Char} (s : List Char)
    (hw : w.all Char.isLower = true) (hcaseless : r.flags.has .caseless = true)
    (hunicode : r.flags.has .unicode = true) (hblanks : r.flags.has .blanks = false) :
    readParts (w.length + n) r (w ++ s) =
      readParts n { r with parts := (caseless w).reverse ++ r.parts } s := by
  induction w generalizing r with
  | nil => rw [List.length_nil, Nat.zero_add]; rfl
  | cons c w ih =>
    obtain ⟨hc, hw⟩ := Bool.and_eq_true_iff.1 hw
    rw [List.length_cons, Nat.succ_add, List.cons_append, readParts, skip_of_not_blanks hblanks]
    simp only [readPart_letter hc hcaseless hunicode, Option.bind_some]
    rw [ih (r := r.add _) hw hcaseless hunicode hblanks]
    simp only [caseless, List.map_cons, List.reverse_cons, List.append_assoc]
    rfl

theorem readParts_bar {n : Nat} {r : Reading} (s : List Char) (hblanks : r.flags.has .blanks = false) :
    readParts (n + 1) r ('|' :: s) =
      readParts n { r with alternatives := joinParts r.parts :: r.alternatives, parts := [] } s := by
  rw [readParts, skip_of_not_blanks hblanks]
  rfl

def barred (w : List Char) (ws : List (List Char)) : List Char := w ++ ws.flatMap ('|' :: ·)

def Reading.afterWords (r : Reading) (w : List Char) : List (List Char) → Reading
  | [] => { r with parts := (caseless w).reverse }
  | v :: vs =>
    { r with
      alternatives := joinParts (caseless w).reverse :: r.alternatives
      parts := [] }.afterWords v vs

theorem readParts_barred {n : Nat} {r : Reading} {w : List Char} {ws : List (List Char)}
    (s : List Char) (hw : w.all Char.isLower = true)
    (hws : (ws.all fun w => w.all Char.isLower) = true) (hcaseless : r.flags.has .caseless = true)
    (hunicode : r.flags.has .unicode = true) (hblanks : r.flags.has .blanks = false)
    (hparts : r.parts = []) :
    readParts ((barred w ws).length + n) r (barred w ws ++ s) =
      readParts n (r.afterWords w ws) s := by
  induction ws generalizing r w with
  | nil =>
    rw [barred, List.flatMap_nil, List.append_nil,
      readParts_caseless s hw hcaseless hunicode hblanks, hparts, List.append_nil]
    rfl
  | cons v vs ih =>
    obtain ⟨hv, hvs⟩ := Bool.and_eq_true_iff.1 hws
    have hcut : barred w (v :: vs) = w ++ '|' :: barred v vs := rfl
    have hlength : (barred w (v :: vs)).length + n = w.length + ((barred v vs).length + n + 1) := by
      rw [hcut, List.length_append, List.length_cons]
      omega
    rw [hlength, hcut, List.append_assoc, readParts_caseless _ hw hcaseless hunicode hblanks,
      List.cons_append, hparts, List.append_nil]
    refine (readParts_bar (r := { r with parts := (caseless w).reverse }) _ hblanks).trans ?_
    exact ih (r := { r with alternatives := _, parts := [] }) hv hvs hcaseless hunicode hblanks rfl

def readSome : Nat → Reading → List Char → Option (Reading × List Char)
  | 0, r, s => some (r, s)
  | n + 1, r, s =>
    match r.flags.skip s with
    | [] => none
    | c :: s => (readPart r c s).bind fun p => readSome n p.1 p.2

theorem readParts_of_readSome {n k : Nat} {r r' : Reading} {s s' : List Char}
    (h : readSome n r s = some (r', s')) : readParts (n + k) r s = readParts k r' s' := by
  induction n generalizing r s with
  | zero => cases h; rw [Nat.zero_add]
  | succ n ih =>
    rw [Nat.succ_add, readParts]
    rw [readSome] at h
    cases hs : r.flags.skip s with
    | nil => rw [hs] at h; cases h
    | cons c t =>
      rw [hs] at h
      obtain ⟨p, hp, h⟩ := Option.bind_eq_some_iff.1 h
      simp only [hp, Option.bind_some]
      exact ih h

end Regex

end ScriptLint
