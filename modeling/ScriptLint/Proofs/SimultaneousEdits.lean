import ScriptLint.Proofs.ConsistentPatches

/-! Edits carried out all at once. Every edit is looked up by its offsets in the old text, so nothing
depends on the order in which the edits are listed; a patch that applies does the same. -/
namespace ScriptLint

def Edit.covers (e : Edit) (offset : Nat) : Bool :=
  decide (e.span.start ≤ offset) && decide (offset < e.span.stop)

def Edit.Past (e : Edit) (offset : Nat) : Prop := e.span.start < offset ∧ e.span.stop ≤ offset

namespace Text

def putIn (es : List Edit) (offset : Nat) : Text :=
  (es.filter fun e => e.span.start == offset).flatMap fun e => e.replacement.toList

/-- The text from an offset on, with all edits carried out. -/
def replaceAll (es : List Edit) : Nat → Text → Text
  | offset, [] => putIn es offset
  | offset, c :: t =>
    putIn es offset ++ (if es.any fun e => e.covers offset then [] else [c]) ++
      replaceAll es (offset + c.utf8Size) t

section

variable {e : Edit} {es es' : List Edit} {offset : Nat}

theorem putIn_eq_nil (h : ∀ e ∈ es, e.span.start ≠ offset) : putIn es offset = [] := by
  rw [putIn, List.filter_eq_nil_iff.2]
  · rfl
  · intro e he
    simpa using h e he

theorem any_covers_eq_false (h : ∀ e ∈ es, e.span.stop ≤ offset ∨ offset < e.span.start) :
    (es.any fun e => e.covers offset) = false := by
  rw [List.any_eq_false]
  intro e he
  have := h e he
  simp [Edit.covers]
  omega

theorem putIn_cons (e : Edit) (es : List Edit) (offset : Nat) :
    putIn (e :: es) offset =
      (if e.span.start = offset then e.replacement.toList else []) ++ putIn es offset := by
  by_cases h : e.span.start = offset <;> simp [putIn, h]

theorem putIn_perm (hperm : es.Perm es')
    (hstart : es.Pairwise fun a b => a.span.start ≠ b.span.start) (offset : Nat) :
    putIn es offset = putIn es' offset := by
  have hsame := hperm.filter fun e => e.span.start == offset
  have hone : (es.filter fun e => e.span.start == offset).Pairwise fun _ _ => False := by
    refine (hstart.filter _).imp_of_mem ?_
    intro a b ha hb hne
    have ha := (List.mem_filter.1 ha).2
    have hb := (List.mem_filter.1 hb).2
    exact hne ((beq_iff_eq.1 ha).trans (beq_iff_eq.1 hb).symm)
  have hone' := (hsame.pairwise_iff fun h => h).1 hone
  rw [putIn, putIn, hsame.eq_of_pairwise (fun _ _ _ _ h => h.elim) hone hone']

theorem replaceAll_perm (hperm : es.Perm es')
    (hstart : es.Pairwise fun a b => a.span.start ≠ b.span.start) (offset : Nat) (t : Text) :
    replaceAll es offset t = replaceAll es' offset t := by
  have hput := putIn_perm hperm hstart
  induction t generalizing offset with
  | nil => exact hput offset
  | cons c t ih => rw [replaceAll, replaceAll, ih, hput, hperm.any_eq]

@[simp] theorem replaceAll_nil (offset : Nat) (t : Text) : replaceAll [] offset t = t := by
  induction t generalizing offset with
  | nil => rfl
  | cons c t ih => simp [replaceAll, putIn, ih]

theorem replaceAll_cons_of_past (h : e.Past offset) (t : Text) :
    replaceAll (e :: es) offset t = replaceAll es offset t := by
  obtain ⟨hstart, hstop⟩ := h
  induction t generalizing offset with
  | nil => rw [replaceAll, replaceAll, putIn_cons, if_neg (by omega), List.nil_append]
  | cons c t ih =>
    have hcovers : e.covers offset = false := by simp [Edit.covers]; omega
    rw [replaceAll, replaceAll, putIn_cons, if_neg (by omega), List.nil_append, List.any_cons,
      hcovers, Bool.false_or, ih (by omega) (by omega)]

theorem replaceAll_append_of_before {u : Text} (t : Text)
    (h : ∀ e ∈ es, offset + u.size ≤ e.span.start) :
    replaceAll es offset (u ++ t) = u ++ replaceAll es (offset + u.size) t := by
  induction u generalizing offset with
  | nil => rfl
  | cons c u ih =>
    have hc := c.utf8Size_pos
    simp only [size_cons] at h
    have hput : putIn es offset = [] := by
      apply putIn_eq_nil
      intro e he
      have := h e he
      omega
    have hcovers : (es.any fun e => e.covers offset) = false := by
      refine any_covers_eq_false fun e he => .inr ?_
      have := h e he
      omega
    rw [List.cons_append, replaceAll, hput, hcovers, ih, size_cons, Nat.add_assoc]
    · rfl
    · intro e he
      have := h e he
      omega

theorem replaceAll_append_of_covered {u : Text} (t : Text) (he : e ∈ es)
    (hstart : e.span.start < offset) (hstop : offset + u.size ≤ e.span.stop)
    (hother : ∀ e' ∈ es, e'.span.start < offset ∨ offset + u.size ≤ e'.span.start) :
    replaceAll es offset (u ++ t) = replaceAll es (offset + u.size) t := by
  induction u generalizing offset with
  | nil => rfl
  | cons c u ih =>
    have hc := c.utf8Size_pos
    simp only [size_cons] at hstop hother
    have hput : putIn es offset = [] := by
      apply putIn_eq_nil
      intro e' he'
      have := hother e' he'
      omega
    have hcovers : (es.any fun e => e.covers offset) = true := by
      apply List.any_eq_true.2
      refine ⟨e, he, ?_⟩
      simp [Edit.covers]
      omega
    rw [List.cons_append, replaceAll, hput, hcovers, ih, size_cons, Nat.add_assoc]
    · rfl
    · omega
    · omega
    · intro e' he'
      have := hother e' he'
      omega

theorem replaceAll_cons_append {u : Text} (t : Text) (hu : e.span.start + size u = e.span.stop)
    (hfollows : ∀ e' ∈ es, e.Follows e') :
    replaceAll (e :: es) e.span.start (u ++ t) =
      e.replacement.toList ++ replaceAll es e.span.stop t := by
  have hnone : putIn es e.span.start = [] := by
    apply putIn_eq_nil
    intro e' he'
    have := (hfollows e' he').1
    omega
  have hput : putIn (e :: es) e.span.start = e.replacement.toList := by
    rw [putIn_cons, if_pos rfl, hnone, List.append_nil]
  cases u with
  | nil =>
    -- An insertion: the character after it, if there is one, stays.
    have hstop : e.span.stop = e.span.start := by simpa using hu.symm
    rw [hstop, List.nil_append]
    cases t with
    | nil =>
      rw [replaceAll, hput, replaceAll, hnone, List.append_nil]
    | cons c t =>
      have hc := c.utf8Size_pos
      have hcovers : e.covers e.span.start = false := by simp [Edit.covers, hstop]
      rw [replaceAll, hput, List.any_cons, hcovers, Bool.false_or,
        replaceAll_cons_of_past ⟨by omega, by omega⟩, replaceAll, hnone, List.nil_append,
        List.append_assoc]
  | cons c u =>
    have hc := c.utf8Size_pos
    simp only [size_cons] at hu
    have hcovers : e.covers e.span.start = true := by simp [Edit.covers]; omega
    have hrest : replaceAll (e :: es) (e.span.start + c.utf8Size) (u ++ t) =
        replaceAll (e :: es) (e.span.start + c.utf8Size + size u) t := by
      apply replaceAll_append_of_covered t List.mem_cons_self
      · omega
      · omega
      · intro e' he'
        rcases List.mem_cons.1 he' with rfl | he'
        · left
          omega
        · right
          have := (hfollows e' he').2
          omega
    rw [List.cons_append, replaceAll, hput, List.any_cons, hcovers, Bool.true_or, hrest,
      show e.span.start + c.utf8Size + size u = e.span.stop by omega,
      replaceAll_cons_of_past ⟨by omega, Nat.le_refl _⟩]
    simp

end

/-- Edits in order, carried out at once, leave the gaps between them and put in the replacements. -/
theorem replaceAll_eq_spliced {u v : Text} {es : List Edit}
    (hfollows : es.Pairwise Edit.Follows) (horder : Patch.InOrder (u ++ v) (size u) es) :
    replaceAll es (size u) v = Patch.spliced (u ++ v) (size u) es := by
  induction es generalizing u v with
  | nil => simpa [Patch.spliced] using (slice_append u v []).symm
  | cons e es ih =>
    obtain ⟨hle, hspan, hstart, hstop, hrest⟩ := horder
    obtain ⟨hnext, hfollows⟩ := List.pairwise_cons.1 hfollows
    obtain ⟨x, b, c, hx, hxsize, hbsize⟩ := exists_append_of_boundaries hstart hstop hspan
    -- The old text is `u`, a gap, what the edit replaces, and the rest.
    obtain ⟨y, a, w, hy, hysize, hasize⟩ := exists_append_of_boundaries
      (isBoundary_iff.2 ⟨u, v, rfl, rfl⟩) hstart hle
    obtain ⟨rfl, rfl⟩ : u = y ∧ v = a ++ w :=
      append_inj_of_size (by rw [hy, List.append_assoc]) hysize.symm
    obtain ⟨rfl, rfl⟩ : x = u ++ a ∧ b ++ c = w :=
      append_inj_of_size (by rw [← List.append_assoc x, ← hx, hy]) (by rw [hxsize, hasize])
    have hgap : e.span.start = size u + size a := by rw [← hasize, size_append]
    have hcut : e.span.start + b.size = e.span.stop := by rw [← hbsize, size_append, hxsize]
    rw [replaceAll_append_of_before, ← hgap, replaceAll_cons_append c hcut hnext, Patch.spliced]
    · have htail := ih (u := u ++ a ++ b) (v := c) hfollows
      rw [hbsize, ← hx] at htail
      rw [htail hrest]
      have hslice := slice_append u a (b ++ c)
      rw [List.append_assoc, hasize] at hslice
      rw [hslice, List.append_assoc]
    · intro e' he'
      rcases List.mem_cons.1 he' with rfl | he'
      · omega
      · have := (hnext e' he').1
        omega

end Text

namespace Patch.Consistent

variable {p : Patch} {t r : Text}

theorem starts_ne (h : p.Consistent) :
    p.edits.Pairwise fun a b => a.span.start ≠ b.span.start :=
  h.follows.imp fun hab => Nat.ne_of_lt hab.1

/-- Applying the edits one by one from the last to the first carries them out at once. -/
theorem eq_replaceAll (h : p.Consistent) (happly : p.apply t = .ok r) :
    r = Text.replaceAll p.edits 0 t := by
  have hplaced := h.placed_of_apply happly
  have hsame := Text.replaceAll_eq_spliced (u := []) (v := t) h.follows (h.inOrder hplaced)
  rw [h.apply_eq_ok hplaced, Except.ok.injEq] at happly
  exact happly.symm.trans hsame.symm

end Patch.Consistent

end ScriptLint
