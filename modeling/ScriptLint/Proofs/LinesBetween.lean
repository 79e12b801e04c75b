import ScriptLint.Proofs.LineOffsets

/-! Lines and their feeds. The line of a place is the number of feeds before it, and a line is what
stands between two feeds. So what the lines between two places are like shows in the text between
these places, whatever stands around it. -/
namespace ScriptLint.Text

variable {x y z : Text}

theorem startsAfterFeeds_append (base : Nat) (u v : Text) :
    startsAfterFeeds base (u ++ v) =
      startsAfterFeeds base u ++ startsAfterFeeds (base + u.size) v := by
  induction u generalizing base with
  | nil => rfl
  | cons c u ih =>
    rw [List.cons_append, startsAfterFeeds, startsAfterFeeds, size_cons, ← Nat.add_assoc]
    split
    · rename_i hc
      subst hc
      rw [ih, List.cons_append, show '\n'.utf8Size = 1 from rfl]
    · rw [ih]

@[simp] theorem length_startsAfterFeeds (base : Nat) (u : Text) :
    (startsAfterFeeds base u).length = u.count '\n' := by
  induction u generalizing base with
  | nil => rfl
  | cons c u ih =>
    rw [startsAfterFeeds, List.count_cons]
    split
    · simp_all
    · simp_all

theorem lineStarts_append (u v : Text) :
    (u ++ v).lineStarts = u.lineStarts ++ startsAfterFeeds u.size v := by
  rw [lineStarts, startsAfterFeeds_append, Nat.zero_add]
  rfl

theorem length_lineStarts (u : Text) : u.lineStarts.length = u.count '\n' + 1 := by
  rw [lineStarts, List.length_cons, length_startsAfterFeeds]

theorem le_size_of_mem_lineStarts {u : Text} {a : Nat} (h : a ∈ u.lineStarts) : a ≤ u.size :=
  le_size_of_isBoundary (isBoundary_of_mem_lineStarts h)

theorem countP_startsAfterFeeds_eq_zero {base n : Nat} (h : n ≤ base) (v : Text) :
    ((startsAfterFeeds base v).countP fun a => decide (a ≤ n)) = 0 := by
  rw [List.countP_eq_zero]
  intro a ha
  obtain ⟨w, -, -, rfl⟩ := exists_of_mem_startsAfterFeeds ha
  simp only [decide_eq_true_eq]
  omega

theorem lineOf_append (u v : Text) : (u ++ v).lineOf u.size = u.count '\n' + 1 := by
  have hbefore : (u.lineStarts.countP fun a => decide (a ≤ u.size)) = u.lineStarts.length := by
    rw [List.countP_eq_length]
    intro a ha
    exact decide_eq_true (le_size_of_mem_lineStarts ha)
  rw [lineOf, lineStarts_append, List.countP_append, hbefore,
    countP_startsAfterFeeds_eq_zero (Nat.le_refl _), length_lineStarts, Nat.add_zero]

/-- A line can begin behind the text: the text is empty, or a feed ends it. -/
def EndsLine (x : Text) : Prop := x = [] ∨ ∃ x', x = x' ++ ['\n']

/-- A line can end before the text: the text is empty, or it begins with a feed. -/
def StartsFed (z : Text) : Prop := z = [] ∨ ∃ z', z = '\n' :: z'

def chomp (y : Text) : Text := if y.getLast? = some '\r' then y.dropLast else y

theorem exists_last_line (u : Text) : ∃ x y, u = x ++ y ∧ x.EndsLine ∧ '\n' ∉ y := by
  induction u with
  | nil => exact ⟨[], [], rfl, .inl rfl, by simp⟩
  | cons c u ih =>
    obtain ⟨x, y, rfl, hx, hy⟩ := ih
    rcases hx with rfl | ⟨x', rfl⟩
    · by_cases hc : c = '\n'
      · exact ⟨[c], y, rfl, .inr ⟨[], by rw [hc]; rfl⟩, hy⟩
      · exact ⟨[], c :: y, rfl, .inl rfl, by simp [hy, Ne.symm hc]⟩
    · exact ⟨c :: (x' ++ ['\n']), y, rfl, .inr ⟨c :: x', rfl⟩, hy⟩

theorem exists_first_line (v : Text) : ∃ y z, v = y ++ z ∧ '\n' ∉ y ∧ z.StartsFed := by
  induction v with
  | nil => exact ⟨[], [], rfl, by simp, .inl rfl⟩
  | cons c v ih =>
    by_cases hc : c = '\n'
    · exact ⟨[], c :: v, rfl, by simp, .inr ⟨v, by rw [hc]⟩⟩
    · obtain ⟨y, z, rfl, hy, hz⟩ := ih
      exact ⟨c :: y, z, rfl, by simp [hy, Ne.symm hc], hz⟩

theorem lineStart?_append (hx : x.EndsLine) (v : Text) :
    (x ++ v).lineStart? (x.count '\n' + 1) = some x.size := by
  rw [lineStart?, lineStarts_append, List.getElem?_append_left (by rw [length_lineStarts]; omega)]
  rcases hx with rfl | ⟨x', rfl⟩
  · rfl
  · rw [lineStarts_append, List.getElem?_append_right] <;>
      simp [length_lineStarts, startsAfterFeeds, show '\n'.utf8Size = 1 from rfl]

theorem columnOf_append (hx : x.EndsLine) (hy : '\n' ∉ y) (v : Text) :
    (x ++ y ++ v).columnOf (x ++ y).size = y.length + 1 := by
  have hline : (x ++ y).count '\n' = x.count '\n' := by
    rw [List.count_append, List.count_eq_zero_of_not_mem hy, Nat.add_zero]
  have hstart : (x ++ y ++ v).lineStart? (x.count '\n' + 1) = some x.size := by
    rw [List.append_assoc]
    exact lineStart?_append hx _
  rw [columnOf, lineOf_append, hline, hstart, Option.getD_some, slice_append]

theorem rawEnd_append (hy : '\n' ∉ y) (hz : z.StartsFed) :
    (x ++ y ++ z).rawEnd (x.count '\n' + 1) = (x ++ y).size := by
  have hcount : (x ++ y).count '\n' = x.count '\n' := by
    rw [List.count_append, List.count_eq_zero_of_not_mem hy, Nat.add_zero]
  have hlength : (x ++ y).lineStarts.length = x.count '\n' + 1 := by
    rw [length_lineStarts, hcount]
  rw [rawEnd, lineStarts_append, List.getElem?_append_right (by omega), hlength, Nat.sub_self]
  rcases hz with rfl | ⟨z', rfl⟩
  · simp [startsAfterFeeds]
  · simp [startsAfterFeeds]

theorem lineEnd?_append (hx : x.EndsLine) (hy : '\n' ∉ y) (hz : z.StartsFed) :
    (x ++ y ++ z).lineEnd? (x.count '\n' + 1) = some (x ++ y.chomp).size := by
  have hstart := lineStart?_append hx (y ++ z)
  rw [← List.append_assoc] at hstart
  rw [lineEnd?, hstart, Option.map_some]
  change some (if ((x ++ y ++ z).slice x.size ((x ++ y ++ z).rawEnd (x.count '\n' + 1))).getLast? =
    some '\r' then (x ++ y ++ z).rawEnd (x.count '\n' + 1) - 1
    else (x ++ y ++ z).rawEnd (x.count '\n' + 1)) = _
  rw [rawEnd_append hy hz, slice_append, chomp]
  split
  · rename_i hreturn
    obtain ⟨y', rfl⟩ := List.getLast?_eq_some_iff.1 hreturn
    rw [List.dropLast_concat, ← List.append_assoc, size_append (x ++ y')]
    simp [show '\r'.utf8Size = 1 from rfl]
  · rfl

theorem exists_eq_chomp_append (y : Text) : ∃ r, y = y.chomp ++ r ∧ (r = [] ∨ r = ['\r']) := by
  unfold chomp
  split
  · rename_i hreturn
    obtain ⟨y', rfl⟩ := List.getLast?_eq_some_iff.1 hreturn
    exact ⟨['\r'], by simp, .inr rfl⟩
  · exact ⟨[], by simp, .inl rfl⟩

theorem line_append (hx : x.EndsLine) (hy : '\n' ∉ y) (hz : z.StartsFed) :
    (x ++ y ++ z).line (x.count '\n' + 1) = y.chomp := by
  have hstart := lineStart?_append hx (y ++ z)
  have hend := lineEnd?_append hx hy hz
  obtain ⟨r, hr, -⟩ := exists_eq_chomp_append y
  have hsplit : x ++ y ++ z = x ++ y.chomp ++ (r ++ z) := by
    rw [← List.append_assoc, List.append_assoc x y.chomp r, ← hr]
  rw [← List.append_assoc] at hstart
  rw [line, hstart, hend]
  dsimp only
  rw [hsplit, slice_append]

/-- Carriage returns are blank, so the terminator of a line does not matter. -/
theorem isBlankLine_append (hx : x.EndsLine) (hy : '\n' ∉ y) (hz : z.StartsFed) :
    (x ++ y ++ z).isBlankLine (x.count '\n' + 1) = y.all isBlank := by
  obtain ⟨r, hr, hrest⟩ := exists_eq_chomp_append y
  have hblank : r.all isBlank = true := by
    rcases hrest with rfl | rfl
    · rfl
    · decide
  rw [isBlankLine, line_append hx hy hz]
  conv => rhs; rw [hr, List.all_append, hblank, Bool.and_true]

theorem exists_append_of_lt_count {l : Text} {n : Nat} (h : n < l.count '\n') :
    ∃ l₁ l₂, l = l₁ ++ '\n' :: l₂ ∧ l₁.count '\n' = n := by
  induction l generalizing n with
  | nil => simp at h
  | cons c l ih =>
    by_cases hc : c = '\n'
    · subst hc
      cases n with
      | zero => exact ⟨[], l, rfl, rfl⟩
      | succ n =>
        obtain ⟨l₁, l₂, rfl, hn⟩ := ih (n := n) (by simpa using h)
        exact ⟨'\n' :: l₁, l₂, rfl, by simp [hn]⟩
    · obtain ⟨l₁, l₂, rfl, hn⟩ := ih (n := n) (by simpa [List.count_cons, hc] using h)
      exact ⟨c :: l₁, l₂, rfl, by simp [hc, hn]⟩

section Between

variable (u m w : Text)

theorem lineOf_left : (u ++ m ++ w).lineOf u.size = u.count '\n' + 1 := by
  rw [List.append_assoc, lineOf_append]

theorem lineOf_right : (u ++ m ++ w).lineOf (u ++ m).size = u.count '\n' + m.count '\n' + 1 := by
  rw [lineOf_append, List.count_append]

theorem exists_of_line_between {n : Nat} (hfirst : (u ++ m ++ w).lineOf u.size < n)
    (hlast : n < (u ++ m ++ w).lineOf (u ++ m).size) :
    ∃ m₁ y m₂, m = m₁ ++ '\n' :: (y ++ '\n' :: m₂) ∧ '\n' ∉ y ∧
      (u ++ m ++ w).isBlankLine n = y.all isBlank := by
  rw [lineOf_left] at hfirst
  rw [lineOf_right] at hlast
  obtain ⟨m₁, rest, rfl, hm₁⟩ :=
    exists_append_of_lt_count (l := m) (n := n - u.count '\n' - 2) (by omega)
  obtain ⟨y, z, rfl, hy, hz⟩ := exists_first_line rest
  obtain rfl | ⟨m₂, rfl⟩ := hz
  · simp only [List.count_append, List.count_cons, List.count_eq_zero_of_not_mem hy,
      beq_self_eq_true, if_true, List.count_nil] at hlast
    omega
  refine ⟨m₁, y, m₂, rfl, hy, ?_⟩
  have hn : n = (u ++ m₁ ++ ['\n']).count '\n' + 1 := by
    simp only [List.count_append, List.count_singleton_self]
    omega
  have hblank := isBlankLine_append (x := u ++ m₁ ++ ['\n']) (y := y) (z := '\n' :: m₂ ++ w)
    (.inr ⟨_, rfl⟩) hy (.inr ⟨_, rfl⟩)
  rw [hn, ← hblank]
  simp

/-- Between two feeds there are only blanks. -/
def HasBlankLine (m : Text) : Prop :=
  ∃ m₁ y m₂, m = m₁ ++ '\n' :: (y ++ '\n' :: m₂) ∧ y.all isBlank = true

theorem hasBlankLineBetween_iff :
    (u ++ m ++ w).hasBlankLineBetween u.size (u ++ m).size = true ↔ m.HasBlankLine := by
  simp only [hasBlankLineBetween, List.any_eq_true, List.mem_range'_1]
  constructor
  · rintro ⟨n, ⟨hfirst, hlast⟩, hblank⟩
    obtain ⟨m₁, y, m₂, hm, -, hy⟩ := exists_of_line_between u m w (n := n) hfirst (by omega)
    exact ⟨m₁, y, m₂, hm, hy ▸ hblank⟩
  · rintro ⟨m₁, y, m₂, rfl, hblank⟩
    -- Blanks may have feeds among them; the first line of them is blank.
    obtain ⟨y₁, z, hy, hfree, hz⟩ := exists_first_line (y ++ '\n' :: m₂)
    have hall : y₁.all isBlank = true := by
      rcases List.append_eq_append_iff.1 hy with ⟨y₂, rfl, h₂⟩ | ⟨y₂, rfl, -⟩
      · cases y₂ with
        | nil => simpa using hblank
        | cons c y₂ =>
          rw [List.cons_append, List.cons.injEq] at h₂
          simp [← h₂.1] at hfree
      · rw [List.all_append, Bool.and_eq_true] at hblank
        exact hblank.1
    have hne : z ≠ [] := by
      rintro rfl
      rw [List.append_nil] at hy
      simp [← hy] at hfree
    obtain ⟨z', rfl⟩ := hz.resolve_left hne
    refine ⟨(u ++ m₁ ++ ['\n']).count '\n' + 1, ?_, ?_⟩
    · rw [lineOf_left, lineOf_right, hy]
      simp only [List.count_append, List.count_cons, beq_self_eq_true, if_true, List.count_nil]
      omega
    · have hline := isBlankLine_append (x := u ++ m₁ ++ ['\n']) (y := y₁) (z := '\n' :: z' ++ w)
        (.inr ⟨_, rfl⟩) hfree (.inr ⟨_, rfl⟩)
      rw [hall] at hline
      rw [hy, ← hline]
      simp

def blankLinesBetween (t : Text) (first last : Nat) : Nat :=
  let from_ := t.lineOf first + 1
  (List.range' from_ (t.lineOf last - from_)).countP t.isBlankLine

theorem blankLinesBetween_eq {m : Text} (h : m.all isBlank = true) :
    (u ++ m ++ w).blankLinesBetween u.size (u ++ m).size = m.count '\n' - 1 := by
  have hall : ∀ n ∈ List.range' ((u ++ m ++ w).lineOf u.size + 1)
      ((u ++ m ++ w).lineOf (u ++ m).size - ((u ++ m ++ w).lineOf u.size + 1)),
      (u ++ m ++ w).isBlankLine n = true := by
    intro n hn
    rw [List.mem_range'_1] at hn
    obtain ⟨m₁, y, m₂, rfl, -, hblank⟩ :=
      exists_of_line_between u m w (n := n) (by omega) (by omega)
    rw [hblank]
    simp only [List.all_append, List.all_cons, Bool.and_eq_true] at h
    exact h.2.2.1
  rw [blankLinesBetween, List.countP_eq_length.2 hall, List.length_range', lineOf_left,
    lineOf_right]
  omega

end Between

end ScriptLint.Text
