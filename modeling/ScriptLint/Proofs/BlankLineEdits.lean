import ScriptLint.Proofs.LinesBetween
import ScriptLint.Proofs.ShiftedPlaces
import ScriptLint.Rule.Padding

/-! Edits of blank lines, seen from the gap that they change. Each takes a stretch out of the gap and
puts line terminators in; the feeds in the gap are counted before and after. -/
namespace ScriptLint

/-- The edit lies in a stretch of the text from an offset on, and makes another one of it. -/
def Edit.Turns (e : Edit) (offset : Nat) (m m' : Text) : Prop :=
  ∃ m₁ cut m₂, m = m₁ ++ cut ++ m₂ ∧ m' = m₁ ++ e.replacement.toList ++ m₂ ∧
    e.span.start = offset + m₁.size ∧ e.span.stop = offset + m₁.size + cut.size

namespace Edit.Turns

variable {e : Edit} {offset : Nat} {m m' : Text}

theorem replaceAll_eq (h : e.Turns offset m m') : Text.replaceAll [e] offset m = m' := by
  obtain ⟨m₁, cut, m₂, rfl, rfl, hstart, hstop⟩ := h
  exact Text.replaceAll_single m₂ hstart (by omega)

theorem extend {c₁ : Text} (h : e.Turns (offset + c₁.size) m m') (c₂ : Text) :
    e.Turns offset (c₁ ++ m ++ c₂) (c₁ ++ m' ++ c₂) := by
  obtain ⟨m₁, cut, m₂, rfl, rfl, hstart, hstop⟩ := h
  refine ⟨c₁ ++ m₁, cut, m₂ ++ c₂, by simp, by simp, ?_, ?_⟩
  · rw [Text.size_append]
    omega
  · rw [Text.size_append]
    omega

theorem all {p : Char → Bool} (h : e.Turns offset m m') (hm : m.all p = true)
    (hput : e.replacement.toList.all p = true) : m'.all p = true := by
  obtain ⟨m₁, cut, m₂, rfl, rfl, -, -⟩ := h
  simp only [List.all_append, Bool.and_eq_true] at hm ⊢
  exact ⟨⟨hm.1.1, hput⟩, hm.2⟩

section Around

variable {u w : Text} (h : e.Turns u.size m m')
include h

theorem contains : (⟨u.size, (u ++ m).size⟩ : Span).contains e.span = true := by
  obtain ⟨m₁, cut, m₂, rfl, rfl, hstart, hstop⟩ := h
  simp only [Span.contains, Bool.and_eq_true, decide_eq_true_eq, Text.size_append]
  omega

theorem placed : e.span.Placed (u ++ m ++ w) := by
  obtain ⟨m₁, cut, m₂, rfl, rfl, hstart, hstop⟩ := h
  refine ⟨by omega, Text.isBoundary_iff.2 ⟨u ++ m₁, cut ++ m₂ ++ w, by simp, ?_⟩,
    Text.isBoundary_iff.2 ⟨u ++ m₁ ++ cut, m₂ ++ w, by simp, ?_⟩⟩
  · rw [Text.size_append]
    omega
  · rw [Text.size_append, Text.size_append]
    omega

theorem slice_sublist : ((u ++ m ++ w).slice e.span.start e.span.stop).Sublist m := by
  obtain ⟨m₁, cut, m₂, rfl, rfl, hstart, hstop⟩ := h
  have hslice := Text.slice_append (u ++ m₁) cut (m₂ ++ w)
  rw [Text.size_append (u ++ m₁), Text.size_append u m₁, ← hstop, ← hstart] at hslice
  rw [show u ++ (m₁ ++ cut ++ m₂) ++ w = u ++ m₁ ++ cut ++ (m₂ ++ w) by simp, hslice]
  exact (List.sublist_append_right m₁ cut).trans (List.sublist_append_left _ m₂)

end Around

end Edit.Turns

namespace Text

theorem exists_newline_eq (t : Text) :
    ∃ r, t.newline = r ++ ['\n'] ∧ '\n' ∉ r ∧ r.all isBlank = true := by
  unfold newline
  split
  · exact ⟨['\r'], rfl, by decide, by decide⟩
  · exact ⟨[], rfl, by simp, rfl⟩

theorem count_newline (t : Text) : t.newline.count '\n' = 1 := by
  obtain ⟨r, hr, hfree, -⟩ := t.exists_newline_eq
  rw [hr, List.count_append, List.count_eq_zero_of_not_mem hfree, List.count_singleton_self]

theorem all_isBlank_newline (t : Text) : t.newline.all isBlank = true := by
  obtain ⟨r, hr, -, hblank⟩ := t.exists_newline_eq
  rw [hr, List.all_append, hblank]
  decide

theorem mem_indentOf {t : Text} {n : Nat} {c : Char} (h : c ∈ t.indentOf n) : c = ' ' ∨ c = '\t' := by
  simpa using List.mem_takeWhile_imp h

theorem all_isBlank_indentOf (t : Text) (n : Nat) : (t.indentOf n).all isBlank = true := by
  rw [List.all_eq_true]
  intro c hc
  rcases mem_indentOf hc with rfl | rfl <;> decide

theorem count_indentOf (t : Text) (n : Nat) : (t.indentOf n).count '\n' = 0 := by
  refine List.count_eq_zero_of_not_mem fun hmem => ?_
  rcases mem_indentOf hmem with h | h <;> exact absurd h (by decide)

theorem HasBlankLine.extend {g : Text} (h : g.HasBlankLine) (c₁ c₂ : Text) :
    (c₁ ++ g ++ c₂).HasBlankLine := by
  obtain ⟨m₁, y, m₂, rfl, hy⟩ := h
  exact ⟨c₁ ++ m₁, y, m₂ ++ c₂, by simp, hy⟩

theorem HasBlankLine.two_le_count {g : Text} (h : g.HasBlankLine) : 2 ≤ g.count '\n' := by
  obtain ⟨m₁, y, m₂, rfl, -⟩ := h
  simp only [List.count_append, List.count_cons, beq_self_eq_true, if_true]
  omega

theorem hasBlankLine_iff_of_blank {g : Text} (h : g.all isBlank = true) :
    g.HasBlankLine ↔ 2 ≤ g.count '\n' := by
  refine ⟨HasBlankLine.two_le_count, fun hcount => ?_⟩
  obtain ⟨m₁, rest, rfl, hm₁⟩ := exists_append_of_lt_count (l := g) (n := 0) (by omega)
  simp only [List.count_append, List.count_cons, beq_self_eq_true, if_true, hm₁] at hcount
  obtain ⟨y, m₂, rfl, -⟩ := exists_append_of_lt_count (l := rest) (n := 0) (by omega)
  simp only [List.all_append, List.all_cons, Bool.and_eq_true] at h
  exact ⟨m₁, y, m₂, rfl, h.2.2.1⟩

theorem hasBlankLine_feed_newline (t g₁ g₂ : Text) :
    (g₁ ++ ['\n'] ++ t.newline ++ g₂).HasBlankLine := by
  obtain ⟨r, hr, -, hblank⟩ := t.exists_newline_eq
  exact ⟨g₁, r, g₂, by simp [hr], hblank⟩

theorem lineStart?_right {u g w : Text} (h : '\n' ∈ g) :
    ∃ g₁ g₂, g = g₁ ++ ['\n'] ++ g₂ ∧ '\n' ∉ g₂ ∧
      (u ++ g ++ w).lineStart? ((u ++ g ++ w).lineOf (u ++ g).size) =
        some (u ++ (g₁ ++ ['\n'])).size := by
  obtain ⟨x, g₂, rfl, hx, hfree⟩ := exists_last_line g
  obtain ⟨g₁, rfl⟩ : ∃ g₁, x = g₁ ++ ['\n'] := by
    rcases hx with rfl | hx
    · exact absurd h hfree
    · exact hx
  refine ⟨g₁, g₂, rfl, hfree, ?_⟩
  have hstart := lineStart?_append (x := u ++ (g₁ ++ ['\n'])) (.inr ⟨u ++ g₁, by simp⟩) (g₂ ++ w)
  have hcount : (u ++ (g₁ ++ ['\n'])).count '\n' = u.count '\n' + (g₁ ++ ['\n'] ++ g₂).count '\n' := by
    have hnone := List.count_eq_zero_of_not_mem hfree
    simp only [List.count_append] at hnone ⊢
    omega
  rw [lineOf_right, ← hcount]
  simpa using hstart

/-- Where the first line of the gap ends, apart from its terminator. The text before the gap must not
end inside that terminator. -/
theorem lineEnd?_left {u g w : Text} (h : '\n' ∈ g)
    (hreturn : u.getLast? = some '\r' → g.head? ≠ some '\n') :
    ∃ g₁ r g₂, g = g₁ ++ r ++ ['\n'] ++ g₂ ∧ '\n' ∉ g₁ ∧ '\n' ∉ r ∧
      (u ++ g ++ w).lineEnd? ((u ++ g ++ w).lineOf u.size) = some (u ++ g₁).size := by
  obtain ⟨y, z, rfl, hfree, hz⟩ := exists_first_line g
  obtain ⟨g₂, rfl⟩ : ∃ g₂, z = '\n' :: g₂ := by
    rcases hz with rfl | hz
    · exact absurd h (by simpa using hfree)
    · exact hz
  obtain ⟨x, v, rfl, hx, hfree'⟩ := exists_last_line u
  have hline : '\n' ∉ v ++ y := by simp [hfree, hfree']
  have hend := lineEnd?_append (x := x) (y := v ++ y) (z := '\n' :: g₂ ++ w) hx hline
    (.inr ⟨g₂ ++ w, rfl⟩)
  have hchomp : (v ++ y).chomp = v ++ y.chomp := by
    rcases List.eq_nil_or_concat' y with rfl | ⟨y', c, rfl⟩
    · have hnone : v.getLast? ≠ some '\r' := by
        intro hlast
        refine hreturn ?_ rfl
        rw [List.getLast?_append, hlast]
        rfl
      rw [List.append_nil, chomp, if_neg hnone]
      simp [chomp]
    · unfold chomp
      rw [List.getLast?_append, List.getLast?_concat, Option.some_or]
      split
      · rw [← List.append_assoc, List.dropLast_concat, List.dropLast_concat]
      · rfl
  obtain ⟨r, hr, hrest⟩ := exists_eq_chomp_append y
  refine ⟨y.chomp, r, g₂, by rw [← hr]; simp, ?_, ?_, ?_⟩
  · exact fun hmem => hfree (hr ▸ List.mem_append_left r hmem)
  · rcases hrest with rfl | rfl <;> simp
  · rw [lineOf_left, List.count_append, List.count_eq_zero_of_not_mem hfree', Nat.add_zero]
    rw [hchomp] at hend
    simpa using hend

theorem exists_line_ends {u g w : Text} (h : '\n' ∈ g)
    (hreturn : u.getLast? = some '\r' → g.head? ≠ some '\n') :
    ∃ g₁ cut g₂, g = g₁ ++ cut ++ g₂ ∧ cut ≠ [] ∧ '\n' ∉ g₁ ∧ '\n' ∉ g₂ ∧
      (u ++ g ++ w).lineEnd? ((u ++ g ++ w).lineOf u.size) = some (u ++ g₁).size ∧
      (u ++ g ++ w).lineStart? ((u ++ g ++ w).lineOf (u ++ g).size) =
        some (u ++ g₁ ++ cut).size := by
  obtain ⟨g₁, r, rest, rfl, hfree, -, hend⟩ := lineEnd?_left (w := w) h hreturn
  obtain ⟨h₁, g₂, hsplit, hfree', hstart⟩ :=
    lineStart?_right (u := u ++ g₁) (g := r ++ ['\n'] ++ rest) (w := w) (by simp)
  have hwhole : g₁ ++ r ++ ['\n'] ++ rest = g₁ ++ (h₁ ++ ['\n']) ++ g₂ := by
    rw [List.append_assoc g₁ _ g₂, ← hsplit]
    simp
  refine ⟨g₁, h₁ ++ ['\n'], g₂, hwhole, by simp, hfree, hfree', hend, ?_⟩
  simpa using hstart

end Text

namespace Source

variable {s : Source} {u g w : Text}

/-- Where no blank line is, one is put in: in front of the last line of the gap, or for the gap if it
lies on one line. -/
theorem exists_ensureBlankLine? (htext : s.text = u ++ g ++ w) (hnone : ¬g.HasBlankLine) :
    ∃ e g', s.ensureBlankLine? u.size (u ++ g).size = some e ∧ e.Turns u.size g g' ∧
      g'.HasBlankLine ∧ e.replacement.toList.all isBlank = true ∧
      g'.count '\n' = max 1 (g.count '\n') + 1 := by
  have hblank : s.text.hasBlankLineBetween u.size (u ++ g).size = false := by
    rw [Bool.eq_false_iff, htext]
    exact fun hblank => hnone ((Text.hasBlankLineBetween_iff u g w).1 hblank)
  have hleft : s.lineOf u.size = u.count '\n' + 1 := by
    rw [lineOf, htext, Text.lineOf_left]
  have hright : s.lineOf (u ++ g).size = u.count '\n' + g.count '\n' + 1 := by
    rw [lineOf, htext, Text.lineOf_right]
  obtain ⟨r, hr, hfree, hreturn⟩ := s.text.exists_newline_eq
  unfold ensureBlankLine?
  rw [if_neg (by rw [hblank]; simp)]
  dsimp only
  by_cases hcount : g.count '\n' = 0
  · rw [if_pos (by omega)]
    refine ⟨_, _, rfl, ⟨[], g, [], by simp, rfl, by simp, by simp⟩, ?_, ?_, ?_⟩
    · refine ⟨r, r, s.text.indentOf (s.lineOf u.size), ?_, hreturn⟩
      simp [hr]
    · simp [Text.all_isBlank_newline, Text.all_isBlank_indentOf]
    · simp [Text.count_newline, Text.count_indentOf, hcount]
  · rw [if_neg (by omega)]
    obtain ⟨g₁, g₂, rfl, hlast, hstart⟩ :=
      Text.lineStart?_right (u := u) (w := w) (List.count_pos_iff.1 (Nat.pos_of_ne_zero hcount))
    rw [← htext] at hstart
    rw [lineOf, hstart, Option.map_some]
    refine ⟨_, _, rfl, ⟨g₁ ++ ['\n'], [], g₂, by simp, rfl, ?_, ?_⟩, ?_, ?_, ?_⟩
    · simp [Edit.insert, Span.empty]
    · simp [Edit.insert, Span.empty]
    · simpa [Edit.insert] using Text.hasBlankLine_feed_newline s.text g₁ g₂
    · simp [Edit.insert, Text.all_isBlank_newline]
    · simp only [Edit.insert, String.toList_ofList, List.count_append, Text.count_newline,
        List.count_singleton_self]
      omega

theorem exists_collapseBlankLines? (htext : s.text = u ++ g ++ w) (hblank : g.all isBlank = true)
    (hcount : 2 ≤ g.count '\n') (hreturn : u.getLast? = some '\r' → g.head? ≠ some '\n')
    (hcomments : s.tokens.commentsBetween u.size (u ++ g).size = []) :
    ∃ e g', s.collapseBlankLines? u.size (u ++ g).size = some e ∧ e.Turns u.size g g' ∧
      e.replacement.toList.all isBlank = true ∧ g'.count '\n' = 1 := by
  have hhas : s.text.hasBlankLineBetween u.size (u ++ g).size = true := by
    rw [htext, Text.hasBlankLineBetween_iff, Text.hasBlankLine_iff_of_blank hblank]
    exact hcount
  obtain ⟨g₁, cut, g₂, rfl, hne, hfree, hfree', hend, hstart⟩ :=
    Text.exists_line_ends (w := w) (List.count_pos_iff.1 (by omega)) hreturn
  rw [← htext] at hend hstart
  have hlt : (u ++ g₁).size < (u ++ g₁ ++ cut).size := by
    have hpos : 0 < Text.size cut := Nat.pos_of_ne_zero fun h => hne (Text.eq_nil_of_size_eq_zero h)
    rw [Text.size_append (u ++ g₁)]
    omega
  unfold collapseBlankLines?
  rw [hhas, hcomments, if_pos (by rfl), lineOf, lineOf, hend, hstart]
  dsimp only
  rw [if_pos hlt]
  refine ⟨_, _, rfl, ⟨g₁, cut, g₂, rfl, rfl, ?_, ?_⟩, ?_, ?_⟩
  · exact Text.size_append u g₁
  · rw [Text.size_append (u ++ g₁), Text.size_append u]
  · simp [Text.all_isBlank_newline]
  · simp [Text.count_newline, List.count_eq_zero_of_not_mem hfree,
      List.count_eq_zero_of_not_mem hfree']

end Source

theorem BlockPadding.exists_keepOneLine? {s : Source} {u g w : Text} {opening first : Token}
    (htext : s.text = u ++ g ++ w) (hopening : opening.span.stop = u.size)
    (hfirst : first.span.start = (u ++ g).size)
    (hreturn : u.getLast? = some '\r' → g.head? ≠ some '\n') (hcount : g.count '\n' ≠ 2) :
    ∃ e g', keepOneLine? s opening first = some e ∧ e.Turns u.size g g' ∧
      e.replacement.toList.all isBlank = true ∧ g'.count '\n' = 2 := by
  have hleft : s.lineOf u.size = u.count '\n' + 1 := by
    rw [Source.lineOf, htext, Text.lineOf_left]
  have hright : s.lineOf (u ++ g).size = u.count '\n' + g.count '\n' + 1 := by
    rw [Source.lineOf, htext, Text.lineOf_right]
  unfold keepOneLine?
  rw [hopening, hfirst]
  dsimp only
  by_cases hfew : g.count '\n' ≤ 1
  · rw [if_pos (by omega)]
    obtain ⟨e, g', hedit, hturns, -, hput, hcount'⟩ := Source.exists_ensureBlankLine? htext
      fun hhas => by have := hhas.two_le_count; omega
    exact ⟨e, g', hedit, hturns, hput, by omega⟩
  · rw [if_neg (by omega)]
    obtain ⟨g₁, cut, g₂, rfl, -, hfree, hfree', hend, hstart⟩ :=
      Text.exists_line_ends (w := w) (List.count_pos_iff.1 (by omega)) hreturn
    rw [← htext] at hend hstart
    rw [Source.lineOf, Source.lineOf, hend, hstart]
    refine ⟨_, _, rfl, ⟨g₁, cut, g₂, rfl, rfl, ?_, ?_⟩, ?_, ?_⟩
    · exact Text.size_append u g₁
    · rw [Text.size_append (u ++ g₁), Text.size_append u]
    · simp [Text.all_isBlank_newline]
    · simp [Text.count_newline, List.count_eq_zero_of_not_mem hfree,
        List.count_eq_zero_of_not_mem hfree']

end ScriptLint
