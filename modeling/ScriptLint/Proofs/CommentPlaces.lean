import ScriptLint.Proofs.AnchoredSources
import ScriptLint.Proofs.LinesBetween
import ScriptLint.Rule.CommentStyle

/-! Places of comments. The line and the column of a place depend on the text before it, so whether a
comment goes on with the one above it does not change with the text of the comment. -/
namespace ScriptLint

namespace Text

variable {u w w' : Text} {n : Nat}

theorem lineOf_congr (h : (u ++ w).isBoundary n = true) (hle : n ≤ u.size) :
    (u ++ w').lineOf n = (u ++ w).lineOf n := by
  obtain ⟨x, y, rfl, rfl⟩ := isBoundary_iff.1 (Patch.isBoundary_of_append h hle)
  rw [List.append_assoc, List.append_assoc, lineOf_append, lineOf_append]

theorem exists_columnOf_append (u : Text) :
    ∃ column, ∀ v, (u ++ v).columnOf u.size = column := by
  obtain ⟨x, y, rfl, hx, hy⟩ := exists_last_line u
  exact ⟨y.length + 1, columnOf_append hx hy⟩

theorem columnOf_congr (h : (u ++ w).isBoundary n = true) (hle : n ≤ u.size) :
    (u ++ w').columnOf n = (u ++ w).columnOf n := by
  obtain ⟨x, y, rfl, rfl⟩ := isBoundary_iff.1 (Patch.isBoundary_of_append h hle)
  obtain ⟨column, hcolumn⟩ := exists_columnOf_append x
  rw [List.append_assoc, List.append_assoc, hcolumn, hcolumn]

end Text

namespace CommentStyle

section Place

variable {s s' : Source} (hspanned : s.Spanned) {u w w' : Text} (htext : s.text = u ++ w)
  (htext' : s'.text = u ++ w')
  (hbefore : ∀ offset, offset ≤ u.size →
    s'.tokens.before? offset true = s.tokens.before? offset true)
include htext htext' hbefore

include hspanned in
theorem startsLine_congr {t t' : Token} (ht : s.text.isBoundary t.span.start = true)
    (hle : t.span.start ≤ u.size) (hstart : t'.span.start = t.span.start) :
    s'.startsLine t' = s.startsLine t := by
  rw [Source.startsLine, Source.startsLine, hstart, hbefore _ hle]
  cases hprev : s.tokens.before? t.span.start true with
  | none => rfl
  | some prev =>
    obtain ⟨hplaced, hstop⟩ := hspanned.marked.placed_of_before? hprev
    have hprevStop := hplaced.stop
    rw [htext] at ht hprevStop
    simp only [Source.lineOf, htext, htext', Text.lineOf_congr ht hle,
      Text.lineOf_congr hprevStop (Nat.le_trans hstop hle)]

include hspanned in
theorem isContinuation_congr {c c' : Token} (hc : s.text.isBoundary c.span.start = true)
    (hle : c.span.start ≤ u.size) (hstart : c'.span.start = c.span.start) :
    isContinuation s' c' = isContinuation s c := by
  rw [isContinuation, isContinuation,
    startsLine_congr hspanned htext htext' hbefore hc hle hstart, hstart, hbefore _ hle]
  cases hprev : s.tokens.before? c.span.start true with
  | none => rfl
  | some prev =>
    obtain ⟨hplaced, hstop⟩ := hspanned.marked.placed_of_before? hprev
    have hprevStart := hplaced.start
    have hprevLe := Nat.le_trans (Nat.le_trans hplaced.le hstop) hle
    dsimp only
    rw [startsLine_congr hspanned htext htext' hbefore hprevStart hprevLe rfl]
    rw [htext] at hc hprevStart
    simp only [Source.lineOf, Source.columnOf, htext, htext', Text.lineOf_congr hc hle,
      Text.lineOf_congr hprevStart hprevLe, Text.columnOf_congr hc hle,
      Text.columnOf_congr hprevStart hprevLe]

end Place

end CommentStyle

end ScriptLint
