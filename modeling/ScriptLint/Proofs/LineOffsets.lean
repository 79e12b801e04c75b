import ScriptLint.Proofs.SplicedText
import ScriptLint.Text.Lines

/-! Offsets of lines. Lines come one after the other, each starts and ends between characters, and
ends before the next one starts. -/
namespace ScriptLint.Text

variable {t : Text}

theorem exists_of_mem_startsAfterFeeds {base x : Nat} (h : x ∈ startsAfterFeeds base t) :
    ∃ u v : Text, t = u ++ '\n' :: v ∧ x = base + u.size + 1 := by
  induction t generalizing base with
  | nil => simp [startsAfterFeeds] at h
  | cons c t ih =>
    rw [startsAfterFeeds] at h
    split at h
    · rename_i hc
      subst hc
      rcases List.mem_cons.1 h with rfl | h
      · exact ⟨[], t, rfl, rfl⟩
      · obtain ⟨u, v, rfl, rfl⟩ := ih h
        refine ⟨'\n' :: u, v, rfl, ?_⟩
        simp only [size_cons, show '\n'.utf8Size = 1 from rfl]
        omega
    · obtain ⟨u, v, rfl, rfl⟩ := ih h
      refine ⟨c :: u, v, rfl, ?_⟩
      simp only [size_cons]
      omega

theorem lineOf_mono (t : Text) {a b : Nat} (h : a ≤ b) : t.lineOf a ≤ t.lineOf b := by
  refine List.countP_mono_left fun start _ hstart => ?_
  simp only [decide_eq_true_eq] at hstart ⊢
  omega

theorem exists_feed_of_lineOf_ne {a b : Nat} (hle : a ≤ b) (h : t.lineOf b ≠ t.lineOf a) :
    ∃ u v : Text, t = u ++ '\n' :: v ∧ a ≤ u.size ∧ u.size < b := by
  by_contra hnone
  refine h (List.countP_congr fun x hx => ?_)
  simp only [decide_eq_true_eq]
  refine ⟨fun hxb => ?_, fun hxa => by omega⟩
  rcases List.mem_cons.1 hx with rfl | hx
  · exact Nat.zero_le _
  · obtain ⟨u, v, ht, rfl⟩ := exists_of_mem_startsAfterFeeds hx
    by_contra hxa
    exact hnone ⟨u, v, ht, by omega, by omega⟩

theorem pairwise_startsAfterFeeds (base : Nat) (t : Text) :
    (startsAfterFeeds base t).Pairwise (· < ·) := by
  induction t generalizing base with
  | nil => exact .nil
  | cons c t ih =>
    rw [startsAfterFeeds]
    split
    · refine List.pairwise_cons.2 ⟨?_, ih (base + 1)⟩
      intro x hx
      obtain ⟨u, -, -, rfl⟩ := exists_of_mem_startsAfterFeeds hx
      omega
    · exact ih _

theorem pairwise_lineStarts (t : Text) : t.lineStarts.Pairwise (· < ·) := by
  refine List.pairwise_cons.2 ⟨?_, pairwise_startsAfterFeeds 0 t⟩
  intro x hx
  obtain ⟨u, -, -, rfl⟩ := exists_of_mem_startsAfterFeeds hx
  omega

theorem isBoundary_of_mem_lineStarts {x : Nat} (h : x ∈ t.lineStarts) : t.isBoundary x = true := by
  rcases List.mem_cons.1 h with rfl | h
  · exact isBoundary_zero t
  · obtain ⟨u, v, rfl, rfl⟩ := exists_of_mem_startsAfterFeeds h
    refine isBoundary_iff.2 ⟨u ++ ['\n'], v, by simp, ?_⟩
    rw [size_append, size_cons, size_nil, show '\n'.utf8Size = 1 from rfl]
    omega

theorem lt_of_lineStart? {m n a b : Nat} (hmn : m < n) (ha : t.lineStart? m = some a)
    (hb : t.lineStart? n = some b) : a < b := by
  cases m with
  | zero => simp [lineStart?] at ha
  | succ m =>
    cases n with
    | zero => omega
    | succ n =>
      simp only [lineStart?] at ha hb
      obtain ⟨hm, rfl⟩ := List.getElem?_eq_some_iff.1 ha
      obtain ⟨hn, rfl⟩ := List.getElem?_eq_some_iff.1 hb
      exact List.pairwise_iff_getElem.1 t.pairwise_lineStarts m n hm hn (by omega)

theorem mem_lineStarts_of_lineStart? {n a : Nat} (h : t.lineStart? n = some a) :
    a ∈ t.lineStarts := by
  cases n with
  | zero => simp [lineStart?] at h
  | succ n => exact List.mem_of_getElem? h

theorem isBoundary_of_lineStart? {n a : Nat} (h : t.lineStart? n = some a) :
    t.isBoundary a = true :=
  isBoundary_of_mem_lineStarts (mem_lineStarts_of_lineStart? h)

theorem getElem?_le_of_lt_countP {l : List Nat} (hl : l.Pairwise (· < ·)) {x i a : Nat}
    (hi : i < l.countP fun b => b ≤ x) (ha : l[i]? = some a) : a ≤ x := by
  induction l generalizing i with
  | nil => simp at ha
  | cons b l ih =>
    obtain ⟨hb, hl⟩ := List.pairwise_cons.1 hl
    rw [List.countP_cons] at hi
    by_cases hbx : b ≤ x
    · cases i with
      | zero => simpa using (Option.some.inj ha) ▸ hbx
      | succ i =>
        simp only [decide_eq_true_eq, hbx, if_true] at hi
        exact ih hl (by omega) ha
    · -- All others are greater still.
      have hnone : (l.countP fun b => decide (b ≤ x)) = 0 := by
        rw [List.countP_eq_zero]
        intro c hc
        have := hb c hc
        simp only [decide_eq_true_eq]
        omega
      simp only [hnone, decide_eq_true_eq, hbx, if_false] at hi
      omega

theorem lineStart?_lineOf_le {offset a : Nat} (h : t.lineStart? (t.lineOf offset) = some a) :
    a ≤ offset := by
  cases hn : t.lineOf offset with
  | zero => simp [hn, lineStart?] at h
  | succ n =>
    rw [hn] at h
    refine getElem?_le_of_lt_countP t.pairwise_lineStarts ?_ h
    change n < t.lineOf offset
    omega

def rawEnd (t : Text) (line : Nat) : Nat :=
  match t.lineStarts[line]? with
  | some next => next - 1
  | none => t.size

theorem rawEnd_spec {n a : Nat} (h : t.lineStart? n = some a) :
    a ≤ t.rawEnd n ∧ t.isBoundary (t.rawEnd n) = true ∧
      ∀ m b, n < m → t.lineStart? m = some b → t.rawEnd n < b := by
  have hbound := isBoundary_of_lineStart? h
  unfold rawEnd
  cases hnext : t.lineStarts[n]? with
  | none =>
    refine ⟨le_size_of_isBoundary hbound, isBoundary_size t, ?_⟩
    intro m b hm hb
    cases m with
    | zero => omega
    | succ m =>
      have hlt := (List.getElem?_eq_some_iff.1 hb).1
      rw [List.getElem?_eq_none_iff] at hnext
      omega
  | some next =>
    have hlt := lt_of_lineStart? (Nat.lt_succ_self n) h hnext
    refine ⟨by dsimp only; omega, ?_, ?_⟩
    -- A line that is not the first one starts right after a feed.
    · rcases List.mem_cons.1 (List.mem_of_getElem? hnext) with rfl | hfeed
      · omega
      · obtain ⟨u, v, ht, rfl⟩ := exists_of_mem_startsAfterFeeds hfeed
        exact isBoundary_iff.2 ⟨u, '\n' :: v, ht, by simp⟩
    · intro m b hm hb
      dsimp only
      rcases Nat.lt_or_eq_of_le (Nat.succ_le_of_lt hm) with hm | rfl
      · have := lt_of_lineStart? (m := n + 1) hm hnext hb
        omega
      · have heq : some next = some b := hnext.symm.trans hb
        cases heq
        omega

theorem lineEnd?_spec {n a e : Nat} (ha : t.lineStart? n = some a) (he : t.lineEnd? n = some e) :
    a ≤ e ∧ t.isBoundary e = true ∧ ∀ m b, n < m → t.lineStart? m = some b → e < b := by
  obtain ⟨hle, hbound, hnext⟩ := rawEnd_spec ha
  rw [lineEnd?, ha, Option.map_some, Option.some.injEq] at he
  change (if (t.slice a (t.rawEnd n)).getLast? = some '\r' then t.rawEnd n - 1
    else t.rawEnd n) = e at he
  split at he
  · rename_i hreturn
    obtain ⟨u, v, w, ht, hu, huv⟩ := exists_append_of_boundaries (isBoundary_of_lineStart? ha) hbound hle
    rw [← hu, ← huv, ht, slice_append] at hreturn
    obtain ⟨v', rfl⟩ := List.getLast?_eq_some_iff.1 hreturn
    have hsize : (u ++ (v' ++ ['\r'])).size = (u ++ v').size + 1 := by
      simp only [size_append, size_cons, size_nil, show '\r'.utf8Size = 1 from rfl]
      omega
    have hsum := size_append u v'
    refine ⟨by omega, ?_, ?_⟩
    · refine isBoundary_iff.2 ⟨u ++ v', '\r' :: w, by simp [ht], by omega⟩
    · intro m b hm hb
      have := hnext m b hm hb
      omega
  · subst he
    exact ⟨hle, hbound, hnext⟩

theorem isSome_lineStart?_of_lineEnd? {n e : Nat} (h : t.lineEnd? n = some e) :
    ∃ a, t.lineStart? n = some a := by
  rw [lineEnd?] at h
  obtain ⟨a, ha, -⟩ := Option.map_eq_some_iff.1 h
  exact ⟨a, ha⟩

end ScriptLint.Text
