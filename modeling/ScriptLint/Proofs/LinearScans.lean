import ScriptLint.Proofs.TokenNavigation

/-! Token navigation as a scan. Where tokens do not overlap both their ends ascend, so a test of an
end holds of the first tokens and of no others: what binary search counts off is what a filter
keeps. -/
namespace ScriptLint

section Counted

variable {α : Type} {p : α → Bool} {l : List α} {k : Nat}

theorem eq_true_of_mem_take (h : ∀ i a, l[i]? = some a → (i < k ↔ p a = true)) {a : α}
    (ha : a ∈ l.take k) : p a = true := by
  obtain ⟨i, hi⟩ := List.getElem?_of_mem ha
  rw [List.getElem?_take] at hi
  split at hi
  · rename_i hlt
    exact (h i a hi).1 hlt
  · cases hi

theorem eq_false_of_mem_drop (h : ∀ i a, l[i]? = some a → (i < k ↔ p a = true)) {a : α}
    (ha : a ∈ l.drop k) : p a = false := by
  obtain ⟨i, hi⟩ := List.getElem?_of_mem ha
  rw [List.getElem?_drop] at hi
  simpa using h (k + i) a hi

theorem take_eq_filter (h : ∀ i a, l[i]? = some a → (i < k ↔ p a = true)) :
    l.take k = l.filter p := by
  have htake := List.filter_eq_self.2 fun a => eq_true_of_mem_take (a := a) h
  have hdrop : (l.drop k).filter p = [] :=
    List.filter_eq_nil_iff.2 fun a ha => Bool.eq_false_iff.1 (eq_false_of_mem_drop h ha)
  conv_rhs => rw [← List.take_append_drop k l, List.filter_append, htake, hdrop, List.append_nil]

theorem drop_eq_filter (h : ∀ i a, l[i]? = some a → (i < k ↔ p a = true)) :
    l.drop k = l.filter fun a => !p a := by
  have htake : (l.take k).filter (fun a => !p a) = [] :=
    List.filter_eq_nil_iff.2 fun a ha => by simp [eq_true_of_mem_take h ha]
  have hdrop : (l.drop k).filter (fun a => !p a) = l.drop k :=
    List.filter_eq_self.2 fun a ha => by simp [eq_false_of_mem_drop h ha]
  conv_rhs => rw [← List.take_append_drop k l, List.filter_append, htake, hdrop, List.nil_append]

theorem filter_head? (h : l.Pairwise fun a b => p b = true → p a = true) :
    l.head?.filter p = (l.filter p).head? := by
  cases l with
  | nil => rfl
  | cons a l =>
    by_cases ha : p a = true
    · rw [List.head?_cons, List.filter_cons_of_pos ha, Option.filter_some, if_pos ha,
        List.head?_cons]
    · have hnone : l.filter p = [] := by
        rw [List.filter_eq_nil_iff]
        exact fun b hb hpb => ha ((List.pairwise_cons.1 h).1 b hb hpb)
      rw [List.head?_cons, List.filter_cons_of_neg ha, hnone, Option.filter_some, if_neg ha]
      rfl

theorem filter_getLast? (h : l.Pairwise fun a b => p a = true → p b = true) :
    l.getLast?.filter p = (l.filter p).getLast? := by
  have hreverse := filter_head? (List.pairwise_reverse.2 h)
  rwa [List.head?_reverse, List.filter_reverse, List.head?_reverse] at hreverse

end Counted

namespace TokenIndex

variable {ix : TokenIndex} {ts : Array Token} {p : Token → Bool}

theorem Leads.take (h : Leads ts p) : ts.toList.take (countWhile ts p) = ts.toList.filter p :=
  take_eq_filter fun _ _ ha => h.lt_countWhile_iff (by simpa using ha)

theorem Leads.drop (h : Leads ts p) :
    ts.toList.drop (countWhile ts p) = ts.toList.filter fun t => !p t :=
  drop_eq_filter fun _ _ ha => h.lt_countWhile_iff (by simpa using ha)

theorem Sequential.toList_select (h : ix.Sequential) (comments : Bool) :
    (ix.select comments).toList = ix.all.toList.filter fun t => comments || !t.isComment := by
  cases comments with
  | true => simp [TokenIndex.select]
  | false => simpa [TokenIndex.select] using h.code_eq

theorem Sequential.before?_eq (h : ix.Sequential) (offset : Nat) (comments : Bool) :
    ix.before? offset comments =
      (ix.all.toList.filter fun t =>
        (comments || !t.isComment) && decide (t.span.stop ≤ offset)).getLast? := by
  have hleads := h.leads_stop comments offset
  have hscan : (ix.all.toList.filter fun t =>
      (comments || !t.isComment) && decide (t.span.stop ≤ offset)) =
        (ix.select comments).toList.take
          (countWhile (ix.select comments) fun t => t.span.stop ≤ offset) := by
    rw [hleads.take, h.toList_select, List.filter_filter]
    simp only [Bool.and_comm]
  have hle := hleads.countWhile_le
  rw [hscan, List.getLast?_take]
  unfold before?
  dsimp only
  split
  · rename_i hzero
    rw [if_pos hzero]
  · rename_i n hn
    have hlt : n < (ix.select comments).size := by omega
    rw [hn, if_neg (Nat.succ_ne_zero n), Nat.succ_sub_one, Array.getElem?_toList,
      Array.getElem?_eq_getElem hlt]
    rfl

theorem Sequential.after?_eq (h : ix.Sequential) (offset : Nat) (comments : Bool) :
    ix.after? offset comments =
      (ix.all.toList.filter fun t =>
        (comments || !t.isComment) && decide (offset ≤ t.span.start)).head? := by
  have hleads := h.leads_start comments offset
  have hscan : (ix.all.toList.filter fun t =>
      (comments || !t.isComment) && decide (offset ≤ t.span.start)) =
        (ix.select comments).toList.drop
          (countWhile (ix.select comments) fun t => t.span.start < offset) := by
    rw [hleads.drop, h.toList_select, List.filter_filter]
    simp only [← decide_not, Nat.not_lt, Bool.and_comm]
  rw [hscan, List.head?_drop, Array.getElem?_toList]
  rfl

theorem Sequential.within_eq (h : ix.Sequential) (span : Span) :
    ix.within span = ix.all.toList.filter fun t => span.contains t.span := by
  have hlast : ix.all.toList.take (countWhile ix.all fun t => t.span.stop ≤ span.stop) =
      ix.all.toList.filter fun t => t.span.stop ≤ span.stop := (h.leads_stop true span.stop).take
  have hfirst : ∀ i t, (ix.all.toList.take
      (countWhile ix.all fun t => t.span.stop ≤ span.stop))[i]? = some t →
        (i < (countWhile ix.all fun t => t.span.start < span.start) ↔
          decide (t.span.start < span.start) = true) := by
    intro i t ht
    rw [List.getElem?_take] at ht
    split at ht
    · rw [Array.getElem?_toList] at ht
      exact (h.leads_start true span.start).lt_countWhile_iff (t := t) ht
    · cases ht
  unfold within
  dsimp only
  rw [drop_eq_filter hfirst, hlast, List.filter_filter]
  simp only [← decide_not, Nat.not_lt, Span.contains]

theorem Sequential.commentsBetween_eq (h : ix.Sequential) (start stop : Nat) :
    ix.commentsBetween start stop =
      ix.all.toList.filter fun t => t.isComment && (Span.mk start stop).contains t.span := by
  unfold commentsBetween
  split
  · rename_i hlt
    refine (List.filter_eq_nil_iff.2 fun t ht => ?_).symm
    have := h.le t (Array.mem_toList_iff.1 ht)
    simp only [Span.contains, Bool.and_eq_true, decide_eq_true_eq]
    omega
  · rw [h.within_eq, List.filter_filter]

theorem Sequential.firstCodeWithin?_eq (h : ix.Sequential) (span : Span) :
    ix.firstCodeWithin? span =
      (ix.all.toList.filter fun t => !t.isComment && span.contains t.span).head? := by
  unfold firstCodeWithin?
  rw [h.after?_eq, filter_head?, List.filter_filter]
  · congr 2
    funext t
    simp only [Span.contains, Bool.false_or]
    ac_rfl
  -- Of two tokens the later one ends later.
  · refine (h.ordered.filter _).imp_of_mem fun {a b} ha hb hab => ?_
    have := h.le b (Array.mem_toList_iff.1 (List.mem_filter.1 hb).1)
    simp only [decide_eq_true_eq]
    omega

theorem Sequential.lastCodeWithin?_eq (h : ix.Sequential) (span : Span) :
    ix.lastCodeWithin? span =
      (ix.all.toList.filter fun t => !t.isComment && span.contains t.span).getLast? := by
  unfold lastCodeWithin?
  rw [h.before?_eq, filter_getLast?, List.filter_filter]
  · congr 2
    funext t
    simp only [Span.contains, Bool.false_or]
    ac_rfl
  · refine (h.ordered.filter _).imp_of_mem fun {a b} ha hb hab => ?_
    have := h.le a (Array.mem_toList_iff.1 (List.mem_filter.1 ha).1)
    simp only [decide_eq_true_eq]
    omega

/-- Tokens with their ends in order that do not overlap. -/
structure Separate (tokens : List Token) : Prop where
  le : ∀ t ∈ tokens, t.span.start ≤ t.span.stop
  apart : tokens.Pairwise fun a b => a.span.stop ≤ b.span.start ∨ b.span.stop ≤ a.span.start

theorem Separate.sequential {tokens : List Token} (h : Separate tokens) :
    (ofList tokens).Sequential := by
  have hperm : (tokens.mergeSort Token.le).Perm tokens := List.mergeSort_perm _ _
  refine sequential_ofList (fun t ht => h.le t (hperm.mem_iff.1 (by simpa [ofList] using ht))) ?_
  exact (hperm.pairwise_iff fun {a b} hab => hab.symm).2 h.apart

/-- What navigation answers, said of the tokens in source order. -/
structure Scans (ix : TokenIndex) (stream : List Token) : Prop where
  before? : ∀ offset comments, ix.before? offset comments =
    (stream.filter fun t => (comments || !t.isComment) && decide (t.span.stop ≤ offset)).getLast?
  after? : ∀ offset comments, ix.after? offset comments =
    (stream.filter fun t => (comments || !t.isComment) && decide (offset ≤ t.span.start)).head?
  within : ∀ span, ix.within span = stream.filter fun t => span.contains t.span
  commentsBetween : ∀ start stop, ix.commentsBetween start stop =
    stream.filter fun t => t.isComment && (Span.mk start stop).contains t.span
  firstCodeWithin? : ∀ span, ix.firstCodeWithin? span =
    (stream.filter fun t => !t.isComment && span.contains t.span).head?
  lastCodeWithin? : ∀ span, ix.lastCodeWithin? span =
    (stream.filter fun t => !t.isComment && span.contains t.span).getLast?

theorem mem_code (h : ix.Sequential) {t : Token} (ht : t ∈ ix.all) (hcode : t.isComment = false) :
    t ∈ ix.select false :=
  (mem_select h).2 ⟨ht, .inr hcode⟩

theorem Sequential.scans (h : ix.Sequential) : ix.Scans ix.all.toList :=
  ⟨h.before?_eq, h.after?_eq, h.within_eq, h.commentsBetween_eq, h.firstCodeWithin?_eq,
    h.lastCodeWithin?_eq⟩

end TokenIndex

def hasCodeBetween (tokens : List Token) (first last : Nat) : Bool :=
  tokens.any fun t => !t.isComment && (Span.mk first last).contains t.span

theorem hasCodeBetween_eq_false_iff {tokens : List Token} {first last : Nat} :
    hasCodeBetween tokens first last = false ↔
      ∀ t ∈ tokens, t.isComment = false → first ≤ t.span.start → last < t.span.stop := by
  simp [hasCodeBetween, Span.contains]

namespace Source

variable {s : Source}

/-- The comments around a node are those that no code separates from it. -/
structure ScansComments (s : Source) (stream : List Token) : Prop where
  before : ∀ id, s.commentsBefore id = stream.filter fun t =>
    t.isComment && decide (t.span.stop ≤ (s.tree.span id).start) &&
      !hasCodeBetween stream t.span.stop (s.tree.span id).start
  after : ∀ id, s.commentsAfter id = stream.filter fun t =>
    t.isComment && decide ((s.tree.span id).stop ≤ t.span.start) &&
      !hasCodeBetween stream (s.tree.span id).stop t.span.start

section

variable {c : Token} {offset : Nat}

theorem last_stop_le_iff (h : s.tokens.Ordered) (hc : c ∈ s.tokens.all)
    (hcomment : c.isComment = true) :
    ((s.tokens.before? offset false).map fun t => t.span.stop).getD 0 ≤ c.span.start ↔
      hasCodeBetween s.tokens.all.toList c.span.stop offset = false := by
  rw [hasCodeBetween_eq_false_iff]
  have hpos := h.nonempty c hc
  cases hbefore : s.tokens.before? offset false with
  | none =>
    refine ⟨fun _ t ht hcode hle => ?_, fun _ => Nat.zero_le _⟩
    by_contra hstop
    have hselect := TokenIndex.mem_code h (Array.mem_toList_iff.1 ht) hcode
    obtain ⟨u, hu⟩ := TokenIndex.exists_before? h hselect (Nat.le_of_not_lt hstop)
    rw [hbefore] at hu
    cases hu
  | some u =>
    obtain ⟨hu, hstop, hlast⟩ := TokenIndex.before?_eq_some h hbefore
    obtain ⟨hmem, hcode⟩ := (TokenIndex.mem_select h).1 hu
    have hupos := h.nonempty u hmem
    rw [Option.map_some, Option.getD_some]
    constructor
    · intro hle t ht htcode hct
      by_contra hts
      have htpos := h.nonempty t (Array.mem_toList_iff.1 ht)
      have hselect := TokenIndex.mem_code h (Array.mem_toList_iff.1 ht) htcode
      rcases hlast t hselect (Nat.le_of_not_lt hts) with rfl | htu
      · omega
      · omega
    · intro hnone
      rcases h.eq_or_apart hc hmem with rfl | hcu | huc
      · simp [hcomment] at hcode
      · have := hnone u (Array.mem_toList_iff.2 hmem) (by simpa using hcode) hcu
        omega
      · exact huc

theorem stop_le_next_start_iff (h : s.tokens.Ordered) (hc : c ∈ s.tokens.all)
    (hcomment : c.isComment = true) (hsize : c.span.stop ≤ s.text.size) :
    c.span.stop ≤ ((s.tokens.after? offset false).map fun t => t.span.start).getD s.text.size ↔
      hasCodeBetween s.tokens.all.toList offset c.span.start = false := by
  rw [hasCodeBetween_eq_false_iff]
  have hpos := h.nonempty c hc
  cases hafter : s.tokens.after? offset false with
  | none =>
    refine ⟨fun _ t ht hcode hle => ?_, fun _ => hsize⟩
    have hselect := TokenIndex.mem_code h (Array.mem_toList_iff.1 ht) hcode
    have := TokenIndex.after?_eq_none h hafter hselect
    omega
  | some u =>
    obtain ⟨hu, hstart, hnext⟩ := TokenIndex.after?_eq_some h hafter
    obtain ⟨hmem, hcode⟩ := (TokenIndex.mem_select h).1 hu
    have hupos := h.nonempty u hmem
    rw [Option.map_some, Option.getD_some]
    constructor
    · intro hle t ht htcode hct
      by_contra hts
      have htpos := h.nonempty t (Array.mem_toList_iff.1 ht)
      have hselect := TokenIndex.mem_code h (Array.mem_toList_iff.1 ht) htcode
      rcases hnext t hselect hct with rfl | htu
      · omega
      · omega
    · intro hnone
      rcases h.eq_or_apart hc hmem with rfl | hcu | huc
      · simp [hcomment] at hcode
      · exact hcu
      · have := hnone u (Array.mem_toList_iff.2 hmem) (by simpa using hcode) hstart
        omega

end

theorem scansComments (h : s.tokens.Ordered)
    (hsize : ∀ t ∈ s.tokens.all, t.span.stop ≤ s.text.size) :
    s.ScansComments s.tokens.all.toList where
  before id := by
    unfold commentsBefore
    rw [TokenIndex.Sequential.commentsBetween_eq h]
    refine List.filter_congr fun t ht => ?_
    cases hcomment : t.isComment with
    | false => rfl
    | true =>
      rw [Bool.eq_iff_iff]
      simp only [Span.contains, Bool.true_and, Bool.and_eq_true, decide_eq_true_eq,
        Bool.not_eq_true', last_stop_le_iff h (Array.mem_toList_iff.1 ht) hcomment]
      exact And.comm
  after id := by
    unfold commentsAfter
    rw [TokenIndex.Sequential.commentsBetween_eq h]
    refine List.filter_congr fun t ht => ?_
    have ht' := Array.mem_toList_iff.1 ht
    cases hcomment : t.isComment with
    | false => rfl
    | true =>
      rw [Bool.eq_iff_iff]
      simp only [Span.contains, Bool.true_and, Bool.and_eq_true, decide_eq_true_eq,
        Bool.not_eq_true', stop_le_next_start_iff h ht' hcomment (hsize t ht')]

end Source

open TokenIndex in
/-- Navigation answers as a scan of the tokens in source order does, in whatever order they were
given. Around a node it finds the comments that no code separates from the node, if tokens are not
empty and end in the text, as those of loaded sources do. -/
theorem scans_of_separate {tokens : List Token} (h : Separate tokens) :
    (tokens.mergeSort Token.le).Perm tokens ∧
      ((tokens.mergeSort Token.le).Pairwise fun a b => a.span.stop ≤ b.span.start) ∧
      (ofList tokens).Scans (tokens.mergeSort Token.le) ∧
      ∀ s : Source, s.tokens = ofList tokens →
        (∀ t ∈ tokens, t.span.start < t.span.stop ∧ t.span.stop ≤ s.text.size) →
        s.ScansComments (tokens.mergeSort Token.le) := by
  have hperm : (tokens.mergeSort Token.le).Perm tokens := List.mergeSort_perm _ _
  have hsequential := h.sequential
  refine ⟨hperm, hsequential.ordered, hsequential.scans, ?_⟩
  intro s htokens hspans
  have hmem {t : Token} (ht : t ∈ s.tokens.all) : t ∈ tokens := by
    rw [htokens] at ht
    exact hperm.mem_iff.1 (by simpa [ofList] using ht)
  have hordered : s.tokens.Ordered := by
    refine ⟨fun t ht => (hspans t (hmem ht)).1, ?_, ?_⟩
    · rw [htokens]
      exact hsequential.ordered
    · rw [htokens]
      exact hsequential.code_eq
  have hscans := Source.scansComments hordered fun t ht => (hspans t (hmem ht)).2
  rwa [htokens] at hscans

def assignmentTokens : List Token :=
  [⟨.lineComment, ⟨15, 19⟩, "// t".toList⟩, ⟨.identifier, ⟨0, 1⟩, "a".toList⟩,
    ⟨.blockComment, ⟨2, 9⟩, "/* c */".toList⟩, ⟨.punctuator, ⟨10, 11⟩, "=".toList⟩,
    ⟨.identifier, ⟨12, 13⟩, "b".toList⟩, ⟨.punctuator, ⟨13, 14⟩, ";".toList⟩]

/-- A token without characters right behind the `a`. -/
def emptyToken : Token := ⟨.other, ⟨1, 1⟩, []⟩

def assignmentSource : Source where
  path := "a.js"
  text := "a /* c */ = b; // t".toList
  tree :=
    { nodes := #[⟨.other "X" [], ⟨10, 14⟩⟩, ⟨.program [0] .script, ⟨0, 19⟩⟩]
      children := #[[], [0]]
      parents := #[some 1, none]
      root := 1 }
  tokens := TokenIndex.ofList assignmentTokens

theorem scans_of_separate_assignment :
    TokenIndex.Separate (emptyToken :: assignmentTokens) ∧
      TokenIndex.Separate assignmentTokens ∧
      (TokenIndex.ofList (emptyToken :: assignmentTokens)).before? 1 true = some emptyToken ∧
      assignmentSource.commentsBefore 0 = [⟨.blockComment, ⟨2, 9⟩, "/* c */".toList⟩] ∧
      assignmentSource.commentsAfter 0 = [⟨.lineComment, ⟨15, 19⟩, "// t".toList⟩] := by
  have hwith : TokenIndex.Separate (emptyToken :: assignmentTokens) := by
    constructor <;> decide
  have hwithout : TokenIndex.Separate assignmentTokens := by
    constructor <;> decide
  obtain ⟨-, -, hscans, -⟩ := scans_of_separate hwith
  have hcomments := (scans_of_separate hwithout).2.2.2 assignmentSource rfl (by decide)
  refine ⟨hwith, hwithout, ?_, ?_, ?_⟩
  · rw [hscans.before?]
    cbv
  · rw [hcomments.before]
    cbv
  · rw [hcomments.after]
    cbv

end ScriptLint
