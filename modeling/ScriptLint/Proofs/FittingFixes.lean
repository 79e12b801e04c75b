import ScriptLint.Proofs.FittingEdits
import ScriptLint.Proofs.NamedBindings
import ScriptLint.Proofs.RuleFindings

/-! Findings in a source as parsers describe it. Each way in which rules make places and fixes gives
stretches of the text that do not end before they start, and patches that apply. -/
namespace ScriptLint

structure Finding.Fits (text : Text) (f : Finding) : Prop where
  span : f.span.Placed text
  fix : ∀ fix, f.fix = some fix → fix.patch.Fits text

/-! Shapes of imports. -/

namespace ImportShape

variable {s : Source}

def Begins (s : Source) (b : NamedBinding) : Prop :=
  (s.tree.span b.node).start ≤ (s.tree.span b.identifier).start

theorem begins_of_shape? (hlinked : s.tree.WellLinked) (hnested : s.tree.Nested s.text) {id : NodeId}
    {shape : Shape} (hshape : shape? s.tree id = some shape) : ∀ b ∈ shape.named, Begins s b :=
  fun b hb => (identifier_under_of_shape? hlinked hshape b hb).inside hlinked hnested |>.1

section Placed

variable (hnested : s.tree.Nested s.text) (hnames : s.NamesPlaced) {b : NamedBinding}
  (hb : Begins s b)
include hnested hnames hb

theorem placed_of_begins :
    Span.Placed s.text ⟨(s.tree.span b.node).start, (s.tree.nameSpan b.identifier).stop⟩ := by
  obtain ⟨hname, hstart⟩ := Source.placed_nameSpan hnested hnames b.identifier
  have hle := hname.le
  rw [hstart] at hle
  exact ⟨Nat.le_trans hb hle, (hnested.placed b.node).start, hname.stop⟩

theorem fits_of_unrename? {patch : Patch} (hpatch : unrename? (.ofSource s) b = some patch) :
    patch.Fits s.text := by
  simp only [unrename?, Option.bind_eq_bind, Option.bind_eq_some_iff] at hpatch
  obtain ⟨v, -, renamed, hrename, hpatch⟩ := hpatch
  refine Patch.fits_of_ofEdits (toOption_eq_some.1 hpatch) ?_
  intro e he
  -- Only the edit at the binding is replaced, the others are those of the renaming.
  rcases List.mem_append.1 he with he | he
  · exact (Source.fits_of_rename? hnames hrename).placed e (List.mem_of_mem_filter he)
  · rw [List.mem_singleton.1 he]
    exact placed_of_begins hnested hnames hb

end Placed

end ImportShape

/-! Blank lines. -/

namespace TokenIndex

variable {ix : TokenIndex}

theorem mem_commentsBetween (h : ix.Sequential) {start stop : Nat} {t : Token}
    (ht : t ∈ ix.commentsBetween start stop) :
    t ∈ ix.all ∧ start ≤ t.span.start ∧ t.span.stop ≤ stop := by
  unfold commentsBetween at ht
  split at ht
  · simp at ht
  · exact (mem_within h).1 (List.mem_of_mem_filter ht)

theorem mem_commentsBetween_of (h : ix.Sequential) {start stop : Nat} {t : Token}
    (ht : t ∈ ix.all) (hcomment : t.isComment = true) (hstart : start ≤ t.span.start)
    (hstop : t.span.stop ≤ stop) : t ∈ ix.commentsBetween start stop := by
  have hle := h.le t ht
  rw [commentsBetween, if_neg (by omega)]
  exact List.mem_filter.2 ⟨(mem_within h).2 ⟨ht, hstart, hstop⟩, hcomment⟩

theorem pairwise_commentsBetween (h : ix.Sequential) (start stop : Nat) :
    (ix.commentsBetween start stop).Pairwise fun a b => a.span.stop ≤ b.span.start := by
  unfold commentsBetween
  split
  · exact .nil
  · refine h.ordered.sublist (List.filter_sublist.trans ?_)
    exact (List.drop_sublist _ _).trans (List.take_sublist _ _)

end TokenIndex

namespace PaddingAroundMultiline

variable {s : Source}

/-- A gap between two places with all comments there before it or behind it. -/
structure IsGap (s : Source) (first next : Nat) (ends : Nat × Nat) : Prop where
  placed : Span.Placed s.text ⟨ends.1, ends.2⟩
  first_le : first ≤ ends.1
  le_next : ends.2 ≤ next
  comments : ∀ c ∈ s.tokens.all, c.isComment = true → first ≤ c.span.start → c.span.stop ≤ next →
    c.span.stop ≤ ends.1 ∨ ends.2 ≤ c.span.start

theorem last_stop_cases {front : List Token} (first : Nat)
    (hle : ∀ c ∈ front, c.span.start ≤ c.span.stop)
    (hpairs : front.Pairwise fun a b => a.span.stop ≤ b.span.start) :
    let start := (front.getLast?.map fun c => c.span.stop).getD first
    (start = first ∨ ∃ a ∈ front, a.span.stop = start) ∧ ∀ c ∈ front, c.span.stop ≤ start := by
  rcases List.eq_nil_or_concat' front with rfl | ⟨init, a, rfl⟩
  · exact ⟨.inl rfl, by simp⟩
  · rw [List.getLast?_concat, Option.map_some, Option.getD_some]
    refine ⟨.inr ⟨a, by simp, rfl⟩, fun c hc => ?_⟩
    rcases List.mem_append.1 hc with hc | hc
    · have hbefore := (List.pairwise_append.1 hpairs).2.2 c hc a (by simp)
      have := hle a (by simp)
      omega
    · rw [List.mem_singleton.1 hc]

theorem first_start_cases {back : List Token} (next : Nat)
    (hle : ∀ c ∈ back, c.span.start ≤ c.span.stop)
    (hpairs : back.Pairwise fun a b => a.span.stop ≤ b.span.start) :
    let stop := (back.head?.map fun c => c.span.start).getD next
    (stop = next ∨ ∃ b ∈ back, b.span.start = stop) ∧ ∀ c ∈ back, stop ≤ c.span.start := by
  cases back with
  | nil => exact ⟨.inl rfl, by simp⟩
  | cons b rest =>
    rw [List.head?_cons, Option.map_some, Option.getD_some]
    refine ⟨.inr ⟨b, by simp, rfl⟩, fun c hc => ?_⟩
    rcases List.mem_cons.1 hc with rfl | hc
    · exact Nat.le_refl _
    · have hbehind := List.rel_of_pairwise_cons hpairs hc
      have := hle b (by simp)
      omega

/-- Comments are taken off the gap from both sides, and do not meet. -/
theorem isGap_gap (h : s.Spanned) {first next : Nat} (hspan : Span.Placed s.text ⟨first, next⟩) :
    IsGap s first next (gap s first next) := by
  unfold gap
  dsimp only
  generalize hp : (fun c : Token => s.lineOf c.span.start == s.lineOf first) = p
  have hmem {c : Token} (hc : c ∈ s.tokens.commentsBetween first next) :=
    TokenIndex.mem_commentsBetween h.tokens hc
  have hplaced {c : Token} (hc : c ∈ s.tokens.commentsBetween first next) :=
    h.token_placed c (hmem hc).1
  -- The comments that stay with the first statement come before those that stay with the second.
  have hsplit := List.takeWhile_append_dropWhile (p := p) (l := s.tokens.commentsBetween first next)
  have hfront := (List.takeWhile_sublist p (l := s.tokens.commentsBetween first next)).subset
  have hback := (List.dropWhile_sublist p (l := s.tokens.commentsBetween first next)).subset
  have hpairs := TokenIndex.pairwise_commentsBetween h.tokens first next
  rw [← hsplit, List.pairwise_append] at hpairs
  obtain ⟨hstart, hbefore⟩ :=
    last_stop_cases first (fun c hc => (hplaced (hfront hc)).le) hpairs.1
  obtain ⟨hstop, hbehind⟩ :=
    first_start_cases next (fun c hc => (hplaced (hback hc)).le) hpairs.2.1
  generalize (Option.map (fun c : Token => c.span.stop)
    (List.takeWhile p (s.tokens.commentsBetween first next)).getLast?).getD first = start at *
  generalize (Option.map (fun c : Token => c.span.start)
    (List.dropWhile p (s.tokens.commentsBetween first next)).head?).getD next = stop at *
  have hgapStart : s.text.isBoundary start = true ∧ first ≤ start ∧ start ≤ next ∧
      ∀ b ∈ List.dropWhile p (s.tokens.commentsBetween first next), start ≤ b.span.start := by
    rcases hstart with hstart | ⟨a, ha, hstart⟩
    · rw [hstart]
      exact ⟨hspan.start, Nat.le_refl _, hspan.le, fun b hb => (hmem (hback hb)).2.1⟩
    · have hspanA := hplaced (hfront ha)
      obtain ⟨-, hfirst, hnext⟩ := hmem (hfront ha)
      rw [← hstart]
      exact ⟨hspanA.stop, Nat.le_trans hfirst hspanA.le, hnext, hpairs.2.2 a ha⟩
  have hgapStop : s.text.isBoundary stop = true ∧ start ≤ stop ∧ stop ≤ next := by
    rcases hstop with hstop | ⟨b, hb, hstop⟩
    · rw [hstop]
      exact ⟨hspan.stop, hgapStart.2.2.1, Nat.le_refl _⟩
    · have hspanB := hplaced (hback hb)
      obtain ⟨-, -, hnext⟩ := hmem (hback hb)
      rw [← hstop]
      exact ⟨hspanB.start, hgapStart.2.2.2 b hb, Nat.le_trans hspanB.le hnext⟩
  refine ⟨⟨hgapStop.2.1, hgapStart.1, hgapStop.1⟩, hgapStart.2.1, hgapStop.2.2, ?_⟩
  intro c hc hcomment hfirst hnext
  have hin := TokenIndex.mem_commentsBetween_of h.tokens hc hcomment hfirst hnext
  rw [← hsplit, List.mem_append] at hin
  rcases hin with hin | hin
  · exact .inl (hbefore c hin)
  · exact .inr (hbehind c hin)

end PaddingAroundMultiline

namespace Source

variable {s : Source}

theorem Anchored.pairwise_of_listed (h : s.Anchored) {elements : List NodeId}
    (hlisted : s.Listed elements) :
    elements.Pairwise fun a b => (s.tree.span a).stop ≤ (s.tree.span b).start := by
  cases hlisted with
  | statements hid hsub => exact (h.statements _ _ hid).sublist hsub
  | properties hid hsub => exact (h.properties _ _ hid).sublist hsub

theorem Anchored.placed_of_reports (h : s.Anchored) {span : Span} (hspan : s.Reports span) :
    span.Placed s.text := by
  cases hspan with
  | node id => exact h.nested.placed id
  | token ht => exact h.token_placed _ ((TokenIndex.mem_select h.tokens).1 ht).1
  | blockStart hopening hfirst =>
    have hopening := h.token_placed _ hopening
    obtain ⟨hfirst, hle⟩ := h.spanned.marked.placed_of_after? hfirst
    exact ⟨Nat.le_trans hopening.le hle, hopening.start, hfirst.start⟩
  | blockEnd hclosing hlast =>
    have hclosing := h.token_placed _ ((TokenIndex.mem_select h.tokens).1 hclosing).1
    obtain ⟨hlast, hle⟩ := h.spanned.marked.placed_of_before? hlast
    exact ⟨Nat.le_trans hle hclosing.le, hlast.stop, hclosing.stop⟩

theorem Anchored.fits_of_makes (h : s.Anchored) {patch : Patch} (hpatch : s.Makes patch) :
    patch.Fits s.text := by
  cases hpatch with
  | rename hpatch => exact fits_of_rename? h.names hpatch
  | unrename hshape hb hpatch =>
    exact ImportShape.fits_of_unrename? h.nested h.names
      (ImportShape.begins_of_shape? h.linked h.nested hshape _ hb) hpatch
  | replaceNode id => exact Patch.fits_single (h.nested.placed id)
  | insertBefore id => exact Patch.fits_single (.empty (h.nested.placed id).start)
  | insertBehind id => exact Patch.fits_single (.empty (h.nested.placed id).stop)
  | replaceToken ht => exact Patch.fits_single (h.token_placed _ ht)
  | @padding a b e hab he =>
    have hle := List.pairwise_pair.1 (h.pairwise_of_listed hab)
    exact Patch.fits_single (placed_of_ensureBlankLine? he (PaddingAroundMultiline.isGap_gap h.spanned
      ⟨hle, (h.nested.placed a).stop, (h.nested.placed b).start⟩).placed)
  | keepOneLine hopening hfirst he =>
    obtain ⟨hfirst, hle⟩ := h.spanned.marked.placed_of_after? hfirst
    exact Patch.fits_single (placed_of_keepOneLine? he
      ⟨hle, (h.token_placed _ hopening).stop, hfirst.start⟩)
  | collapse he => exact Patch.fits_single (placed_of_collapseBlankLines? he)
  | reorder hlisted hpatch =>
    exact h.spanned.fits_of_reorder? (h.pairwise_of_listed hlisted) hpatch

theorem Anchored.fits_of_isMade (h : s.Anchored) {x : Finding} (hx : x.IsMade s) :
    x.Fits s.text :=
  ⟨h.placed_of_reports hx.place, fun fix hfix => h.fits_of_makes (hx.fix fix hfix)⟩

end Source

end ScriptLint
