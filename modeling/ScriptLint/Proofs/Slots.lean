import ScriptLint.Proofs.LineOffsets
import ScriptLint.Proofs.TokenNavigation
import ScriptLint.Refactor.Reorder

/-! Slots of list elements. Where elements begin and end with tokens of their own, their slots come
one after the other, and every cut that a slot makes is the start or the end of a token. -/
namespace ScriptLint

def TokenIndex.IsMark (ix : TokenIndex) (offset : Nat) : Prop :=
  ∃ t ∈ ix.all, t.span.start = offset ∨ t.span.stop = offset

theorem TokenIndex.Ordered.not_across {ix : TokenIndex} (h : ix.Ordered) {offset : Nat}
    (hmark : ix.IsMark offset) {t : Token} (ht : t ∈ ix.all) :
    t.span.stop ≤ offset ∨ offset ≤ t.span.start := by
  obtain ⟨u, hu, hmark⟩ := hmark
  have hne := h.nonempty u hu
  rcases h.eq_or_apart ht hu with rfl | hapart | hapart <;> omega

def Slot.tail (slot : Slot) : Nat := (slot.separator.map Span.stop).getD slot.body.stop

namespace Source

variable {s : Source}

/-! Leading comments. -/

/-- What holds of an offset and of the start of every leading comment that the search finds above one
of which it holds, holds of the offset where the search ends. -/
theorem leadingStartFrom_induction {motive : Nat → Prop} (previousEnd : Option Nat) (fuel : Nat)
    {attached : Nat} (hattached : motive attached)
    (hturn : ∀ attached c, motive attached → s.tokens.before? attached true = some c →
      s.isLeading c attached previousEnd = true → motive c.span.start) :
    motive (s.leadingStartFrom previousEnd fuel attached) := by
  induction fuel generalizing attached with
  | zero => exact hattached
  | succ fuel ih =>
    rw [leadingStartFrom]
    split
    · rename_i c hbefore
      split
      · rename_i hleading
        exact ih (hturn attached c hattached hbefore hleading)
      · exact hattached
    · exact hattached

theorem leadingStartFrom_le (hle : ∀ t ∈ s.tokens.all, t.span.start ≤ t.span.stop)
    (previousEnd : Option Nat) (fuel attached : Nat) :
    s.leadingStartFrom previousEnd fuel attached ≤ attached := by
  refine leadingStartFrom_induction (motive := (· ≤ attached)) previousEnd fuel (Nat.le_refl _) ?_
  intro attached' c hattached hbefore _
  have hstop := TokenIndex.stop_le_of_before? hbefore
  have := hle c (TokenIndex.mem_select_of_before? hbefore)
  omega

theorem leadingStartFrom_eq_or (previousEnd : Option Nat) (fuel attached : Nat) :
    s.leadingStartFrom previousEnd fuel attached = attached ∨
      ∃ t ∈ s.tokens.all, s.leadingStartFrom previousEnd fuel attached = t.span.start := by
  refine leadingStartFrom_induction
    (motive := fun offset => offset = attached ∨ ∃ t ∈ s.tokens.all, offset = t.span.start)
    previousEnd fuel (.inl rfl) ?_
  intro attached' c _ hbefore _
  exact .inr ⟨c, TokenIndex.mem_select_of_before? hbefore, rfl⟩

theorem isMark_leadingStartFrom (previousEnd : Option Nat) (fuel : Nat) {attached : Nat}
    (hmark : s.tokens.IsMark attached) :
    s.tokens.IsMark (s.leadingStartFrom previousEnd fuel attached) := by
  rcases leadingStartFrom_eq_or previousEnd fuel attached with heq | ⟨t, ht, heq⟩
  · rwa [heq]
  · exact ⟨t, ht, .inl heq.symm⟩

theorem stop_le_leadingStartFrom (h : s.tokens.Ordered) {previousEnd : Option Nat} {u : Token}
    (hu : u ∈ s.tokens.all) (hnot : ∀ attached, s.isLeading u attached previousEnd = false)
    (fuel : Nat) {attached : Nat} (hle : u.span.stop ≤ attached) :
    u.span.stop ≤ s.leadingStartFrom previousEnd fuel attached := by
  refine leadingStartFrom_induction (motive := (u.span.stop ≤ ·)) previousEnd fuel hle ?_
  intro attached' c hle' hbefore hleading
  obtain ⟨-, -, hlast⟩ := TokenIndex.before?_eq_some h hbefore
  rcases hlast u ((TokenIndex.mem_select h).2 ⟨hu, .inl rfl⟩) hle' with rfl | hearlier
  · rw [hnot attached'] at hleading
    cases hleading
  · exact hearlier

/-! Trailing comments. -/

theorem after?_of_trailingComment? {offset : Nat} {c : Token}
    (hc : s.trailingComment? offset = some c) :
    s.tokens.after? offset true = some c ∧ c.isComment = true ∧
      s.lineOf c.span.start = s.lineOf offset := by
  unfold trailingComment? at hc
  split at hc
  · cases hc
  · rename_i comment hcomment
    obtain ⟨hafter, hisComment⟩ := Option.filter_eq_some_iff.1 hcomment
    split at hc
    · cases hc
    · rename_i hline
      have heq : comment = c := by
        split at hc
        · split at hc <;> simp_all
        · simpa using hc
      subst heq
      exact ⟨hafter, hisComment, not_not.1 hline⟩

theorem trailingComment?_eq_some (h : s.tokens.Sequential) {offset : Nat} {c : Token}
    (hc : s.trailingComment? offset = some c) :
    c ∈ s.tokens.all ∧ c.isComment = true ∧ offset ≤ c.span.start ∧
      s.lineOf c.span.start = s.lineOf offset ∧
      ∀ u ∈ s.tokens.all, offset ≤ u.span.start → u = c ∨ c.span.stop ≤ u.span.start := by
  obtain ⟨hafter, hisComment, hline⟩ := after?_of_trailingComment? hc
  obtain ⟨hmem, hstart, hfirst⟩ := TokenIndex.after?_eq_some h hafter
  refine ⟨((TokenIndex.mem_select h).1 hmem).1, hisComment, hstart, hline, ?_⟩
  intro u hu hu'
  exact hfirst u ((TokenIndex.mem_select h).2 ⟨hu, .inl rfl⟩) hu'

theorem startsLine_eq_false (h : s.tokens.Ordered) {c u : Token} (hu : u ∈ s.tokens.all)
    (hle : u.span.stop ≤ c.span.start) (hline : s.lineOf c.span.start = s.lineOf u.span.stop) :
    s.startsLine c = false := by
  have hu' := (TokenIndex.mem_select h).2 ⟨hu, .inl rfl⟩
  obtain ⟨t, ht⟩ := TokenIndex.exists_before? h hu' hle
  obtain ⟨hmem, hstop, hlast⟩ := TokenIndex.before?_eq_some h ht
  have hne := h.nonempty t ((TokenIndex.mem_select h).1 hmem).1
  have hge : u.span.stop ≤ t.span.stop := by
    rcases hlast u hu' hle with rfl | hbefore <;> omega
  have hmono := s.text.lineOf_mono hge
  simp only [lineOf] at hline
  simp only [startsLine, ht]
  refine decide_eq_false ?_
  simp only [lineOf]
  omega

theorem isLeading_of_not_isComment {u : Token} (hu : u.isComment = false) (attached : Nat)
    (previousEnd : Option Nat) : s.isLeading u attached previousEnd = false := by
  simp [isLeading, hu]

theorem isLeading_of_not_startsLine {u : Token} (hu : s.startsLine u = false) (attached : Nat)
    (previousEnd : Option Nat) : s.isLeading u attached previousEnd = false := by
  simp [isLeading, hu]

/-! Elements and their slots. -/

/-- An element begins and ends with tokens of its own, and does not begin with a comma. -/
structure IsElement (s : Source) (span : Span) : Prop where
  first : ∃ t ∈ s.tokens.all, t.isComment = false ∧ t.span.start = span.start ∧
    t.span.stop ≤ span.stop ∧ t.isPunctuator "," = false
  last : ∃ t ∈ s.tokens.all, t.isComment = false ∧ t.span.stop = span.stop ∧
    span.start ≤ t.span.start

structure IsBody (s : Source) (span body : Span) (separator : Option Span) : Prop where
  start_eq : body.start = span.start
  start_le : body.start ≤ body.stop
  mark : s.tokens.IsMark body.stop
  /-- A separator is a token of the code behind the body. -/
  separator_token : ∀ sep ∈ separator, body.stop ≤ sep.start ∧
    ∃ t ∈ s.tokens.all, t.isComment = false ∧ t.span = sep
  stop_le : span.stop ≤ (separator.map Span.stop).getD body.stop
  tail_token : ∃ t ∈ s.tokens.all, t.isComment = false ∧
    t.span.stop = (separator.map Span.stop).getD body.stop
  /-- The separator comes before whatever begins at or behind the element, unless that is a comma. -/
  before_next : ∀ t ∈ s.tokens.all, t.isComment = false → span.stop ≤ t.span.start →
    t.isPunctuator "," = false → (separator.map Span.stop).getD body.stop ≤ t.span.start

theorem lastToken?_eq_some (h : s.tokens.Ordered) {element : NodeId}
    (he : s.IsElement (s.tree.span element)) :
    ∃ t ∈ s.tokens.all, t.isComment = false ∧ t.span.stop = (s.tree.span element).stop ∧
      (s.tree.span element).start ≤ t.span.start ∧ s.lastToken? element = some t := by
  obtain ⟨u, hu, hcode, hstop, hstart⟩ := he.last
  have hu' : u ∈ s.tokens.select false := (TokenIndex.mem_select h).2 ⟨hu, .inr hcode⟩
  obtain ⟨t, ht⟩ := TokenIndex.exists_before? h hu' (Nat.le_of_eq hstop)
  obtain ⟨hmem, hle, hlast⟩ := TokenIndex.before?_eq_some h ht
  have hmem' := (TokenIndex.mem_select h).1 hmem
  have hne := h.nonempty t hmem'.1
  have heq : u = t := by
    rcases hlast u hu' (Nat.le_of_eq hstop) with heq | hbefore
    · exact heq
    · omega
  subst heq
  refine ⟨u, hu, hcode, hstop, hstart, ?_⟩
  simp [lastToken?, TokenIndex.lastCodeWithin?, ht, hstart]

theorem IsElement.isBody (h : s.tokens.Ordered) {span : Span} (he : s.IsElement span) :
    s.IsBody span span none := by
  obtain ⟨last, hlast, hcode, hstop, hstart⟩ := he.last
  have hne := h.nonempty last hlast
  exact ⟨rfl, by omega, ⟨last, hlast, .inr hstop⟩, by simp, Nat.le_refl _,
    ⟨last, hlast, hcode, hstop⟩, fun t _ _ hle _ => hle⟩

theorem IsElement.isBody_semicolon (h : s.tokens.Ordered) {span : Span} (he : s.IsElement span)
    {last before : Token} (hlast : last ∈ s.tokens.all) (hcode : last.isComment = false)
    (hstop : last.span.stop = span.stop) (hstart : span.start ≤ last.span.start)
    (hbefore : s.tokens.before? last.span.start true = some before) :
    s.IsBody span ⟨span.start, max before.span.stop span.start⟩ (some last.span) := by
  obtain ⟨hmem, hle, -⟩ := TokenIndex.before?_eq_some h hbefore
  refine ⟨rfl, Nat.le_max_right _ _, ?_, ?_, by simp [hstop], ⟨last, hlast, hcode, rfl⟩, ?_⟩
  · rcases Nat.le_total before.span.stop span.start with hcase | hcase
    · obtain ⟨t, ht, -, hfirst, -⟩ := he.first
      exact ⟨t, ht, .inl (by rw [hfirst, Nat.max_eq_right hcase])⟩
    · exact ⟨before, ((TokenIndex.mem_select h).1 hmem).1, .inr (Nat.max_eq_left hcase).symm⟩
  · rintro _ ⟨⟩
    exact ⟨Nat.max_le.2 ⟨hle, hstart⟩, last, hlast, hcode, rfl⟩
  · intro t _ _ hle' _
    simp only [Option.map_some, Option.getD_some]
    omega

theorem IsElement.isBody_comma (h : s.tokens.Ordered) {span : Span} (he : s.IsElement span)
    {comma : Token} (hafter : s.tokens.after? span.stop false = some comma)
    (hpunctuator : comma.isPunctuator "," = true) : s.IsBody span span (some comma.span) := by
  have hwhole := he.isBody h
  obtain ⟨hmem, hge, hfirst⟩ := TokenIndex.after?_eq_some h hafter
  obtain ⟨hcomma, hselect⟩ := (TokenIndex.mem_select h).1 hmem
  have hcode : comma.isComment = false := by simpa using hselect
  have hne := h.nonempty comma hcomma
  refine ⟨rfl, hwhole.start_le, hwhole.mark, ?_, ?_, ⟨comma, hcomma, hcode, rfl⟩, ?_⟩
  · rintro _ ⟨⟩
    exact ⟨hge, comma, hcomma, hcode, rfl⟩
  · simp only [Option.map_some, Option.getD_some]
    omega
  · intro t ht hcode hle hnot
    rcases hfirst t ((TokenIndex.mem_select h).2 ⟨ht, .inr hcode⟩) hle with rfl | hbefore
    · rw [hpunctuator] at hnot
      simp at hnot
    · exact hbefore

theorem isBody_of_bodyAndSeparator? (h : s.tokens.Ordered) {separator : Separator}
    {element : NodeId} (he : s.IsElement (s.tree.span element)) {body : Span} {sep : Option Span}
    (hbody : s.bodyAndSeparator? separator element = some (body, sep)) :
    s.IsBody (s.tree.span element) body sep := by
  obtain ⟨last, hlast, hcode, hstop, hstart, heq⟩ := lastToken?_eq_some h he
  simp only [bodyAndSeparator?, heq, Option.bind_some] at hbody
  cases separator with
  | statement =>
    dsimp only at hbody
    split at hbody
    · obtain ⟨before, hbefore, hpair⟩ := Option.map_eq_some_iff.1 hbody
      obtain ⟨rfl, rfl⟩ := Prod.mk.inj hpair
      exact he.isBody_semicolon h hlast hcode hstop hstart hbefore
    · cases hbody
      exact he.isBody h
  | comma =>
    dsimp only at hbody
    cases hcomma : (s.tokens.after? (s.tree.span element).stop false).filter
        fun t => t.isPunctuator "," with
    | none =>
      rw [hcomma] at hbody
      cases hbody
      exact he.isBody h
    | some comma =>
      rw [hcomma] at hbody
      cases hbody
      obtain ⟨hafter, hpunctuator⟩ := Option.filter_eq_some_iff.1 hcomma
      exact he.isBody_comma h hafter hpunctuator

structure IsSlot (s : Source) (span : Span) (slot : Slot) : Prop where
  isBody : s.IsBody span slot.body slot.separator
  leading_eq : slot.leading = ⟨slot.span.start, slot.body.start⟩
  start_le : slot.span.start ≤ slot.body.start
  start_mark : s.tokens.IsMark slot.span.start
  tail_le : slot.tail ≤ slot.span.stop
  /-- A trailing comment is the first token behind the rest of the slot, on the same line. -/
  trailing_cases : slot.trailing = none ∧ slot.span.stop = slot.tail ∨
    ∃ c ∈ s.tokens.all, c.isComment = true ∧ slot.trailing = some ⟨slot.tail, slot.span.stop⟩ ∧
      slot.span.stop = c.span.stop ∧ slot.tail ≤ c.span.start ∧ s.startsLine c = false ∧
      ∀ u ∈ s.tokens.all, slot.tail ≤ u.span.start → u = c ∨ c.span.stop ≤ u.span.start

theorem IsElement.start_lt {span : Span} (h : s.tokens.Ordered) (he : s.IsElement span) :
    span.start < span.stop := by
  obtain ⟨t, ht, -, hstart, hstop, -⟩ := he.first
  have := h.nonempty t ht
  omega

theorem isSlot_of_slot? (h : s.tokens.Ordered) {separator : Separator} {previousEnd : Option Nat}
    {element : NodeId} (he : s.IsElement (s.tree.span element)) {slot : Slot}
    (hslot : s.slot? separator previousEnd element = some slot) :
    s.IsSlot (s.tree.span element) slot ∧
      slot.span.start = s.leadingStart (s.tree.span element).start previousEnd := by
  obtain ⟨⟨body, sep⟩, hbody, hslot⟩ := Option.map_eq_some_iff.1 hslot
  have hb := isBody_of_bodyAndSeparator? h he hbody
  obtain ⟨first, hfirst, -, hstart, -⟩ := he.first
  have hmark : s.tokens.IsMark body.start := ⟨first, hfirst, .inl (by rw [hstart, hb.start_eq])⟩
  have hlead : s.leadingStart body.start previousEnd =
      s.leadingStart (s.tree.span element).start previousEnd := by rw [hb.start_eq]
  have hle := leadingStartFrom_le h.sequential.le previousEnd s.tokens.all.size body.start
  have hmark' := isMark_leadingStartFrom previousEnd s.tokens.all.size hmark
  dsimp only at hslot
  cases htrailing : s.trailingComment? ((sep.map Span.stop).getD body.stop) with
  | none =>
    simp only [htrailing, Option.map_none, Option.getD_none] at hslot
    subst hslot
    exact ⟨⟨hb, rfl, hle, hmark', Nat.le_refl _, .inl ⟨rfl, rfl⟩⟩, hlead⟩
  | some c =>
    obtain ⟨hc, hcomment, hge, hline, hnext⟩ := trailingComment?_eq_some h htrailing
    obtain ⟨u, hu, -, hu'⟩ := hb.tail_token
    have hne := h.nonempty c hc
    have hnot : s.startsLine c = false := startsLine_eq_false h hu (by omega) (by rw [hu', hline])
    simp only [htrailing, Option.map_some, Option.getD_some] at hslot
    subst hslot
    refine ⟨⟨hb, rfl, hle, hmark', ?_, .inr ⟨c, hc, hcomment, rfl, rfl, hge, hnot, hnext⟩⟩, hlead⟩
    change (sep.map Span.stop).getD body.stop ≤ c.span.stop
    omega

/-- A slot ends before the leading comments of any later element. -/
theorem IsSlot.stop_le_leadingStart (h : s.tokens.Ordered) {span next : Span} {slot : Slot}
    (hslot : s.IsSlot span slot) (hnext : s.IsElement next) (hle : span.stop ≤ next.start)
    (previousEnd : Option Nat) : slot.span.stop ≤ s.leadingStart next.start previousEnd := by
  obtain ⟨first, hfirst, hcode, hstart, -, hnot⟩ := hnext.first
  have htail : slot.tail ≤ next.start := by
    rw [← hstart]
    exact hslot.isBody.before_next first hfirst hcode (by omega) hnot
  rcases hslot.trailing_cases with ⟨-, heq⟩ | ⟨c, hc, hcomment, -, heq, -, hline, hafter⟩
  · obtain ⟨u, hu, hcode', hu'⟩ := hslot.isBody.tail_token
    rw [heq, Slot.tail, ← hu']
    refine stop_le_leadingStartFrom h hu ?_ _ (by rw [hu']; exact htail)
    exact fun attached => isLeading_of_not_isComment hcode' attached previousEnd
  · rw [heq]
    refine stop_le_leadingStartFrom h hc ?_ _ ?_
    · exact fun attached => isLeading_of_not_startsLine hline attached previousEnd
    · rcases hafter first hfirst (by omega) with rfl | hbefore
      · rw [hcomment] at hcode
        simp at hcode
      · omega

theorem IsSlot.start_lt (h : s.tokens.Ordered) {span : Span} (he : s.IsElement span) {slot : Slot}
    (hslot : s.IsSlot span slot) : slot.span.start < slot.span.stop := by
  have hspan := he.start_lt h
  have hstart := hslot.start_le
  have heq := hslot.isBody.start_eq
  have htail : span.stop ≤ slot.tail := hslot.isBody.stop_le
  have hstop := hslot.tail_le
  omega

structure AreElements (s : Source) (elements : List NodeId) : Prop where
  isElement : ∀ e ∈ elements, s.IsElement (s.tree.span e)
  ordered : elements.Pairwise fun a b => (s.tree.span a).stop ≤ (s.tree.span b).start

def IsSlotOf (s : Source) (element : NodeId) (slot : Slot) : Prop :=
  s.IsSlot (s.tree.span element) slot ∧ ∃ previousEnd,
    slot.span.start = s.leadingStart (s.tree.span element).start previousEnd

theorem forall₂_slot? {separator : Separator} {previousEnd : Option Nat} {elements : List NodeId}
    {slots : List Slot} (hslots : s.slotsFrom? separator previousEnd elements = some slots) :
    List.Forall₂ (fun e slot => ∃ previousEnd, s.slot? separator previousEnd e = some slot)
      elements slots := by
  induction elements generalizing previousEnd slots with
  | nil =>
    cases hslots
    exact .nil
  | cons e elements ih =>
    simp only [slotsFrom?, Option.bind_eq_bind, Option.bind_eq_some_iff] at hslots
    obtain ⟨slot, hslot, rest, hrest, heq⟩ := hslots
    cases heq
    exact .cons ⟨previousEnd, hslot⟩ (ih hrest)

theorem forall₂_of_slotsFrom? (h : s.tokens.Ordered) {separator : Separator}
    {previousEnd : Option Nat} {elements : List NodeId}
    (he : ∀ e ∈ elements, s.IsElement (s.tree.span e)) {slots : List Slot}
    (hslots : s.slotsFrom? separator previousEnd elements = some slots) :
    List.Forall₂ s.IsSlotOf elements slots := by
  refine ((List.forall₂_and_left _ _).2 ⟨he, forall₂_slot? hslots⟩).imp ?_
  rintro e slot ⟨he, previousEnd, hslot⟩
  obtain ⟨hisSlot, hstart⟩ := isSlot_of_slot? h he hslot
  exact ⟨hisSlot, previousEnd, hstart⟩

theorem exists_of_forall₂ {R : NodeId → Slot → Prop} {elements : List NodeId} {slots : List Slot}
    (h : List.Forall₂ R elements slots) {slot : Slot} (hslot : slot ∈ slots) :
    ∃ e ∈ elements, R e slot := by
  induction h with
  | nil => simp at hslot
  | @cons e x elements slots hx _ ih =>
    rcases List.mem_cons.1 hslot with rfl | hmem
    · exact ⟨e, by simp, hx⟩
    · obtain ⟨e', he', hx'⟩ := ih hmem
      exact ⟨e', List.mem_cons_of_mem _ he', hx'⟩

theorem pairwise_of_forall₂ (h : s.tokens.Ordered) {elements : List NodeId}
    (he : s.AreElements elements) {slots : List Slot}
    (hslots : List.Forall₂ s.IsSlotOf elements slots) :
    slots.Pairwise fun a b => a.span.stop ≤ b.span.start := by
  induction hslots with
  | nil => exact .nil
  | @cons e slot elements slots hslot hrest ih =>
    have htail : s.AreElements elements :=
      ⟨fun e' he' => he.isElement e' (List.mem_cons_of_mem _ he'), he.ordered.tail⟩
    refine List.pairwise_cons.2 ⟨?_, ih htail⟩
    intro slot' hslot'
    obtain ⟨e', he', -, previousEnd, hstart⟩ := exists_of_forall₂ hrest hslot'
    rw [hstart]
    exact hslot.1.stop_le_leadingStart h (htail.isElement e' he')
      (List.rel_of_pairwise_cons he.ordered he') previousEnd

end Source

end ScriptLint
