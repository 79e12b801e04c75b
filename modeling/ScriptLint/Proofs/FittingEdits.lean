import ScriptLint.Proofs.AnchoredSources
import ScriptLint.Proofs.LineOffsets
import ScriptLint.Proofs.Reordering
import ScriptLint.Rule.ImportShape
import ScriptLint.Rule.Padding

/-! Edits of the refactorings. In an anchored source each of them cuts between characters, and the
patches that they make can be applied. -/
namespace ScriptLint

namespace Patch

structure Fits (text : Text) (p : Patch) : Prop where
  consistent : p.Consistent
  placed : ∀ e ∈ p.edits, e.span.Placed text

theorem fits_single {text : Text} {e : Edit} (h : e.span.Placed text) : (single e).Fits text :=
  ⟨consistent_single h.le, by simpa [single] using h⟩

theorem fits_of_ofEdits {text : Text} {es : List Edit} {p : Patch} (h : ofEdits es = .ok p)
    (hes : ∀ e ∈ es, e.span.Placed text) : p.Fits text :=
  ⟨consistent_of_ofEdits h fun e he => (hes e he).le,
    fun e he => hes e ((perm_of_ofEdits h).mem_iff.1 he)⟩

end Patch

theorem Span.Placed.empty {text : Text} {offset : Nat} (h : text.isBoundary offset = true) :
    (Span.empty offset).Placed text :=
  ⟨Nat.le_refl _, h, h⟩

namespace Source

variable {s : Source}

/-! Blank lines. -/

theorem placed_of_ensureBlankLine? {first next : Nat} {e : Edit}
    (h : s.ensureBlankLine? first next = some e) (hspan : Span.Placed s.text ⟨first, next⟩) :
    e.span.Placed s.text := by
  unfold ensureBlankLine? at h
  split at h
  · cases h
  · dsimp only at h
    split at h
    · cases h
      exact hspan
    · obtain ⟨start, hstart, rfl⟩ := Option.map_eq_some_iff.1 h
      exact .empty (Text.isBoundary_of_lineStart? hstart)

theorem placed_of_collapseBlankLines? {first next : Nat} {e : Edit}
    (h : s.collapseBlankLines? first next = some e) : e.span.Placed s.text := by
  unfold collapseBlankLines? at h
  split at h
  · split at h
    · rename_i start stop hstart hstop
      obtain ⟨a, ha⟩ := Text.isSome_lineStart?_of_lineEnd? hstart
      split at h
      · rename_i hlt
        cases h
        exact ⟨Nat.le_of_lt hlt, (Text.lineEnd?_spec ha hstart).2.1,
          Text.isBoundary_of_lineStart? hstop⟩
      · cases h
    · cases h
  · cases h

theorem placed_of_keepOneLine? {opening first : Token} {e : Edit}
    (h : BlockPadding.keepOneLine? s opening first = some e)
    (hspan : Span.Placed s.text ⟨opening.span.stop, first.span.start⟩) : e.span.Placed s.text := by
  unfold BlockPadding.keepOneLine? at h
  dsimp only at h
  split at h
  · exact placed_of_ensureBlankLine? h hspan
  · rename_i hlines
    split at h
    · rename_i start stop hstart hstop
      cases h
      obtain ⟨a, ha⟩ := Text.isSome_lineStart?_of_lineEnd? hstart
      obtain ⟨-, hbound, hlater⟩ := Text.lineEnd?_spec ha hstart
      exact ⟨Nat.le_of_lt (hlater _ _ (by omega) hstop), hbound, Text.isBoundary_of_lineStart? hstop⟩
    · cases h

/-! Slots. -/

/-- A slot whose parts are stretches of the text, around the start of an element. -/
structure SlotAt (s : Source) (element : NodeId) (slot : Slot) : Prop where
  span : slot.span.Placed s.text
  leading : slot.leading.Placed s.text
  body : slot.body.Placed s.text
  trailing : ∀ span, slot.trailing = some span → span.Placed s.text
  start_le : slot.span.start ≤ (s.tree.span element).start
  le_stop : (s.tree.span element).start ≤ slot.span.stop

theorem Marked.body_of_bodyAndSeparator? (h : s.Marked) {separator : Separator}
    {element : NodeId} {body : Span} {mark : Option Span}
    (hbody : s.bodyAndSeparator? separator element = some (body, mark)) :
    body.start = (s.tree.span element).start ∧ body.Placed s.text ∧
      ∀ span, mark = some span → span.Placed s.text ∧ body.stop ≤ span.start := by
  have hspan := h.nested.placed element
  unfold bodyAndSeparator? at hbody
  dsimp only at hbody
  obtain ⟨last, hlast, hbody⟩ := Option.bind_eq_some_iff.1 hbody
  obtain ⟨hlast, hinside⟩ := h.placed_of_lastToken? hlast
  split at hbody
  · split at hbody
    · obtain ⟨before, hbefore, hbody⟩ := Option.map_eq_some_iff.1 hbody
      cases hbody
      obtain ⟨hbefore, hstop⟩ := h.placed_of_before? hbefore
      refine ⟨rfl, ⟨Nat.le_max_right _ _, hspan.start, ?_⟩, ?_⟩
      · dsimp only
        rcases Nat.le_total before.span.stop (s.tree.span element).start with hle | hle
        · rw [Nat.max_eq_right hle]
          exact hspan.start
        · rw [Nat.max_eq_left hle]
          exact hbefore.stop
      · intro span hspan
        cases hspan
        exact ⟨hlast, Nat.max_le.2 ⟨hstop, hinside⟩⟩
    · cases hbody
      exact ⟨rfl, hspan, by simp⟩
  · cases hbody
    refine ⟨rfl, hspan, ?_⟩
    intro span hcomma
    obtain ⟨comma, hfilter, rfl⟩ := Option.map_eq_some_iff.1 hcomma
    obtain ⟨hafter, -⟩ := Option.filter_eq_some_iff.1 hfilter
    exact h.placed_of_after? hafter

theorem Marked.slotAt_of_slot? (h : s.Marked) {separator : Separator}
    {previousEnd : Option Nat} {element : NodeId} {slot : Slot}
    (hslot : s.slot? separator previousEnd element = some slot) : s.SlotAt element slot := by
  obtain ⟨⟨body, mark⟩, hbody, hslot⟩ := Option.map_eq_some_iff.1 hslot
  obtain ⟨hstart, hplaced, hmark⟩ := h.body_of_bodyAndSeparator? hbody
  have hlead : s.leadingStart body.start previousEnd ≤ body.start :=
    leadingStartFrom_le h.sorted.le previousEnd _ _
  have hlead' : s.text.isBoundary (s.leadingStart body.start previousEnd) = true := by
    rcases leadingStartFrom_eq_or previousEnd s.tokens.all.size body.start with
      heq | ⟨t, ht, heq⟩
    · rw [leadingStart, heq]
      exact hplaced.start
    · rw [leadingStart, heq]
      exact (h.token_placed t ht).start
  -- The tail, with or without a separator, is behind the body.
  have htail : body.stop ≤ (mark.map Span.stop).getD body.stop ∧
      s.text.isBoundary ((mark.map Span.stop).getD body.stop) = true := by
    cases mark with
    | none => exact ⟨Nat.le_refl _, hplaced.stop⟩
    | some span =>
      obtain ⟨hspan, hle⟩ := hmark span rfl
      exact ⟨Nat.le_trans hle hspan.le, hspan.stop⟩
  have hle := hplaced.le
  dsimp only at hslot
  cases htrailing : s.trailingComment? ((mark.map Span.stop).getD body.stop) with
  | none =>
    rw [htrailing] at hslot
    subst hslot
    refine ⟨⟨?_, hlead', htail.2⟩, ⟨hlead, hlead', hplaced.start⟩, hplaced, by simp, ?_, ?_⟩ <;>
      simp only [Option.map_none, Option.getD_none] <;> omega
  | some comment =>
    rw [htrailing] at hslot
    subst hslot
    obtain ⟨hcomment', hbehind⟩ := h.placed_of_after? (after?_of_trailingComment? htrailing).1
    have hcommentLe := hcomment'.le
    refine ⟨⟨?_, hlead', hcomment'.stop⟩, ⟨hlead, hlead', hplaced.start⟩, hplaced, ?_, ?_, ?_⟩
    · simp only [Option.map_some, Option.getD_some]
      omega
    · intro span hspan
      cases hspan
      exact ⟨Nat.le_trans hbehind hcommentLe, htail.2, hcomment'.stop⟩
    · simp only
      omega
    · simp only [Option.map_some, Option.getD_some]
      omega

theorem Spanned.forall₂_slotAt (h : s.Spanned) {separator : Separator}
    {previousEnd : Option Nat} {elements : List NodeId} {slots : List Slot}
    (hslots : s.slotsFrom? separator previousEnd elements = some slots) :
    List.Forall₂ s.SlotAt elements slots :=
  (forall₂_slot? hslots).imp fun _ _ ⟨_, hslot⟩ => h.marked.slotAt_of_slot? hslot

/-! Reordering. -/

theorem placed_of_ends {elements : List NodeId} {slots : List Slot}
    (hslots : List.Forall₂ s.SlotAt elements slots)
    (hordered : elements.Pairwise fun a b => (s.tree.span a).stop ≤ (s.tree.span b).start)
    (hle : ∀ e, (s.tree.span e).start ≤ (s.tree.span e).stop) {first last : Slot}
    (hfirst : slots.head? = some first) (hlast : slots.getLast? = some last) :
    Span.Placed s.text ⟨first.span.start, last.span.stop⟩ := by
  cases hslots with
  | nil => cases hfirst
  | @cons e x elements slots hx hslots =>
    cases hfirst
    cases slots with
    | nil =>
      cases hlast
      exact hx.span
    | cons y slots =>
      rw [List.getLast?_cons_cons] at hlast
      obtain ⟨e', he', hy⟩ := exists_of_forall₂ hslots (List.mem_of_getLast? hlast)
      have hee' := List.rel_of_pairwise_cons hordered he'
      have hstart := hx.start_le
      have hstop := hy.le_stop
      have he := hle e
      exact ⟨by dsimp only; omega, hx.span.start, hy.span.stop⟩

theorem Spanned.fits_of_reorder? (h : s.Spanned) {elements : List NodeId} {order : List Nat}
    {separator : Separator} {patch : Patch}
    (hordered : elements.Pairwise fun a b => (s.tree.span a).stop ≤ (s.tree.span b).start)
    (hpatch : s.reorder? elements order separator = some patch) : patch.Fits s.text := by
  obtain ⟨-, slots, hslots, -, ⟨-, hwhole⟩ | ⟨-, edits, hedits, hpatch⟩⟩ := reorder?_cases hpatch
  · have hat := h.forall₂_slotAt hslots
    simp only [wholeList?, Option.bind_eq_bind, Option.bind_eq_some_iff] at hwhole
    obtain ⟨first, hfirst, last, hlast, text, -, heq⟩ := hwhole
    cases heq
    refine Patch.fits_single (placed_of_ends hat hordered (fun e => (h.nested.placed e).le) ?_ ?_)
    · simpa [List.head?_eq_getElem?] using hfirst
    · simpa using hlast
  · refine Patch.fits_of_ofEdits hpatch fun e he => ?_
    obtain ⟨slot, hslot, hspan⟩ := exists_slot_of_mem_slotEdits? hedits he
    obtain ⟨element, -, hslotAt⟩ :=
      exists_of_forall₂ (h.forall₂_slotAt hslots) (List.mem_toArray.1 hslot)
    rw [hspan]
    exact hslotAt.span

/-! Renaming. -/

theorem fits_of_rename? (hnames : s.NamesPlaced) {v : VariableId} {name : String} {patch : Patch}
    (hpatch : (SourceFile.ofSource s).rename? v name = some patch) : patch.Fits s.text := by
  cases hv : (SourceFile.ofSource s).scopes.varAt? v with
  | none =>
    rw [SourceFile.rename?, hv] at hpatch
    cases hpatch
  | some target =>
    refine Patch.fits_of_ofEdits (SourceFile.accepts_of_rename? hv hpatch).patched ?_
    intro e he
    obtain ⟨id, hid, rfl⟩ := List.mem_map.1 he
    exact hnames id target.name (SourceFile.usedName?_of_mem_occurrences hv hid)

theorem placed_nameSpan (hnested : s.tree.Nested s.text) (hnames : s.NamesPlaced) (id : NodeId) :
    (s.tree.nameSpan id).Placed s.text ∧
      (s.tree.nameSpan id).start = (s.tree.span id).start := by
  unfold Tree.nameSpan
  split
  · rename_i name hname
    exact ⟨hnames id name (ScopeGraph.usedName?_of_identifierName? hname), rfl⟩
  · exact ⟨hnested.placed id, rfl⟩

end Source

end ScriptLint
