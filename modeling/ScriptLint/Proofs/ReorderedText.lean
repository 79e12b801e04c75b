import ScriptLint.Proofs.FittingEdits

/-! The text after a reordering. Whether slots are edited one by one or the list is written anew, the
text is a row of fragments: stretches of the old text, moved or in their places, and what is put
between elements of a list that is written anew. -/
namespace ScriptLint

def Slot.front (slot : Slot) : Span := ⟨slot.span.start, slot.body.stop⟩

inductive Fragment where
  | stretch (span : Span) (moved : Bool)
  | filler (text : Text)
  deriving DecidableEq, Repr

namespace Source

open Piece

variable {s : Source} {slots : Array Slot}

def fragmentText (s : Source) : Fragment → Text
  | .stretch span _ => s.textOf span
  | .filler text => text

/-- A slot that gets an element, piece by piece. -/
def rendered (target moved : Slot) (isMoved : Bool) : List Fragment :=
  .stretch moved.front isMoved ::
    (target.separator.toList.map (.stretch · false) ++
      moved.trailing.toList.map (.stretch · isMoved))

def lineBreak (s : Source) (slots : Array Slot) : Nat → Text
  | 0 => []
  | position + 1 =>
    let previous := (slots[position]?.map fun slot => slot.body.stop).getD 0
    let next := (slots[position + 1]?.map fun slot => slot.body.start).getD 0
    if s.lineOf previous = s.lineOf next then [' '] else '\n' :: s.text.indentOf (s.lineOf next)

/-- What stands before slot `position`, or behind the last one. -/
def between (s : Source) (slots : Array Slot) (position : Nat) : Fragment :=
  if slotsOverlap slots.toList && decide (0 < position) && decide (position < slots.size) then
    .filler (s.lineBreak slots position)
  else
    .stretch ⟨gapStart slots position,
      (slots[position]?.map fun slot => slot.span.start).getD s.text.size⟩ false

/-- Slot `position` with element `source`. A slot that keeps its element is left as it is, unless the
whole list is written anew. -/
def content (slots : Array Slot) (position source : Nat) : List Fragment :=
  match slots[position]?, slots[source]? with
  | some target, some moved =>
    if position = source && !slotsOverlap slots.toList then [.stretch target.span false]
    else rendered target moved (position != source)
  | _, _ => []

/-- The fragments from what stands before slot `position` on, where the slots get the elements of
`order`. -/
def layout (s : Source) (slots : Array Slot) : Nat → List Nat → List Fragment
  | position, [] => [s.between slots position]
  | position, source :: order =>
    s.between slots position ::
      (content slots position source ++ s.layout slots (position + 1) order)

theorem leading_eq_of_slot? {separator : Separator} {previousEnd : Option Nat} {element : NodeId}
    {slot : Slot} (h : s.slot? separator previousEnd element = some slot) :
    slot.leading = ⟨slot.span.start, slot.body.start⟩ := by
  obtain ⟨⟨body, mark⟩, -, rfl⟩ := Option.map_eq_some_iff.1 h
  rfl

theorem Spanned.placed_front (h : s.Spanned) {separator : Separator} {previousEnd : Option Nat}
    {element : NodeId} {slot : Slot} (hslot : s.slot? separator previousEnd element = some slot) :
    slot.front.Placed s.text := by
  have hat := h.marked.slotAt_of_slot? hslot
  have hle := hat.leading.le
  rw [leading_eq_of_slot? hslot] at hle
  exact ⟨Nat.le_trans hle hat.body.le, hat.span.start, hat.body.stop⟩

theorem Spanned.textOf_front (h : s.Spanned) {separator : Separator} {previousEnd : Option Nat}
    {element : NodeId} {slot : Slot} (hslot : s.slot? separator previousEnd element = some slot) :
    s.textOf slot.front = s.textOf slot.leading ++ s.textOf slot.body := by
  have hat := h.marked.slotAt_of_slot? hslot
  have hle := hat.leading.le
  rw [leading_eq_of_slot? hslot] at hle ⊢
  exact (Text.slice_append_slice hat.span.start hat.body.start hat.body.stop hle hat.body.le).symm

theorem flatMap_rendered {target moved : Slot}
    (h : s.textOf moved.front = s.textOf moved.leading ++ s.textOf moved.body) (isMoved : Bool) :
    (rendered target moved isMoved).flatMap s.fragmentText = s.renderSlot moved target := by
  cases hseparator : target.separator <;> cases htrailing : moved.trailing <;>
    simp [rendered, renderSlot, fragmentText, h, hseparator, htrailing]

/-! Slots that are edited one by one. -/

theorem flatMap_layout_eq_arrangement (hoverlap : slotsOverlap slots.toList = false)
    (hfront : ∀ slot ∈ slots,
      s.textOf slot.front = s.textOf slot.leading ++ s.textOf slot.body)
    {position : Nat} {order : List Nat} (hsize : position + order.length = slots.size)
    (horder : ∀ source ∈ order, source < slots.size) :
    (s.layout slots position order).flatMap s.fragmentText =
      (arrangement position order).flatMap (s.pieceText slots) := by
  induction order generalizing position with
  | nil =>
    simp [layout, between, hoverlap, arrangement, fragmentText, pieceText, span?]
  | cons source order ih =>
    rw [List.length_cons] at hsize
    obtain ⟨hsource, horder⟩ := List.forall_mem_cons.1 horder
    have htarget : slots[position]? = some slots[position] := Array.getElem?_eq_getElem (by omega)
    have hmoved : slots[source]? = some slots[source] := Array.getElem?_eq_getElem hsource
    have hgap : s.fragmentText (s.between slots position) = s.pieceText slots (.gap position) := by
      simp [between, hoverlap, fragmentText, pieceText, span?]
    have hcontent : (content slots position source).flatMap s.fragmentText =
        (placed position source).flatMap (s.pieceText slots) := by
      by_cases hsame : position = source
      · subst hsame
        simp [content, placed, htarget, hoverlap, fragmentText, pieceText, span?]
      · simp [content, placed, htarget, hmoved, hsame, pieceText, span?, renderSlot,
          flatMap_rendered (hfront _ (Array.getElem_mem hsource))]
    rw [layout, arrangement, List.cons_append, List.flatMap_cons, List.flatMap_cons,
      List.flatMap_append, List.flatMap_append, hgap, hcontent, ih (by omega) horder]

theorem pairwise_of_slotsOverlap_eq_false {slots : List Slot}
    (hle : ∀ slot ∈ slots, slot.span.start ≤ slot.span.stop) (h : slotsOverlap slots = false) :
    slots.Pairwise fun a b => a.span.stop ≤ b.span.start := by
  induction slots with
  | nil => exact .nil
  | cons a slots ih =>
    obtain ⟨-, hle⟩ := List.forall_mem_cons.1 hle
    cases slots with
    | nil => exact List.pairwise_singleton _ _
    | cons b slots =>
      rw [slotsOverlap, Bool.or_eq_false_iff, decide_eq_false_iff_not, Nat.not_lt] at h
      have hrest := ih hle h.2
      refine List.pairwise_cons.2 ⟨List.forall_mem_cons.2 ⟨h.1, fun c hc => ?_⟩, hrest⟩
      -- Later slots lie behind the next one.
      have hb := hle b List.mem_cons_self
      have hbc := List.rel_of_pairwise_cons hrest hc
      omega

theorem PlacedSlots.apply_of_ofEdits (h : s.PlacedSlots slots) {order : List Nat}
    (hsize : order.length = slots.size) {edits : List Edit}
    (hedits : s.slotEdits? slots 0 order = some edits) {patch : Patch}
    (hpatch : Patch.ofEdits edits = .ok patch) :
    patch.apply s.text = .ok ((arrangement 0 order).flatMap (s.pieceText slots)) := by
  obtain ⟨hinOrder, hspliced⟩ := h.spliced_slotEdits? (by omega) hedits
  have hspan : ∀ e ∈ edits, e.span.start ≤ e.span.stop := by
    intro e he
    obtain ⟨slot, hslot, heq⟩ := exists_slot_of_mem_slotEdits? hedits he
    rw [heq]
    exact (h.placed slot hslot).le
  have hsorted : edits.mergeSort Edit.le = edits := by
    refine List.mergeSort_of_pairwise (hinOrder.pairwise.2.imp_of_mem ?_)
    intro a b ha hb hab
    have hspan_a := hspan a ha
    have hspan_b := hspan b hb
    simp only [Edit.le, Bool.or_eq_true, Bool.and_eq_true, decide_eq_true_eq, beq_iff_eq]
    omega
  obtain ⟨-, -, rfl⟩ := (Patch.ofEdits_eq_ok_iff hspan).1 hpatch
  rw [hsorted, Patch.apply_eq_ok hinOrder, ← hspliced]
  rfl

/-! A list that is written anew. -/

theorem content_of_overlap (hoverlap : slotsOverlap slots.toList = true) {position source : Nat}
    {target moved : Slot} (htarget : slots[position]? = some target)
    (hmoved : slots[source]? = some moved) :
    content slots position source = rendered target moved (position != source) := by
  simp [content, htarget, hmoved, hoverlap]

theorem flatMap_layout_of_listText? (hoverlap : slotsOverlap slots.toList = true)
    (hfront : ∀ slot ∈ slots,
      s.textOf slot.front = s.textOf slot.leading ++ s.textOf slot.body)
    {position : Nat} {order : List Nat} (hsize : position + order.length = slots.size)
    (hposition : 0 < position) {text : Text}
    (htext : s.listText? slots position order = some text) :
    (s.layout slots position order).flatMap s.fragmentText =
      text ++ s.text.slice (gapStart slots slots.size) s.text.size := by
  induction order generalizing position text with
  | nil =>
    cases htext
    rw [List.length_nil, Nat.add_zero] at hsize
    subst hsize
    simp [layout, between, fragmentText, textOf]
  | cons source order ih =>
    simp only [listText?, Option.bind_eq_bind, Option.bind_eq_some_iff] at htext
    obtain ⟨target, htarget, moved, hmoved, rest, hrest, heq⟩ := htext
    rw [List.length_cons] at hsize
    cases heq
    have hlt := (Array.getElem?_eq_some_iff.1 htarget).1
    cases position with
    | zero => omega
    | succ position =>
      rw [layout, content_of_overlap hoverlap htarget hmoved, List.flatMap_cons,
        List.flatMap_append, flatMap_rendered (hfront _ (Array.mem_of_getElem? hmoved)),
        ih (by omega) (by omega) hrest, between, if_pos (by simp [hoverlap, hlt]), fragmentText,
        lineBreak, htarget]
      simp only [Option.map_some, Option.getD_some, List.append_assoc]

theorem apply_of_wholeList? (hoverlap : slotsOverlap slots.toList = true)
    (hfront : ∀ slot ∈ slots,
      s.textOf slot.front = s.textOf slot.leading ++ s.textOf slot.body)
    {order : List Nat} (hsize : order.length = slots.size) {patch : Patch}
    (hfits : patch.Fits s.text) (hpatch : s.wholeList? slots order = some patch) :
    patch.apply s.text = .ok ((s.layout slots 0 order).flatMap s.fragmentText) := by
  simp only [wholeList?, Option.bind_eq_bind, Option.bind_eq_some_iff] at hpatch
  obtain ⟨first, hfirst, last, hlast, text, htext, heq⟩ := hpatch
  cases heq
  rw [hfits.consistent.apply_eq_ok hfits.placed]
  cases order with
  | nil =>
    have hlt := (Array.getElem?_eq_some_iff.1 hfirst).1
    rw [List.length_nil] at hsize
    omega
  | cons source order =>
    simp only [listText?, Option.bind_eq_bind, Option.bind_eq_some_iff] at htext
    obtain ⟨target, htarget, moved, hmoved, rest, hrest, heq⟩ := htext
    rw [List.length_cons] at hsize
    cases heq
    have hend : gapStart slots slots.size = last.span.stop := by
      rw [← hsize, gapStart]
      rw [Array.back?_eq_getElem?, ← hsize, Nat.add_sub_cancel] at hlast
      rw [hlast, Option.map_some, Option.getD_some]
    rw [layout, content_of_overlap hoverlap htarget hmoved, List.flatMap_cons,
      List.flatMap_append, flatMap_rendered (hfront _ (Array.mem_of_getElem? hmoved)),
      flatMap_layout_of_listText? hoverlap hfront (by omega) (by omega) hrest, hend]
    simp [Patch.single, Patch.spliced, between, fragmentText, textOf, gapStart, hfirst]

def AreCut (s : Source) (separator : Separator) (slots : Array Slot) : Prop :=
  ∀ slot ∈ slots, ∃ previousEnd element, s.slot? separator previousEnd element = some slot

theorem areCut_of_slotsFrom? {separator : Separator} {previousEnd : Option Nat}
    {elements : List NodeId} {slots : List Slot}
    (h : s.slotsFrom? separator previousEnd elements = some slots) :
    s.AreCut separator slots.toArray := by
  intro slot hslot
  obtain ⟨e, -, previousEnd, hslot⟩ :=
    exists_of_forall₂ (forall₂_slot? h) (List.mem_toArray.1 hslot)
  exact ⟨previousEnd, e, hslot⟩

theorem Spanned.placedSlots (h : s.Spanned) {separator : Separator}
    (hslots : s.AreCut separator slots) (hoverlap : slotsOverlap slots.toList = false) :
    s.PlacedSlots slots := by
  have hplaced : ∀ slot ∈ slots, slot.span.Placed s.text := by
    intro slot hslot
    obtain ⟨previousEnd, e, hslot⟩ := hslots slot hslot
    exact (h.marked.slotAt_of_slot? hslot).span
  refine ⟨hplaced, pairwise_of_slotsOverlap_eq_false ?_ hoverlap⟩
  exact fun slot hslot => (hplaced slot (Array.mem_toList_iff.1 hslot)).le

/-- Whichever way a reordering is made, its patch applies and puts the fragments into a row. -/
theorem Spanned.apply_layout_of_reorder? (h : s.Spanned) {elements : List NodeId}
    (hordered : elements.Pairwise fun a b => (s.tree.span a).stop ≤ (s.tree.span b).start)
    {order : List Nat} (horder : order.Perm (List.range elements.length)) {separator : Separator}
    {patch : Patch} (hpatch : s.reorder? elements order separator = some patch) :
    ∃ slots : List Slot, s.slotsFrom? separator none elements = some slots ∧
      slots.length = elements.length ∧
      patch.apply s.text =
        .ok ((s.layout slots.toArray 0 order).flatMap s.fragmentText) := by
  have hfits := h.fits_of_reorder? hordered hpatch
  obtain ⟨hlength, slots, hslots, -, hcases⟩ := reorder?_cases hpatch
  have hcut := areCut_of_slotsFrom? hslots
  have hlength' := (forall₂_slot? hslots).length_eq.symm
  have hsize : order.length = slots.toArray.size := by rw [List.size_toArray, hlength', hlength]
  have hfront : ∀ slot ∈ slots.toArray,
      s.textOf slot.front = s.textOf slot.leading ++ s.textOf slot.body := by
    intro slot hslot
    obtain ⟨previousEnd, e, hslot⟩ := hcut slot hslot
    exact h.textOf_front hslot
  refine ⟨slots, hslots, hlength', ?_⟩
  rcases hcases with ⟨hoverlap, hwhole⟩ | ⟨hoverlap, edits, hedits, hofEdits⟩
  · exact apply_of_wholeList? hoverlap hfront hsize hfits hwhole
  · have hlt : ∀ source ∈ order, source < slots.toArray.size := by
      intro source hsource
      rw [← hsize, ← hlength]
      exact List.mem_range.1 (horder.mem_iff.1 hsource)
    rw [flatMap_layout_eq_arrangement hoverlap hfront (by rw [Nat.zero_add, hsize]) hlt]
    exact (h.placedSlots hcut hoverlap).apply_of_ofEdits hsize hedits hofEdits

end Source

end ScriptLint
