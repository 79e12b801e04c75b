import ScriptLint.Proofs.ConsistentPatches
import ScriptLint.Proofs.Slots
import ScriptLint.Proofs.LoaderRun

/-! Reordering the elements of a list. The patched text is an arrangement of pieces of the old one:
what stands outside of the slots stays, and every body and every comment is in exactly one piece. -/
namespace ScriptLint

inductive Piece where
  /-- What stands before slot `i`, or behind the last slot. -/
  | gap (i : Nat)
  | slot (i : Nat)
  | leading (i : Nat)
  | body (i : Nat)
  | separator (i : Nat)
  | trailing (i : Nat)
  deriving DecidableEq, Repr

namespace Piece

def gapStart (slots : Array Slot) : Nat → Nat
  | 0 => 0
  | i + 1 => (slots[i]?.map fun slot => slot.span.stop).getD 0

/-- The span of a piece in a text of `size` bytes; an element may lack a separator or a trailing
comment. -/
def span? (size : Nat) (slots : Array Slot) : Piece → Option Span
  | gap i => some ⟨gapStart slots i, (slots[i]?.map fun slot => slot.span.start).getD size⟩
  | slot i => slots[i]?.map Slot.span
  | leading i => slots[i]?.map Slot.leading
  | body i => slots[i]?.map Slot.body
  | separator i => slots[i]?.bind Slot.separator
  | trailing i => slots[i]?.bind Slot.trailing

def hasBody (i : Nat) : Piece → Bool
  | slot j => j == i
  | body j => j == i
  | _ => false

def holds (size : Nat) (slots : Array Slot) (inner : Span) (piece : Piece) : Bool :=
  (piece.span? size slots).any fun span => span.contains inner

/-- The pieces of a slot that gets element `source`. A slot keeps its separator, and a slot that
keeps its element is left as it is. -/
def placed (position source : Nat) : List Piece :=
  if position = source then [slot position]
  else [leading source, body source, separator position, trailing source]

/-- The pieces from the gap before slot `position` on, where the slots get the elements of
`order`. -/
def arrangement : Nat → List Nat → List Piece
  | position, [] => [gap position]
  | position, source :: order =>
    gap position :: placed position source ++ arrangement (position + 1) order

theorem countP_placed_hasBody (i position source : Nat) :
    (placed position source).countP (hasBody i) = if source == i then 1 else 0 := by
  unfold placed
  split
  · rename_i heq
    simp [heq, List.countP_cons, hasBody]
  · simp [List.countP_cons, hasBody]

theorem countP_hasBody (i position : Nat) (order : List Nat) :
    (arrangement position order).countP (hasBody i) = order.count i := by
  induction order generalizing position with
  | nil => rfl
  | cons source order ih =>
    rw [arrangement, List.cons_append, List.countP_cons, List.countP_append, ih,
      countP_placed_hasBody, List.count_cons]
    simp only [hasBody, Bool.false_eq_true, if_false]
    omega

end Piece

namespace Source

open Piece

variable {s : Source}

def pieceText (s : Source) (slots : Array Slot) (piece : Piece) : Text :=
  ((piece.span? s.text.size slots).map s.textOf).getD []

structure Tokenized (s : Source) : Prop where
  ordered : s.tokens.Ordered
  boundary : ∀ t ∈ s.tokens.all,
    s.text.isBoundary t.span.start = true ∧ s.text.isBoundary t.span.stop = true

theorem Tokenized.boundary_of_isMark (h : s.Tokenized) {offset : Nat}
    (hmark : s.tokens.IsMark offset) : s.text.isBoundary offset = true := by
  obtain ⟨t, ht, rfl | rfl⟩ := hmark
  · exact (h.boundary t ht).1
  · exact (h.boundary t ht).2

theorem tokenized_of_ofDocument {path : String} {text : Text} {doc : Json}
    (h : ofDocument path text doc = .ok s) (hapart : s.tokens.Apart) : s.Tokenized := by
  obtain ⟨nodes, tree, -, -, rfl⟩ := ofDocument_eq_ok h
  refine ⟨TokenIndex.ordered_ofList hapart, ?_⟩
  intro t ht
  obtain ⟨kindOf, doc', htoken⟩ := Loader.exists_token?_of_mem ht
  exact Text.isBoundary_of_slice? (Loader.token?_eq_some htoken).2

/-! Slots as stretches of a text, one after the other. -/

structure PlacedSlots (s : Source) (slots : Array Slot) : Prop where
  placed : ∀ slot ∈ slots, slot.span.Placed s.text
  ordered : slots.toList.Pairwise fun a b => a.span.stop ≤ b.span.start

theorem gapStart_le {slots : Array Slot}
    (h : slots.toList.Pairwise fun a b => a.span.stop ≤ b.span.start) {i : Nat} {slot : Slot}
    (hi : slots[i]? = some slot) : gapStart slots i ≤ slot.span.start := by
  cases i with
  | zero => exact Nat.zero_le _
  | succ i =>
    obtain ⟨hlt, rfl⟩ := Array.getElem?_eq_some_iff.1 hi
    have hprevious : slots[i]? = some slots[i] := Array.getElem?_eq_getElem (by omega)
    simp only [gapStart, hprevious, Option.map_some, Option.getD_some]
    exact List.pairwise_iff_getElem.1 h i (i + 1) (by simp; omega) (by simpa) (by omega)

theorem exists_slot_of_mem_slotEdits? {slots : Array Slot} {position : Nat} {order : List Nat}
    {edits : List Edit} (h : s.slotEdits? slots position order = some edits) {e : Edit}
    (he : e ∈ edits) : ∃ slot ∈ slots, e.span = slot.span := by
  induction order generalizing position edits with
  | nil =>
    cases h
    simp at he
  | cons source order ih =>
    rw [slotEdits?] at h
    obtain ⟨rest, hrest, h⟩ := Option.bind_eq_some_iff.1 h
    split at h
    · cases h
      exact ih hrest he
    · obtain ⟨target, htarget, h⟩ := Option.bind_eq_some_iff.1 h
      obtain ⟨moved, -, h⟩ := Option.bind_eq_some_iff.1 h
      split at h
      · cases h
      · cases h
        rcases List.mem_cons.1 he with rfl | he
        · exact ⟨target, Array.mem_of_getElem? htarget, rfl⟩
        · exact ih hrest he

namespace PlacedSlots

variable {slots : Array Slot}

theorem boundary_gapStart (h : s.PlacedSlots slots) {i : Nat} (hi : i ≤ slots.size) :
    s.text.isBoundary (gapStart slots i) = true := by
  cases i with
  | zero => exact s.text.isBoundary_zero
  | succ i =>
    have hslot : slots[i]? = some slots[i] := Array.getElem?_eq_getElem hi
    simp only [gapStart, hslot, Option.map_some, Option.getD_some]
    exact (h.placed _ (Array.getElem_mem hi)).stop

theorem spliced_slotEdits? (h : s.PlacedSlots slots) {position : Nat} {order : List Nat}
    (hsize : position + order.length = slots.size) {edits : List Edit}
    (hedits : s.slotEdits? slots position order = some edits) :
    Patch.InOrder s.text (gapStart slots position) edits ∧
      Patch.spliced s.text (gapStart slots position) edits =
        (arrangement position order).flatMap (s.pieceText slots) := by
  induction order generalizing position edits with
  | nil =>
    cases hedits
    have hend : slots[position]? = none := Array.getElem?_eq_none (by simp at hsize; omega)
    refine ⟨trivial, ?_⟩
    simp [arrangement, Patch.spliced, pieceText, span?, hend, textOf]
  | cons source order ih =>
    simp only [List.length_cons] at hsize
    simp only [slotEdits?, Option.bind_eq_bind, Option.bind_eq_some_iff] at hedits
    obtain ⟨rest, hrest, hedits⟩ := hedits
    -- What comes behind this slot is arranged; the gap and the slot go in front of it.
    obtain ⟨hinOrder, hspliced⟩ := @ih (position + 1) (by omega) rest hrest
    have htarget : slots[position]? = some slots[position] := Array.getElem?_eq_getElem (by omega)
    set target := slots[position]
    obtain ⟨hspan, hstart, hstop⟩ := h.placed target (Array.mem_of_getElem? htarget)
    have hle := gapStart_le h.ordered htarget
    have hbefore := h.boundary_gapStart (i := position) (by omega)
    have hnext : gapStart slots (position + 1) = target.span.stop := by simp [gapStart, htarget]
    rw [hnext] at hinOrder hspliced
    split at hedits
    · cases hedits
      rename_i hsame
      refine ⟨hinOrder.mono (by omega), ?_⟩
      rw [← Patch.slice_append_spliced hbefore hstart hle (hinOrder.mono (by omega)),
        ← Patch.slice_append_spliced hstart hstop (by omega) hinOrder, hspliced, arrangement,
        Piece.placed, if_pos hsame]
      simp [pieceText, span?, htarget, textOf]
    · rename_i hmove
      simp only [htarget, Option.bind_some, Option.bind_eq_some_iff] at hedits
      obtain ⟨moved, hmoved, hedits⟩ := hedits
      split at hedits
      · cases hedits
      · cases hedits
        refine ⟨⟨hle, hspan, hstart, hstop, hinOrder⟩, ?_⟩
        rw [Patch.spliced, hspliced, arrangement, Piece.placed, if_neg hmove]
        simp [pieceText, span?, htarget, hmoved, renderSlot, textOf]

end PlacedSlots

structure AreSlots (s : Source) (slots : Array Slot) : Prop where
  isSlot : ∀ slot ∈ slots, ∃ span, s.IsElement span ∧ s.IsSlot span slot
  ordered : slots.toList.Pairwise fun a b => a.span.stop ≤ b.span.start
  notStray : ∀ slot ∈ slots, s.hasStrayComment slot = false

theorem IsSlot.stop_mark {span : Span} {slot : Slot} (hslot : s.IsSlot span slot) :
    s.tokens.IsMark slot.span.stop := by
  rcases hslot.trailing_cases with ⟨-, heq⟩ | ⟨c, hc, -, -, heq, -⟩
  · obtain ⟨t, ht, -, hstop⟩ := hslot.isBody.tail_token
    exact ⟨t, ht, .inr (by rw [hstop, heq, Slot.tail])⟩
  · exact ⟨c, hc, .inr heq.symm⟩

theorem IsSlot.body_le_tail (h : s.tokens.Ordered) {span : Span} {slot : Slot}
    (hslot : s.IsSlot span slot) : slot.body.stop ≤ slot.tail := by
  rw [Slot.tail]
  cases hseparator : slot.separator with
  | none => exact Nat.le_refl _
  | some sep =>
    obtain ⟨hle, t, ht, -, rfl⟩ := hslot.isBody.separator_token sep hseparator
    exact Nat.le_trans hle (Nat.le_of_lt (h.nonempty t ht))

theorem IsSlot.not_between (h : s.tokens.Ordered) {span : Span} {slot : Slot}
    (hslot : s.IsSlot span slot) (hstray : s.hasStrayComment slot = false) {c : Token}
    (hc : c ∈ s.tokens.all) (hcomment : c.isComment = true) :
    c.span.stop ≤ slot.body.stop ∨ slot.tail ≤ c.span.start := by
  have hbody := h.not_across hslot.isBody.mark hc
  rw [Slot.tail]
  cases hseparator : slot.separator with
  | none => simpa using hbody
  | some sep =>
    obtain ⟨hle, t, ht, hcode, rfl⟩ := hslot.isBody.separator_token sep hseparator
    have hne := h.nonempty c hc
    simp only [Option.map_some, Option.getD_some]
    rcases h.eq_or_apart hc ht with rfl | hbefore | hafter
    · rw [hcomment] at hcode
      cases hcode
    · -- The comment stands before the separator, where it would be a stray one.
      refine .inl (by_contra fun hnot => ?_)
      have hwithin : c ∈ s.tokens.within ⟨slot.body.stop, t.span.start⟩ :=
        (TokenIndex.mem_within h).2 ⟨hc, hbody.resolve_left hnot, hbefore⟩
      have hany : (s.tokens.within ⟨slot.body.stop, t.span.start⟩).any Token.isComment = true :=
        List.any_eq_true.2 ⟨c, hwithin, hcomment⟩
      simp only [hasStrayComment, hseparator, hany, Bool.and_true, decide_eq_false_iff_not] at hstray
      omega
    · exact .inr hafter

theorem IsSlot.contains_eq (h : s.tokens.Ordered) {span : Span} (he : s.IsElement span)
    {slot : Slot} (hslot : s.IsSlot span slot) (hstray : s.hasStrayComment slot = false)
    {c : Token} (hc : c ∈ s.tokens.all) (hcomment : c.isComment = true) :
    (if slot.leading.contains c.span then 1 else 0) + (if slot.body.contains c.span then 1 else 0) +
        (if slot.trailing.any fun part => part.contains c.span then 1 else 0) =
      if slot.span.contains c.span then 1 else 0 := by
  have hne := h.nonempty c hc
  have hbetween := hslot.not_between h hstray hc hcomment
  have hstart := h.not_across hslot.start_mark hc
  have hbody : c.span.stop ≤ slot.body.start ∨ slot.body.start ≤ c.span.start := by
    obtain ⟨first, hfirst, -, heq, -⟩ := he.first
    exact h.not_across ⟨first, hfirst, .inl (by rw [heq, hslot.isBody.start_eq])⟩ hc
  have hle := hslot.start_le
  have hle' := hslot.isBody.start_le
  have hle'' := hslot.tail_le
  have htail := hslot.body_le_tail h
  rcases hslot.trailing_cases with ⟨htrailing, hstop⟩ | ⟨t, ht, -, htrailing, hstop, -⟩
  · simp only [htrailing, hslot.leading_eq, Span.contains, Option.any_none, Bool.and_eq_true,
      decide_eq_true_eq, Bool.false_eq_true, if_false]
    split_ifs <;> omega
  · simp only [htrailing, hslot.leading_eq, Span.contains, Option.any_some, Bool.and_eq_true,
      decide_eq_true_eq]
    split_ifs <;> omega

namespace AreSlots

variable {slots : Array Slot} {i : Nat} {slot : Slot}

theorem marks (hslots : s.AreSlots slots) (hi : slots[i]? = some slot) :
    s.tokens.IsMark slot.span.start ∧ s.tokens.IsMark slot.span.stop := by
  obtain ⟨span, -, hslot⟩ := hslots.isSlot slot (Array.mem_of_getElem? hi)
  exact ⟨hslot.start_mark, hslot.stop_mark⟩

theorem start_lt (hslots : s.AreSlots slots) (h : s.Tokenized) (hi : slots[i]? = some slot) :
    slot.span.start < slot.span.stop := by
  obtain ⟨span, he, hslot⟩ := hslots.isSlot slot (Array.mem_of_getElem? hi)
  exact hslot.start_lt h.ordered he

theorem placedSlots (hslots : s.AreSlots slots) (h : s.Tokenized) : s.PlacedSlots slots := by
  refine ⟨fun slot hmem => ?_, hslots.ordered⟩
  obtain ⟨span, he, hslot⟩ := hslots.isSlot slot hmem
  exact ⟨Nat.le_of_lt (hslot.start_lt h.ordered he), h.boundary_of_isMark hslot.start_mark,
    h.boundary_of_isMark hslot.stop_mark⟩

theorem spliced_slotEdits? (hslots : s.AreSlots slots) (h : s.Tokenized) {position : Nat}
    {order : List Nat} (hsize : position + order.length = slots.size) {edits : List Edit}
    (hedits : s.slotEdits? slots position order = some edits) :
    Patch.InOrder s.text (gapStart slots position) edits ∧
      (∀ e ∈ edits, e.span.start < e.span.stop) ∧
      Patch.spliced s.text (gapStart slots position) edits =
        (arrangement position order).flatMap (s.pieceText slots) := by
  obtain ⟨hinOrder, hspliced⟩ := (hslots.placedSlots h).spliced_slotEdits? hsize hedits
  refine ⟨hinOrder, fun e he => ?_, hspliced⟩
  obtain ⟨slot, hmem, hspan⟩ := exists_slot_of_mem_slotEdits? hedits he
  obtain ⟨span, helement, hslot⟩ := hslots.isSlot slot hmem
  rw [hspan]
  exact hslot.start_lt h.ordered helement

theorem holds_separator (hslots : s.AreSlots slots) (h : s.Tokenized) {c : Token}
    (hc : c ∈ s.tokens.all) (hcomment : c.isComment = true) (i : Nat) :
    holds s.text.size slots c.span (separator i) = false := by
  refine Bool.eq_false_iff.2 fun hholds => ?_
  obtain ⟨sep, hsep, hcontains⟩ := (Option.any_eq_true _ _).1 hholds
  obtain ⟨slot, hi, hseparator⟩ := Option.bind_eq_some_iff.1 hsep
  obtain ⟨span, -, hslot⟩ := hslots.isSlot slot (Array.mem_of_getElem? hi)
  obtain ⟨-, t, ht, hcode, rfl⟩ := hslot.isBody.separator_token sep hseparator
  simp only [Span.contains, Bool.and_eq_true, decide_eq_true_eq] at hcontains
  have hne := h.ordered.nonempty c hc
  rcases h.ordered.eq_or_apart hc ht with rfl | hapart
  · rw [hcomment] at hcode
    cases hcode
  · omega

/-- A slot that gets an element gets the comments of that element's slot and no others. -/
theorem countP_placed_holds (hslots : s.AreSlots slots) (h : s.Tokenized) {c : Token}
    (hc : c ∈ s.tokens.all) (hcomment : c.isComment = true) (position : Nat) {source : Nat}
    (hsource : source < slots.size) :
    (placed position source).countP (holds s.text.size slots c.span) =
      if holds s.text.size slots c.span (.slot source) then 1 else 0 := by
  unfold placed
  split
  · rename_i heq
    simp [List.countP_cons, heq]
  · have hmoved : slots[source]? = some slots[source] := Array.getElem?_eq_getElem hsource
    have hmem := Array.mem_of_getElem? hmoved
    obtain ⟨span, he, hslot⟩ := hslots.isSlot _ hmem
    have hparts := hslot.contains_eq h.ordered he (hslots.notStray _ hmem) hc hcomment
    simp only [List.countP_cons, List.countP_nil, hslots.holds_separator h hc hcomment,
      Bool.false_eq_true, if_false, Nat.zero_add, Nat.add_zero]
    simp only [holds, span?, hmoved, Option.map_some, Option.bind_some, Option.any_some]
    omega

theorem countP_holds (hslots : s.AreSlots slots) (h : s.Tokenized) {c : Token}
    (hc : c ∈ s.tokens.all) (hcomment : c.isComment = true) (position : Nat) {order : List Nat}
    (horder : ∀ source ∈ order, source < slots.size) :
    (arrangement position order).countP (holds s.text.size slots c.span) =
      ((List.range' position (order.length + 1)).countP fun i =>
        holds s.text.size slots c.span (.gap i)) +
      order.countP fun i => holds s.text.size slots c.span (.slot i) := by
  induction order generalizing position with
  | nil => simp [arrangement]
  | cons source order ih =>
    have hrange : List.range' position (order.length + 1 + 1) =
        position :: List.range' (position + 1) (order.length + 1) := List.range'_succ
    rw [arrangement, List.cons_append, List.countP_cons, List.countP_append,
      ih (position + 1) fun source' hsource' => horder source' (by simp [hsource']),
      hslots.countP_placed_holds h hc hcomment position (horder source (by simp)),
      List.length_cons, hrange, List.countP_cons, List.countP_cons]
    omega

/-- Where nothing is moved, gaps and slots make up the text, and a token is in one of them. -/
theorem countP_holds_range' (hslots : s.AreSlots slots) (h : s.Tokenized) {c : Token}
    (hc : c ∈ s.tokens.all) {position n : Nat} (hsize : position + n = slots.size) :
    (arrangement position (List.range' position n)).countP (holds s.text.size slots c.span) =
      if gapStart slots position ≤ c.span.start then 1 else 0 := by
  have hne := h.ordered.nonempty c hc
  induction n generalizing position with
  | zero =>
    have hend : slots[position]? = none := Array.getElem?_eq_none (by omega)
    have hle := Text.le_size_of_isBoundary (h.boundary c hc).2
    simp [arrangement, List.countP_cons, holds, span?, hend, Span.contains, hle]
  | succ n ih =>
    have hslot : slots[position]? = some slots[position] := Array.getElem?_eq_getElem (by omega)
    have hlt := hslots.start_lt h hslot
    have hle := gapStart_le hslots.ordered hslot
    -- No token lies across the ends of a slot: this one is in the gap, in the slot or behind it.
    have hstart := h.ordered.not_across (hslots.marks hslot).1 hc
    have hstop := h.ordered.not_across (hslots.marks hslot).2 hc
    have hnext : gapStart slots (position + 1) = slots[position].span.stop := by
      simp [gapStart, hslot]
    rw [List.range'_succ, arrangement, placed, if_pos rfl, List.cons_append, List.countP_cons,
      List.countP_append, ih (by omega), hnext]
    simp only [List.countP_cons, List.countP_nil, holds, span?, hslot, Option.map_some,
      Option.getD_some, Option.any_some, Span.contains, Bool.and_eq_true, decide_eq_true_eq]
    split_ifs <;> omega

theorem countP_holds_eq_one (hslots : s.AreSlots slots) (h : s.Tokenized) {c : Token}
    (hc : c ∈ s.tokens.all) (hcomment : c.isComment = true) {order : List Nat}
    (horder : order.Perm (List.range slots.size)) :
    (arrangement 0 order).countP (holds s.text.size slots c.span) = 1 := by
  have hlt : ∀ source ∈ order, source < slots.size := fun source hsource =>
    List.mem_range.1 (horder.mem_iff.1 hsource)
  have hlt' : ∀ source ∈ List.range slots.size, source < slots.size := fun _ => List.mem_range.1
  calc (arrangement 0 order).countP (holds s.text.size slots c.span)
      = (arrangement 0 (List.range slots.size)).countP (holds s.text.size slots c.span) := by
        rw [hslots.countP_holds h hc hcomment 0 hlt, hslots.countP_holds h hc hcomment 0 hlt',
          horder.countP_eq, horder.length_eq]
    _ = 1 := by
        rw [List.range_eq_range', hslots.countP_holds_range' h hc (by omega), gapStart,
          if_pos (Nat.zero_le _)]

theorem flatMap_arrangement_range (hslots : s.AreSlots slots) (h : s.Tokenized) :
    (arrangement 0 (List.range slots.size)).flatMap (s.pieceText slots) = s.text := by
  have hnone : ∀ position n, s.slotEdits? slots position (List.range' position n) = some [] := by
    intro position n
    induction n generalizing position with
    | zero => rfl
    | succ n ih => simp [List.range'_succ, slotEdits?, ih]
  rw [List.range_eq_range', ← (hslots.spliced_slotEdits? h (by simp) (hnone 0 slots.size)).2.2]
  exact s.text.slice_zero_size

end AreSlots

theorem areSlots_of_slotsFrom? (h : s.tokens.Ordered) {elements : List NodeId}
    (he : s.AreElements elements) {separator : Separator} {slots : List Slot}
    (hslots : s.slotsFrom? separator none elements = some slots)
    (hstray : slots.any s.hasStrayComment = false) :
    s.AreSlots slots.toArray ∧ slots.length = elements.length := by
  have hforall := forall₂_of_slotsFrom? h he.isElement hslots
  refine ⟨⟨?_, pairwise_of_forall₂ h he hforall, ?_⟩, hforall.length_eq.symm⟩
  · intro slot hslot
    obtain ⟨e, hmem, hslot, -⟩ := exists_of_forall₂ hforall (List.mem_toArray.1 hslot)
    exact ⟨_, he.isElement e hmem, hslot⟩
  · intro slot hslot
    exact Bool.eq_false_iff.2 (List.any_eq_false.1 hstray slot (List.mem_toArray.1 hslot))

theorem slotsOverlap_eq_false {slots : List Slot}
    (h : slots.Pairwise fun a b => a.span.stop ≤ b.span.start) : slotsOverlap slots = false := by
  induction slots with
  | nil => rfl
  | cons a slots ih =>
    cases slots with
    | nil => rfl
    | cons b slots =>
      have hab := List.rel_of_pairwise_cons h List.mem_cons_self
      rw [slotsOverlap, ih h.tail, Bool.or_false, decide_eq_false_iff_not]
      omega

theorem reorder?_cases {elements : List NodeId} {order : List Nat} {separator : Separator}
    {patch : Patch} (h : s.reorder? elements order separator = some patch) :
    elements.length = order.length ∧
      ∃ slots, s.slotsFrom? separator none elements = some slots ∧
        slots.any s.hasStrayComment = false ∧
        (slotsOverlap slots = true ∧ s.wholeList? slots.toArray order = some patch ∨
          slotsOverlap slots = false ∧ ∃ edits,
            s.slotEdits? slots.toArray 0 order = some edits ∧ Patch.ofEdits edits = .ok patch) := by
  unfold reorder? at h
  split at h
  · cases h
  · rename_i hlength
    obtain ⟨slots, hslots, h⟩ := Option.bind_eq_some_iff.1 h
    simp only [ne_eq, Bool.or_eq_true, decide_eq_true_eq, not_or, not_not] at hlength
    refine ⟨hlength.1, slots, hslots, ?_⟩
    split at h
    · cases h
    · rename_i hstray
      refine ⟨Bool.eq_false_iff.2 hstray, ?_⟩
      split at h
      · rename_i hoverlap
        exact .inl ⟨hoverlap, h⟩
      · rename_i hoverlap
        obtain ⟨edits, hedits, h⟩ := Option.bind_eq_some_iff.1 h
        exact .inr ⟨Bool.eq_false_iff.2 hoverlap, edits, hedits, toOption_eq_some.1 h⟩

theorem reorder?_eq_some {elements : List NodeId} {order : List Nat} {separator : Separator}
    {patch : Patch} (h : s.reorder? elements order separator = some patch) :
    ∃ slots, s.slotsFrom? separator none elements = some slots ∧
      slots.any s.hasStrayComment = false ∧
      (slotsOverlap slots = false → ∃ edits, s.slotEdits? slots.toArray 0 order = some edits ∧
        Patch.ofEdits edits = .ok patch) := by
  obtain ⟨-, slots, hslots, hstray, ⟨hoverlap, -⟩ | ⟨-, hedits⟩⟩ := reorder?_cases h
  · exact ⟨slots, hslots, hstray, fun hnot => by simp [hoverlap] at hnot⟩
  · exact ⟨slots, hslots, hstray, fun _ => hedits⟩

/-- Reordering permutes and loses nothing. The slots come one after the other, the patch applies and
gives the pieces of the text in their new arrangement, and every body and every comment is in exactly
one piece. -/
theorem apply_of_reorder? {path : String} {text : Text} {doc : Json}
    (hload : ofDocument path text doc = .ok s) (hapart : s.tokens.Apart)
    {elements : List NodeId} (he : s.AreElements elements) {order : List Nat}
    (horder : order.Perm (List.range elements.length)) {separator : Separator} {patch : Patch}
    (hpatch : s.reorder? elements order separator = some patch) :
    ∃ slots : List Slot, s.slotsFrom? separator none elements = some slots ∧
      slots.length = elements.length ∧
      (slots.Pairwise fun a b => a.span.stop ≤ b.span.start) ∧ slotsOverlap slots = false ∧
      (∀ slot ∈ slots, slot.span.contains slot.body = true) ∧
      (arrangement 0 (List.range elements.length)).flatMap (s.pieceText slots.toArray) = s.text ∧
      patch.apply s.text = .ok ((arrangement 0 order).flatMap (s.pieceText slots.toArray)) ∧
      (∀ i < elements.length, (arrangement 0 order).countP (hasBody i) = 1) ∧
      ∀ c ∈ s.tokens.all, c.isComment = true →
        (arrangement 0 order).countP (holds s.text.size slots.toArray c.span) = 1 := by
  have h := tokenized_of_ofDocument hload hapart
  obtain ⟨slots, hslots, hstray, hedits⟩ := reorder?_eq_some hpatch
  obtain ⟨hare, hlength⟩ := areSlots_of_slotsFrom? h.ordered he hslots hstray
  have hoverlap := slotsOverlap_eq_false hare.ordered
  obtain ⟨edits, hedits, hofEdits⟩ := hedits hoverlap
  have hsize : slots.toArray.size = elements.length := by simpa using hlength
  obtain ⟨hinOrder, hspans, hspliced⟩ := hare.spliced_slotEdits? h
    (by rw [horder.length_eq, List.length_range, hsize, Nat.zero_add]) hedits
  have hne : edits ≠ [] := by
    rintro rfl
    cases hofEdits
  have hpatch_eq : patch = ⟨edits⟩ := by
    rw [Patch.ofEdits_eq_ok hne hspans hinOrder.pairwise.2] at hofEdits
    cases hofEdits
    rfl
  refine ⟨slots, hslots, hlength, hare.ordered, hoverlap, ?_, ?_, ?_, ?_, ?_⟩
  · intro slot hslot
    obtain ⟨span, -, hslot⟩ := hare.isSlot slot (List.mem_toArray.2 hslot)
    have htail := hslot.body_le_tail h.ordered
    have hstart := hslot.start_le
    have hstop := hslot.tail_le
    simp only [Span.contains, Bool.and_eq_true, decide_eq_true_eq]
    omega
  · rw [← hsize]
    exact hare.flatMap_arrangement_range h
  · rw [hpatch_eq, Patch.apply_eq_ok hinOrder, ← hspliced]
    rfl
  · intro i hi
    rw [countP_hasBody, horder.count_eq, List.count_range, if_pos hi]
  · intro c hc hcomment
    exact hare.countP_holds_eq_one h hc hcomment (by rwa [hsize])

def arrayDocument : Json := .obj [
  ("body", .arr [.obj [
    ("expression", .obj [
      ("elements", .arr [
        .obj [("name", .str "b"), ("range", .arr [.nat 4, .nat 5]), ("type", .str "Identifier")],
        .obj [("name", .str "a"), ("range", .arr [.nat 14, .nat 15]), ("type", .str "Identifier")]]),
      ("range", .arr [.nat 0, .nat 17]), ("type", .str "ArrayExpression")]),
    ("range", .arr [.nat 0, .nat 17]), ("type", .str "ExpressionStatement")]]),
  ("comments", .arr [.obj [("range", .arr [.nat 7, .nat 11]), ("type", .str "Line")]]),
  ("sourceType", .str "script"),
  ("tokens", .arr [
    .obj [("range", .arr [.nat 0, .nat 1]), ("type", .str "Punctuator")],
    .obj [("range", .arr [.nat 4, .nat 5]), ("type", .str "Identifier")],
    .obj [("range", .arr [.nat 5, .nat 6]), ("type", .str "Punctuator")],
    .obj [("range", .arr [.nat 14, .nat 15]), ("type", .str "Identifier")],
    .obj [("range", .arr [.nat 16, .nat 17]), ("type", .str "Punctuator")]]),
  ("type", .str "Program")]

def arraySource : Source where
  path := "a.js"
  text := "[\n  b, // x\n  a\n]".toList
  tree :=
    { nodes := #[
        ⟨.identifier "a" none false, ⟨14, 15⟩⟩,
        ⟨.identifier "b" none false, ⟨4, 5⟩⟩,
        ⟨.arrayExpression [some 1, some 0], ⟨0, 17⟩⟩,
        ⟨.expressionStatement 2 none, ⟨0, 17⟩⟩,
        ⟨.program [3] .script, ⟨0, 17⟩⟩]
      children := #[[], [], [1, 0], [2], [3]]
      parents := #[some 2, some 2, some 3, some 4, none]
      root := 4 }
  tokens :=
    { all := #[
        ⟨.punctuator, ⟨0, 1⟩, ['[']⟩,
        ⟨.identifier, ⟨4, 5⟩, ['b']⟩,
        ⟨.punctuator, ⟨5, 6⟩, [',']⟩,
        ⟨.lineComment, ⟨7, 11⟩, ['/', '/', ' ', 'x']⟩,
        ⟨.identifier, ⟨14, 15⟩, ['a']⟩,
        ⟨.punctuator, ⟨16, 17⟩, [']']⟩]
      code := #[
        ⟨.punctuator, ⟨0, 1⟩, ['[']⟩,
        ⟨.identifier, ⟨4, 5⟩, ['b']⟩,
        ⟨.punctuator, ⟨5, 6⟩, [',']⟩,
        ⟨.identifier, ⟨14, 15⟩, ['a']⟩,
        ⟨.punctuator, ⟨16, 17⟩, [']']⟩] }

theorem ofDocument_array :
    ofDocument "a.js" arraySource.text arrayDocument = .ok arraySource := by
  have hload : Loader.load arraySource.text arrayDocument = .ok arraySource.tree.nodes := by
    decide +kernel
  have htree : Tree.ofNodes arraySource.tree.nodes 4 = .ok arraySource.tree := by cbv
  have htokens : TokenIndex.ofList (Loader.tokens arraySource.text arrayDocument) =
      arraySource.tokens := by cbv
  rw [ofDocument_eq "a.js" hload htree, htokens]
  rfl

theorem apart_array : arraySource.tokens.Apart := ⟨by decide, by decide⟩

theorem areElements_array : arraySource.AreElements [1, 0] := by
  refine ⟨?_, by decide⟩
  intro e he
  simp only [List.mem_cons, List.not_mem_nil, or_false] at he
  rcases he with rfl | rfl
  · exact ⟨by decide, by decide⟩
  · exact ⟨by decide, by decide⟩

def arraySlots : List Slot := [
  ⟨⟨4, 11⟩, ⟨4, 4⟩, ⟨4, 5⟩, some ⟨5, 6⟩, some ⟨6, 11⟩, true⟩,
  ⟨⟨14, 15⟩, ⟨14, 14⟩, ⟨14, 15⟩, none, none, false⟩]

theorem apply_of_reorder?_array :
    ofDocument "a.js" arraySource.text arrayDocument = .ok arraySource ∧
    ∃ patch, arraySource.reorder? [1, 0] [1, 0] .comma = some patch ∧
      patch.apply arraySource.text = .ok "[\n  a,\n  b // x\n]".toList ∧
      (arrangement 0 [1, 0]).countP (holds 17 arraySlots.toArray ⟨7, 11⟩) = 1 := by
  have hpatch : arraySource.reorder? [1, 0] [1, 0] .comma =
      some ⟨[⟨⟨4, 11⟩, "a,"⟩, ⟨⟨14, 15⟩, "b // x"⟩]⟩ := by cbv
  have hslots : arraySource.slotsFrom? .comma none [1, 0] = some arraySlots := by cbv
  obtain ⟨slots, hslots', -, -, -, -, -, happly, -, hcomments⟩ := apply_of_reorder?
    ofDocument_array apart_array areElements_array (List.Perm.swap 0 1 []) hpatch
  cases hslots.symm.trans hslots'
  refine ⟨ofDocument_array, _, hpatch, ?_, hcomments ⟨.lineComment, ⟨7, 11⟩, "// x".toList⟩ ?_ rfl⟩
  · rw [happly]
    cbv
  · simp [arraySource]

end Source

end ScriptLint
