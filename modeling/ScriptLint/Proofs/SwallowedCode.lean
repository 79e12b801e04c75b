import ScriptLint.Proofs.ReorderedText

/-! Line comments in reordered text. A line comment ends with its line, so what comes to stand behind
it must begin a new line before it has any code. A trailing comment is looked after when elements
are moved; a line comment between a statement and its semicolon is not. -/
namespace ScriptLint

def isTerminator (c : Char) : Bool :=
  c == '\n' || c == '\r' || c == '\u2028' || c == '\u2029'

def closes : List (Char × Bool) → Bool
  | [] => true
  | (c, isCode) :: rest => isTerminator c || (!isCode && closes rest)

theorem closes_append {marks : List (Char × Bool)} (h : ∀ m ∈ marks, m.2 = false)
    (rest : List (Char × Bool)) :
    closes (marks ++ rest) = (marks.any (fun m => isTerminator m.1) || closes rest) := by
  induction marks with
  | nil => simp
  | cons m marks ih =>
    obtain ⟨hm, hmarks⟩ := List.forall_mem_cons.1 h
    obtain ⟨c, isCode⟩ := m
    dsimp only at hm
    subst hm
    simp [closes, ih hmarks, Bool.or_assoc]

namespace Source

open Piece

variable {s : Source}

/-! Text with its code marked. -/

def isCodeAt (s : Source) (offset : Nat) : Bool :=
  s.tokens.code.any fun t => decide (t.span.start ≤ offset) && decide (offset < t.span.stop)

def marksFrom (s : Source) : Nat → Text → List (Char × Bool)
  | _, [] => []
  | offset, c :: t => (c, s.isCodeAt offset) :: s.marksFrom (offset + c.utf8Size) t

def marks (s : Source) : Fragment → List (Char × Bool)
  | .stretch span _ => s.marksFrom span.start (s.textOf span)
  | .filler text => text.map (·, false)

def isClosed (s : Source) (fragments : List Fragment) : Bool := closes (fragments.flatMap s.marks)

theorem map_fst_marks (s : Source) (fragment : Fragment) :
    (s.marks fragment).map Prod.fst = s.fragmentText fragment := by
  have hfrom (offset : Nat) (t : Text) : (s.marksFrom offset t).map Prod.fst = t := by
    induction t generalizing offset with
    | nil => rfl
    | cons c t ih => rw [marksFrom, List.map_cons, ih]
  cases fragment with
  | stretch span moved => exact hfrom span.start _
  | filler text => simp [marks, fragmentText, Function.comp_def]

theorem map_fst_flatMap_marks (s : Source) (fragments : List Fragment) :
    (fragments.flatMap s.marks).map Prod.fst = fragments.flatMap s.fragmentText := by
  rw [List.map_flatMap]
  exact congrArg (fragments.flatMap ·) (funext s.map_fst_marks)

theorem marksFrom_append (s : Source) (offset : Nat) (u v : Text) :
    s.marksFrom offset (u ++ v) = s.marksFrom offset u ++ s.marksFrom (offset + u.size) v := by
  induction u generalizing offset with
  | nil => rfl
  | cons c u ih =>
    rw [List.cons_append, marksFrom, marksFrom, ih, Text.size_cons, List.cons_append,
      Nat.add_assoc]

theorem exists_offset_of_mem_marksFrom {offset : Nat} {t : Text} {m : Char × Bool}
    (h : m ∈ s.marksFrom offset t) :
    ∃ x, offset ≤ x ∧ x < offset + t.size ∧ m.2 = s.isCodeAt x := by
  induction t generalizing offset with
  | nil => simp [marksFrom] at h
  | cons c t ih =>
    have hc := c.utf8Size_pos
    rw [Text.size_cons]
    rcases List.mem_cons.1 h with rfl | h
    · exact ⟨offset, Nat.le_refl _, by omega, rfl⟩
    · obtain ⟨x, hle, hlt, heq⟩ := ih h
      exact ⟨x, by omega, by omega, heq⟩

theorem isCodeAt_iff (h : s.tokens.Sequential) {offset : Nat} :
    s.isCodeAt offset = true ↔
      ∃ t ∈ s.tokens.all, t.isComment = false ∧ t.span.start ≤ offset ∧ offset < t.span.stop := by
  have hmem (t : Token) : t ∈ s.tokens.code ↔ t ∈ s.tokens.all ∧ t.isComment = false := by
    rw [← Array.mem_toList_iff, h.code_eq, List.mem_filter, Array.mem_toList_iff,
      Bool.not_eq_true']
  simp only [isCodeAt, Array.any_eq_true', hmem, Bool.and_eq_true, decide_eq_true_eq, and_assoc]

/-! Comments at the end of a fragment. -/

def LineCommentsEnd (s : Source) : Prop :=
  ∀ c ∈ s.tokens.all, c.kind = .lineComment →
    (s.text.slice c.span.stop s.text.size).head?.all isTerminator = true

def EndsInLineComment (s : Source) (span : Span) : Prop :=
  ∃ c ∈ s.tokens.all, c.kind = .lineComment ∧ span.start ≤ c.span.start ∧ c.span.stop = span.stop

def NoneSwallowed (s : Source) : List Fragment → Prop
  | [] => True
  | .filler _ :: rest => s.NoneSwallowed rest
  | .stretch span moved :: rest =>
    (moved = true → ∀ c ∈ s.tokens.all, c.kind = .lineComment → span.contains c.span = true →
      s.isClosed (.stretch ⟨c.span.stop, span.stop⟩ true :: rest) = true) ∧ s.NoneSwallowed rest

/-- Only a comment at the end of a stretch can have code behind it that was not there before. -/
theorem Spanned.forall_isClosed_iff (h : s.Spanned) (hlines : s.LineCommentsEnd) {span : Span}
    (hspan : span.Placed s.text) (rest : List Fragment) :
    (∀ c ∈ s.tokens.all, c.kind = .lineComment → span.contains c.span = true →
      s.isClosed (.stretch ⟨c.span.stop, span.stop⟩ true :: rest) = true) ↔
    (s.EndsInLineComment span → s.isClosed rest = true) := by
  constructor
  · rintro hall ⟨c, hc, hkind, hstart, hstop⟩
    have hclosed := hall c hc hkind (by simp [Span.contains, hstart, hstop])
    rw [isClosed, List.flatMap_cons, marks, textOf, hstop, Text.slice_self _ hspan.stop] at hclosed
    exact hclosed
  · intro hends c hc hkind hcontains
    have hplaced := h.token_placed c hc
    simp only [Span.contains, Bool.and_eq_true, decide_eq_true_eq] at hcontains
    rcases Nat.eq_or_lt_of_le hcontains.2 with hstop | hlt
    · rw [isClosed, List.flatMap_cons, marks, textOf, hstop, Text.slice_self _ hspan.stop]
      exact hends ⟨c, hc, hkind, hcontains.1, hstop⟩
    · -- The rest of the stretch begins with the end of the comment's line.
      obtain ⟨u, v, w, htext, hu, huv⟩ :=
        Text.exists_append_of_boundaries hplaced.stop hspan.stop hcontains.2
      have hline := hlines c hc hkind
      have hrest : s.text.slice c.span.stop s.text.size = v ++ w := by
        rw [htext, ← hu]
        simpa using Text.slice_append u (v ++ w) []
      have hslice : s.text.slice c.span.stop span.stop = v := by
        rw [htext, ← hu, ← huv]
        exact Text.slice_append u v w
      cases v with
      | nil =>
        rw [List.append_nil] at huv
        omega
      | cons x v =>
        rw [hrest] at hline
        simp only [List.cons_append, List.head?_cons, Option.all_some] at hline
        rw [isClosed, List.flatMap_cons, marks, textOf, hslice]
        simp [marksFrom, closes, hline]

/-! Moved elements. -/

theorem exists_token_of_separator (h : s.tokens.Sequential) {separator : Separator}
    {previousEnd : Option Nat} {element : NodeId} {slot : Slot}
    (hslot : s.slot? separator previousEnd element = some slot) {span : Span}
    (hspan : slot.separator = some span) :
    ∃ t ∈ s.tokens.all, t.isComment = false ∧ t.span = span ∧ (t.text = [';'] ∨ t.text = [',']) := by
  obtain ⟨⟨body, mark⟩, hbody, rfl⟩ := Option.map_eq_some_iff.1 hslot
  obtain ⟨last, hlast, hbody⟩ := Option.bind_eq_some_iff.1 hbody
  dsimp only at hspan
  cases separator with
  | statement =>
    dsimp only at hbody
    split at hbody
    · rename_i hsemicolon
      obtain ⟨before, -, hpair⟩ := Option.map_eq_some_iff.1 hbody
      obtain ⟨-, rfl⟩ := Prod.mk.inj hpair
      obtain ⟨hmem, -, -⟩ := TokenIndex.before?_eq_some h (Option.filter_eq_some_iff.1 hlast).1
      obtain ⟨hall, hcode⟩ := (TokenIndex.mem_select h).1 hmem
      simp only [Token.isPunctuator, Bool.and_eq_true, beq_iff_eq] at hsemicolon
      exact ⟨last, hall, by simpa using hcode, Option.some.inj hspan, .inl hsemicolon.2⟩
    · cases hbody
      cases hspan
  | comma =>
    cases hbody
    obtain ⟨comma, hfilter, rfl⟩ := Option.map_eq_some_iff.1 hspan
    obtain ⟨hafter, hcomma⟩ := Option.filter_eq_some_iff.1 hfilter
    obtain ⟨hmem, -, -⟩ := TokenIndex.after?_eq_some h hafter
    obtain ⟨hall, hcode⟩ := (TokenIndex.mem_select h).1 hmem
    simp only [Token.isPunctuator, Bool.and_eq_true, beq_iff_eq] at hcomma
    exact ⟨comma, hall, by simpa using hcode, rfl, .inr hcomma.2⟩

theorem Spanned.isClosed_separator_iff (h : s.Spanned)
    (htexts : ∀ t ∈ s.tokens.all, t.text = s.textOf t.span) {separator : Separator}
    {previousEnd : Option Nat} {element : NodeId} {slot : Slot}
    (hslot : s.slot? separator previousEnd element = some slot) (rest : List Fragment) :
    s.isClosed (slot.separator.toList.map (.stretch · false) ++ rest) = true ↔
      slot.separator = none ∧ s.isClosed rest = true := by
  cases hseparator : slot.separator with
  | none => simp
  | some span =>
    obtain ⟨t, ht, hcode, rfl, htext⟩ := exists_token_of_separator h.tokens hslot hseparator
    have hcodeAt : s.isCodeAt t.span.start = true := by
      refine (isCodeAt_iff h.tokens).2 ⟨t, ht, hcode, Nat.le_refl _, ?_⟩
      have hle := (h.token_placed t ht).le
      have hne : t.span.start ≠ t.span.stop := by
        intro heq
        have hempty := Text.slice_self s.text (h.token_placed t ht).stop
        rw [htexts t ht, textOf, heq, hempty] at htext
        simp at htext
      omega
    rw [isClosed, List.flatMap_append, Option.toList_some, List.map_singleton,
      List.flatMap_singleton, marks, ← htexts t ht]
    rcases htext with htext | htext <;>
      simp [htext, marksFrom, closes, hcodeAt, isTerminator]

theorem noneSwallowed_kept (s : Source) (span : Option Span) (rest : List Fragment) :
    s.NoneSwallowed (span.toList.map (.stretch · false) ++ rest) ↔ s.NoneSwallowed rest := by
  cases span <;> simp [NoneSwallowed]

/-- What it takes that the line comments of a moved element have no code behind them. -/
structure Spares (s : Source) (target moved : Slot) (rest : List Fragment) : Prop where
  front : s.EndsInLineComment moved.front → target.separator = none ∧
    s.isClosed (moved.trailing.toList.map (.stretch · true) ++ rest) = true
  trailing : ∀ span ∈ moved.trailing, s.EndsInLineComment span → s.isClosed rest = true

theorem Spanned.noneSwallowed_rendered (h : s.Spanned) (hlines : s.LineCommentsEnd)
    (htexts : ∀ t ∈ s.tokens.all, t.text = s.textOf t.span) {separator : Separator}
    {previousEnd previousEnd' : Option Nat} {element element' : NodeId} {target moved : Slot}
    (htarget : s.slot? separator previousEnd element = some target)
    (hmoved : s.slot? separator previousEnd' element' = some moved) (rest : List Fragment) :
    s.NoneSwallowed (rendered target moved true ++ rest) ↔
      s.Spares target moved rest ∧ s.NoneSwallowed rest := by
  have hat := h.marked.slotAt_of_slot? hmoved
  have htrailing : s.NoneSwallowed (moved.trailing.toList.map (.stretch · true) ++ rest) ↔
      (∀ span ∈ moved.trailing, s.EndsInLineComment span → s.isClosed rest = true) ∧
        s.NoneSwallowed rest := by
    cases hspan : moved.trailing with
    | none => simp
    | some span =>
      simp [NoneSwallowed, h.forall_isClosed_iff hlines (hat.trailing span hspan)]
  rw [rendered, List.cons_append, NoneSwallowed, List.append_assoc, noneSwallowed_kept, htrailing,
    h.forall_isClosed_iff hlines (h.placed_front hmoved), h.isClosed_separator_iff htexts htarget]
  constructor
  · rintro ⟨hfront, htrailing, hrest⟩
    exact ⟨⟨hfront rfl, htrailing⟩, hrest⟩
  · rintro ⟨⟨hfront, htrailing⟩, hrest⟩
    exact ⟨fun _ => hfront, htrailing, hrest⟩

theorem noneSwallowed_between (s : Source) (slots : Array Slot) (position : Nat)
    (rest : List Fragment) :
    s.NoneSwallowed (s.between slots position :: rest) ↔ s.NoneSwallowed rest := by
  unfold between
  split <;> simp [NoneSwallowed]

theorem noneSwallowed_content_self (s : Source) (slots : Array Slot) (position : Nat)
    (rest : List Fragment) :
    s.NoneSwallowed (content slots position position ++ rest) ↔ s.NoneSwallowed rest := by
  unfold content
  cases slots[position]? with
  | none => simp
  | some slot =>
    dsimp only
    split
    · simp [NoneSwallowed]
    · simp [rendered, NoneSwallowed, noneSwallowed_kept]

theorem Spanned.noneSwallowed_layout (h : s.Spanned) (hlines : s.LineCommentsEnd)
    (htexts : ∀ t ∈ s.tokens.all, t.text = s.textOf t.span) {separator : Separator}
    {slots : Array Slot} (hslots : s.AreCut separator slots) {position : Nat} {order : List Nat}
    (hsize : position + order.length = slots.size)
    (horder : ∀ source ∈ order, source < slots.size) :
    s.NoneSwallowed (s.layout slots position order) ↔
      ∀ i source target moved, order[i]? = some source → position + i ≠ source →
        slots[position + i]? = some target → slots[source]? = some moved →
        s.Spares target moved (s.layout slots (position + i + 1) (order.drop (i + 1))) := by
  induction order generalizing position with
  | nil => simp [layout, noneSwallowed_between, NoneSwallowed]
  | cons source order ih =>
    rw [List.length_cons] at hsize
    obtain ⟨hsource, horder⟩ := List.forall_mem_cons.1 horder
    have htarget : slots[position]? = some slots[position] := Array.getElem?_eq_getElem (by omega)
    have hmoved : slots[source]? = some slots[source] := Array.getElem?_eq_getElem hsource
    have hhead (rest : List Fragment) :
        s.NoneSwallowed (content slots position source ++ rest) ↔
          (position ≠ source → s.Spares slots[position] slots[source] rest) ∧
            s.NoneSwallowed rest := by
      by_cases hsame : position = source
      · subst hsame
        simp [noneSwallowed_content_self]
      · obtain ⟨previousEnd, element, hslot⟩ := hslots _ (Array.mem_of_getElem? htarget)
        obtain ⟨previousEnd', element', hslot'⟩ := hslots _ (Array.mem_of_getElem? hmoved)
        have hcontent : content slots position source =
            rendered slots[position] slots[source] true := by
          simp [content, htarget, hmoved, hsame, bne_iff_ne.2 hsame]
        rw [hcontent, h.noneSwallowed_rendered hlines htexts hslot hslot' rest]
        simp [hsame]
    rw [layout, noneSwallowed_between, hhead, ih (by omega) horder]
    constructor
    · rintro ⟨hspares, hrest⟩ i source' target moved hi hne ht hm
      cases i with
      | zero =>
        cases hi
        cases htarget.symm.trans ht
        cases hmoved.symm.trans hm
        exact hspares hne
      | succ i =>
        have hshift : position + (i + 1) = position + 1 + i := by omega
        rw [hshift] at hne ht ⊢
        exact hrest i source' target moved hi hne ht hm
    · intro hall
      refine ⟨fun hne => hall 0 source _ _ rfl hne htarget hmoved, ?_⟩
      intro i source' target moved hi hne ht hm
      have hshift : position + 1 + i = position + (i + 1) := by omega
      rw [hshift] at hne ht ⊢
      exact hall (i + 1) source' target moved hi hne ht hm

/-! Gaps between slots. -/

theorem isClosed_of_feed {span : Span} (hspan : span.Placed s.text) {u v : Text}
    (htext : s.text = u ++ '\n' :: v) (hstart : span.start ≤ u.size) (hstop : u.size < span.stop)
    (hblank : ∀ x, span.start ≤ x → x < u.size → s.isCodeAt x = false) (moved : Bool)
    (rest : List Fragment) : s.isClosed (.stretch span moved :: rest) = true := by
  have hu : s.text.isBoundary u.size = true := Text.isBoundary_iff.2 ⟨u, _, htext, rfl⟩
  obtain ⟨x, y, z, hxyz, hx, hxy⟩ := Text.exists_append_of_boundaries hspan.start hu hstart
  obtain ⟨x', y', z', hxyz', hx', hxy'⟩ :=
    Text.exists_append_of_boundaries hu hspan.stop (Nat.le_of_lt hstop)
  have hbefore : s.text.slice span.start u.size = y := by
    rw [← hx, ← hxy, hxyz]
    exact Text.slice_append x y z
  have hbehind : s.text.slice u.size span.stop = y' := by
    rw [← hx', ← hxy', hxyz']
    exact Text.slice_append x' y' z'
  -- What is behind the blank part begins with the line feed.
  have hfeed : ∃ w, y' = '\n' :: w := by
    have hrest : y' ++ z' = '\n' :: v :=
      (Text.append_inj_of_size (by rw [← List.append_assoc, ← hxyz', htext]) hx').2
    cases y' with
    | nil =>
      rw [List.append_nil] at hxy'
      omega
    | cons c w =>
      rw [List.cons_append] at hrest
      exact ⟨w, by rw [(List.cons.inj hrest).1]⟩
  obtain ⟨w, rfl⟩ := hfeed
  rw [isClosed, List.flatMap_cons, marks, textOf,
    ← Text.slice_append_slice hspan.start hu hspan.stop hstart (Nat.le_of_lt hstop), hbefore,
    hbehind, marksFrom_append, List.append_assoc, closes_append]
  · simp [marksFrom, closes, isTerminator]
  · intro m hm
    obtain ⟨offset, hle, hlt, hcode⟩ := exists_offset_of_mem_marksFrom hm
    rw [Text.size_append] at hxy
    rw [hcode]
    exact hblank offset hle (by omega)

theorem isClosed_of_blank {span : Span}
    (hblank : ∀ x, span.start ≤ x → s.isCodeAt x = false) (moved : Bool) :
    s.isClosed [.stretch span moved] = true := by
  have hmarks : ∀ m ∈ s.marks (.stretch span moved), m.2 = false := by
    intro m hm
    obtain ⟨offset, hle, -, hcode⟩ := exists_offset_of_mem_marksFrom hm
    rw [hcode]
    exact hblank offset hle
  rw [isClosed, List.flatMap_cons, closes_append hmarks]
  simp [closes]

theorem isCodeAt_eq_false (h : s.tokens.Ordered) {offset x : Nat} (hmark : s.tokens.IsMark offset)
    (hle : offset ≤ x) (hnext : ∀ t ∈ s.tokens.all, offset ≤ t.span.start → x < t.span.start) :
    s.isCodeAt x = false := by
  refine Bool.eq_false_iff.2 fun hcode => ?_
  obtain ⟨t, ht, -, hstart, hstop⟩ := (isCodeAt_iff h.sequential).1 hcode
  rcases h.not_across hmark ht with hbefore | hbehind
  · omega
  · have := hnext t ht hbehind
    omega

theorem endsLine_cases (h : s.tokens.Ordered) {offset : Nat} (hends : s.endsLine offset = true) :
    (∃ next ∈ s.tokens.all,
      (∀ t ∈ s.tokens.all, offset ≤ t.span.start → next.span.start ≤ t.span.start) ∧
        ∃ u v, s.text = u ++ '\n' :: v ∧ offset ≤ u.size ∧ u.size < next.span.start) ∨
      ∀ t ∈ s.tokens.all, t.span.start < offset := by
  have hselect {t : Token} (ht : t ∈ s.tokens.all) : t ∈ s.tokens.select true :=
    (TokenIndex.mem_select h.sequential).2 ⟨ht, .inl rfl⟩
  unfold endsLine at hends
  split at hends
  · rename_i next hafter
    obtain ⟨hmem, hle, hfirst⟩ := TokenIndex.after?_eq_some h.sequential hafter
    refine .inl ⟨next, ((TokenIndex.mem_select h.sequential).1 hmem).1, fun t ht hbehind => ?_,
      Text.exists_feed_of_lineOf_ne hle (bne_iff_ne.1 hends)⟩
    rcases hfirst t (hselect ht) hbehind with rfl | hlater
    · exact Nat.le_refl _
    · have := h.sequential.le next ((TokenIndex.mem_select h.sequential).1 hmem).1
      omega
  · rename_i hafter
    exact .inr fun t ht => TokenIndex.after?_eq_none h.sequential hafter (hselect ht)

/-- If nothing follows a slot on its line, the line ends before any code that a reordering puts
behind the slot. -/
theorem PlacedSlots.isClosed_layout {slots : Array Slot} (hslots : s.PlacedSlots slots)
    (h : s.tokens.Ordered) (hplaced : ∀ t ∈ s.tokens.all, t.span.Placed s.text)
    (hoverlap : slotsOverlap slots.toList = false)
    (hstarts : ∀ slot ∈ slots, ∃ t ∈ s.tokens.all, t.span.start = slot.span.start)
    {position : Nat} {target : Slot} (htarget : slots[position]? = some target)
    (hmark : s.tokens.IsMark target.span.stop) (hends : s.endsLine target.span.stop = true)
    {order : List Nat} (hsize : position + 1 + order.length = slots.size) :
    s.isClosed (s.layout slots (position + 1) order) = true := by
  have hgap : gapStart slots (position + 1) = target.span.stop := by simp [gapStart, htarget]
  have hnext {slot : Slot} (hslot : slots[position + 1]? = some slot) :
      ∃ t ∈ s.tokens.all, target.span.stop ≤ t.span.start ∧ t.span.start = slot.span.start := by
    obtain ⟨t, ht, hstart⟩ := hstarts slot (Array.mem_of_getElem? hslot)
    refine ⟨t, ht, ?_, hstart⟩
    rw [hstart, ← hgap]
    exact gapStart_le hslots.ordered hslot
  have hstop := (hslots.placed target (Array.mem_of_getElem? htarget)).stop
  have hbetween : s.between slots (position + 1) = .stretch ⟨target.span.stop,
      (slots[position + 1]?.map fun slot => slot.span.start).getD s.text.size⟩ false := by
    simp [between, hoverlap, hgap]
  rcases endsLine_cases h hends with ⟨next, hnextMem, hfirst, u, v, htext, hstart, hlt⟩ | hlast
  · -- The gap reaches at least to the next token, and so has the line feed.
    have hgapEnd : next.span.start ≤
          (slots[position + 1]?.map fun slot => slot.span.start).getD s.text.size ∧
        s.text.isBoundary
          ((slots[position + 1]?.map fun slot => slot.span.start).getD s.text.size) = true := by
      cases hslot : slots[position + 1]? with
      | none =>
        exact ⟨Text.le_size_of_isBoundary (hplaced next hnextMem).start, s.text.isBoundary_size⟩
      | some slot =>
        obtain ⟨t, ht, hbehind, hstart⟩ := hnext hslot
        rw [Option.map_some, Option.getD_some, ← hstart]
        exact ⟨hfirst t ht hbehind, (hplaced t ht).start⟩
    have hclosed (rest : List Fragment) :
        s.isClosed (s.between slots (position + 1) :: rest) = true := by
      rw [hbetween]
      refine isClosed_of_feed ⟨by dsimp only; omega, hstop, hgapEnd.2⟩ htext hstart
        (Nat.lt_of_lt_of_le hlt hgapEnd.1) ?_ false rest
      intro x hx hxu
      refine isCodeAt_eq_false h hmark hx fun t ht hbehind => ?_
      have := hfirst t ht hbehind
      omega
    cases order with
    | nil => exact hclosed []
    | cons source order => exact hclosed _
  · cases order with
    | nil =>
      rw [layout, hbetween]
      refine isClosed_of_blank (fun x hx => isCodeAt_eq_false h hmark hx ?_) false
      exact fun t ht hbehind => absurd (hlast t ht) (Nat.not_lt_of_le hbehind)
    | cons source order =>
      rw [List.length_cons] at hsize
      obtain ⟨t, ht, hbehind, -⟩ := hnext (Array.getElem?_eq_getElem (by omega))
      exact absurd (hlast t ht) (Nat.not_lt_of_le hbehind)

/-! Elements with tokens of their own. -/

theorem endsLine_of_slotEdits? {slots : Array Slot} {position : Nat} {order : List Nat}
    {edits : List Edit} (h : s.slotEdits? slots position order = some edits) {i source : Nat}
    {target moved : Slot} (hsource : order[i]? = some source) (hne : position + i ≠ source)
    (htarget : slots[position + i]? = some target) (hmoved : slots[source]? = some moved)
    (htrailing : moved.trailingIsLineComment = true) : s.endsLine target.span.stop = true := by
  induction order generalizing position edits i with
  | nil => simp at hsource
  | cons source' order ih =>
    rw [slotEdits?] at h
    obtain ⟨rest, hrest, h⟩ := Option.bind_eq_some_iff.1 h
    cases i with
    | zero =>
      cases hsource
      rw [Nat.add_zero] at hne htarget
      simp only [if_neg hne, htarget, hmoved, Option.bind_eq_bind, Option.bind_some, htrailing,
        Bool.true_and] at h
      by_contra hends
      rw [if_pos (by simpa using hends)] at h
      cases h
    | succ i =>
      have hshift : position + (i + 1) = position + 1 + i := by omega
      rw [hshift] at hne htarget
      exact ih hrest hsource hne htarget

theorem trailingIsLineComment_of_slot? (h : s.tokens.Ordered) {separator : Separator}
    {previousEnd : Option Nat} {element : NodeId} {slot : Slot}
    (hslot : s.slot? separator previousEnd element = some slot) {span : Span}
    (hspan : slot.trailing = some span) (hends : s.EndsInLineComment span) :
    slot.trailingIsLineComment = true := by
  obtain ⟨⟨body, mark⟩, -, rfl⟩ := Option.map_eq_some_iff.1 hslot
  dsimp only at hspan ⊢
  obtain ⟨comment, hcomment, rfl⟩ := Option.map_eq_some_iff.1 hspan
  obtain ⟨-, -, -, -, hfirst⟩ := trailingComment?_eq_some h.sequential hcomment
  obtain ⟨c, hc, hkind, hstart, hstop⟩ := hends
  have hne := h.nonempty c hc
  rw [hcomment]
  rcases hfirst c hc hstart with rfl | hlater
  · simpa using hkind
  · dsimp only at hstop
    omega

theorem not_endsInLineComment_front (h : s.tokens.Ordered) {previousEnd : Option Nat}
    {element : NodeId} (he : s.IsElement (s.tree.span element)) {slot : Slot}
    (hslot : s.slot? .comma previousEnd element = some slot) :
    ¬ s.EndsInLineComment slot.front := by
  rintro ⟨c, hc, hkind, -, hstop⟩
  have hbody : slot.body = s.tree.span element := by
    obtain ⟨⟨body, mark⟩, hbody, rfl⟩ := Option.map_eq_some_iff.1 hslot
    obtain ⟨last, -, hbody⟩ := Option.bind_eq_some_iff.1 hbody
    exact (Prod.mk.inj (Option.some.inj hbody)).1.symm
  obtain ⟨t, ht, hcode, hlast, -⟩ := he.last
  have hne := h.nonempty c hc
  have hne' := h.nonempty t ht
  rw [Slot.front, hbody] at hstop
  rcases h.eq_or_apart hc ht with rfl | hapart
  · simp [Token.isComment, hkind] at hcode
  · dsimp only at hstop
    omega

theorem IsSlotOf.exists_start {element : NodeId} {slot : Slot}
    (hslot : s.IsSlotOf element slot) (he : s.IsElement (s.tree.span element)) :
    ∃ t ∈ s.tokens.all, t.span.start = slot.span.start := by
  obtain ⟨-, previousEnd, hstart⟩ := hslot
  obtain ⟨first, hfirst, -, heq, -⟩ := he.first
  rcases leadingStartFrom_eq_or previousEnd s.tokens.all.size (s.tree.span element).start with
    hsame | ⟨t, ht, hcomment⟩
  · exact ⟨first, hfirst, by rw [hstart, leadingStart, hsame, heq]⟩
  · exact ⟨t, ht, by rw [hstart, leadingStart, hcomment]⟩

theorem textOf_of_mem_tokens {path : String} {text : Text} {doc : Json}
    (h : ofDocument path text doc = .ok s) {t : Token} (ht : t ∈ s.tokens.all) :
    t.text = s.textOf t.span := by
  obtain ⟨nodes, tree, -, -, rfl⟩ := ofDocument_eq_ok h
  obtain ⟨kindOf, doc', htoken⟩ := Loader.exists_token?_of_mem ht
  obtain ⟨-, hslice⟩ := Loader.token?_eq_some htoken
  rw [textOf, Text.slice, hslice, Option.getD_some]

def Moves (slots : List Slot) (order : List Nat) (position : Nat) (target moved : Slot) : Prop :=
  ∃ source, order[position]? = some source ∧ position ≠ source ∧ slots[position]? = some target ∧
    slots[source]? = some moved

/-- A trailing line comment keeps to its line. -/
theorem Spanned.isClosed_of_trailing (h : s.Spanned) (hnonempty : s.tokens.Ordered)
    {elements : List NodeId} (he : s.AreElements elements) {separator : Separator}
    {slots : List Slot} (hslots : s.slotsFrom? separator none elements = some slots)
    {order : List Nat} {patch : Patch}
    (hpatch : s.reorder? elements order separator = some patch) {position : Nat}
    {target moved : Slot} (hmoves : Moves slots order position target moved) {span : Span}
    (hspan : moved.trailing = some span) (hends : s.EndsInLineComment span) :
    s.isClosed (s.layout slots.toArray (position + 1) (order.drop (position + 1))) = true := by
  obtain ⟨source, hsource, hne, htarget, hmoved⟩ := hmoves
  have hforall := forall₂_of_slotsFrom? hnonempty he.isElement hslots
  have hoverlap := slotsOverlap_eq_false (pairwise_of_forall₂ hnonempty he hforall)
  have hcut := areCut_of_slotsFrom? hslots
  obtain ⟨hlength, slots', hslots', -, hcases⟩ := reorder?_cases hpatch
  cases hslots.symm.trans hslots'
  rcases hcases with ⟨hoverlap', -⟩ | ⟨-, edits, hedits, -⟩
  · rw [hoverlap] at hoverlap'
    cases hoverlap'
  obtain ⟨previousEnd, e, hslot⟩ := hcut moved (by simpa using List.mem_of_getElem? hmoved)
  have hendsLine := endsLine_of_slotEdits? hedits hsource (by omega)
    (by simpa using htarget) (by simpa using hmoved)
    (trailingIsLineComment_of_slot? hnonempty hslot hspan hends)
  have hstarts : ∀ slot ∈ slots.toArray, ∃ t ∈ s.tokens.all, t.span.start = slot.span.start := by
    intro slot hslot
    obtain ⟨e, hmem, hslotOf⟩ := exists_of_forall₂ hforall (List.mem_toArray.1 hslot)
    exact hslotOf.exists_start (he.isElement e hmem)
  obtain ⟨e', -, hslotOf⟩ := exists_of_forall₂ hforall (List.mem_of_getElem? htarget)
  have hlt := (List.getElem?_eq_some_iff.1 hsource).1
  refine (h.placedSlots hcut hoverlap).isClosed_layout hnonempty h.token_placed hoverlap hstarts
    (by simpa using htarget) hslotOf.1.stop_mark hendsLine ?_
  rw [List.length_drop, List.size_toArray, ← hforall.length_eq, hlength]
  omega

/-- Exactly when a reordering lets no line comment swallow code. A moved element whose comments and
body end with a line comment must come to a slot without separator, and the line must end before any
code behind it; so it must behind a trailing line comment. Where elements have tokens of their own,
the trailing comments are looked after, and elements that commas separate swallow nothing. -/
theorem noneSwallowed_iff_of_reorder? {path : String} {text : Text} {doc : Json}
    (hload : ofDocument path text doc = .ok s)
    (hapart : s.tokens.all.toList.Pairwise fun a b =>
      a.span.stop ≤ b.span.start ∨ b.span.stop ≤ a.span.start)
    (hlines : s.LineCommentsEnd) {elements : List NodeId}
    (hordered : elements.Pairwise fun a b => (s.tree.span a).stop ≤ (s.tree.span b).start)
    {order : List Nat} (horder : order.Perm (List.range elements.length)) {separator : Separator}
    {patch : Patch} (hpatch : s.reorder? elements order separator = some patch) :
    ∃ slots : List Slot, s.slotsFrom? separator none elements = some slots ∧
      patch.apply s.text =
        .ok (((s.layout slots.toArray 0 order).flatMap s.marks).map Prod.fst) ∧
      (s.NoneSwallowed (s.layout slots.toArray 0 order) ↔
        ∀ position target moved, Moves slots order position target moved →
          s.Spares target moved
            (s.layout slots.toArray (position + 1) (order.drop (position + 1)))) ∧
      ((∀ t ∈ s.tokens.all, t.span.start < t.span.stop) → s.AreElements elements →
        (s.NoneSwallowed (s.layout slots.toArray 0 order) ↔
          ∀ position target moved, Moves slots order position target moved →
            s.EndsInLineComment moved.front → target.separator = none ∧
              s.isClosed (moved.trailing.toList.map (.stretch · true) ++
                s.layout slots.toArray (position + 1) (order.drop (position + 1))) = true) ∧
        (separator = .comma → s.NoneSwallowed (s.layout slots.toArray 0 order))) := by
  have h := spanned_of_ofDocument hload hapart
  have htexts : ∀ t ∈ s.tokens.all, t.text = s.textOf t.span :=
    fun t ht => textOf_of_mem_tokens hload ht
  obtain ⟨slots, hslots, hlength, happly⟩ := h.apply_layout_of_reorder? hordered horder hpatch
  have hiff : s.NoneSwallowed (s.layout slots.toArray 0 order) ↔
      ∀ position target moved, Moves slots order position target moved →
        s.Spares target moved
          (s.layout slots.toArray (position + 1) (order.drop (position + 1))) := by
    have hsize : 0 + order.length = slots.toArray.size := by
      rw [Nat.zero_add, horder.length_eq, List.length_range, List.size_toArray, hlength]
    have hlt : ∀ source ∈ order, source < slots.toArray.size := by
      intro source hsource
      rw [List.size_toArray, hlength]
      exact List.mem_range.1 (horder.mem_iff.1 hsource)
    rw [h.noneSwallowed_layout hlines htexts (areCut_of_slotsFrom? hslots) hsize hlt]
    simp only [Nat.zero_add, List.getElem?_toArray]
    constructor
    · rintro hall position target moved ⟨source, hsource, hne, htarget, hmoved⟩
      exact hall position source target moved hsource hne htarget hmoved
    · intro hall position source target moved hsource hne htarget hmoved
      exact hall position target moved ⟨source, hsource, hne, htarget, hmoved⟩
  refine ⟨slots, hslots, by rw [happly, map_fst_flatMap_marks], hiff, fun hnonempty he => ?_⟩
  have hsequential : s.tokens.Ordered := ⟨hnonempty, h.tokens.ordered, h.tokens.code_eq⟩
  have hfronts : s.NoneSwallowed (s.layout slots.toArray 0 order) ↔
      ∀ position target moved, Moves slots order position target moved →
        s.EndsInLineComment moved.front → target.separator = none ∧
          s.isClosed (moved.trailing.toList.map (.stretch · true) ++
            s.layout slots.toArray (position + 1) (order.drop (position + 1))) = true := by
    rw [hiff]
    constructor
    · exact fun hspares position target moved hmoves => (hspares _ _ _ hmoves).front
    · exact fun hfronts position target moved hmoves => ⟨hfronts _ _ _ hmoves, fun span hspan =>
        h.isClosed_of_trailing hsequential he hslots hpatch hmoves hspan⟩
  refine ⟨hfronts, ?_⟩
  rintro rfl
  refine hfronts.2 fun position target moved hmoves hends => ?_
  obtain ⟨source, -, -, -, hmoved⟩ := hmoves
  obtain ⟨e, hmem, previousEnd, hslot⟩ :=
    exists_of_forall₂ (forall₂_slot? hslots) (List.mem_of_getElem? hmoved)
  exact absurd hends (not_endsInLineComment_front hsequential (he.isElement e hmem) hslot)

theorem lineCommentsEnd_array : arraySource.LineCommentsEnd := by
  unfold LineCommentsEnd
  decide

theorem noneSwallowed_iff_of_reorder?_array :
    ofDocument "a.js" arraySource.text arrayDocument = .ok arraySource ∧
    ∃ patch, arraySource.reorder? [1, 0] [1, 0] .comma = some patch ∧
      patch.apply arraySource.text = .ok "[\n  a,\n  b // x\n]".toList ∧
      arraySource.NoneSwallowed (arraySource.layout arraySlots.toArray 0 [1, 0]) := by
  have hpatch : arraySource.reorder? [1, 0] [1, 0] .comma =
      some ⟨[⟨⟨4, 11⟩, "a,"⟩, ⟨⟨14, 15⟩, "b // x"⟩]⟩ := by cbv
  have hslots : arraySource.slotsFrom? .comma none [1, 0] = some arraySlots := by cbv
  obtain ⟨slots, hslots', happly, -, helements⟩ := noneSwallowed_iff_of_reorder? ofDocument_array
    apart_array.apart lineCommentsEnd_array areElements_array.ordered (List.Perm.swap 0 1 []) hpatch
  cases hslots.symm.trans hslots'
  refine ⟨ofDocument_array, _, hpatch, ?_, (helements apart_array.nonempty areElements_array).2 rfl⟩
  rw [happly]
  decide

/-! A statement with a line comment before its semicolon. -/

def semicolonDocument : Json := .obj [
  ("body", .arr [
    .obj [("expression", .obj [("name", .str "b"), ("range", .arr [.nat 0, .nat 1]),
        ("type", .str "Identifier")]),
      ("range", .arr [.nat 0, .nat 8]), ("type", .str "ExpressionStatement")],
    .obj [("expression", .obj [("name", .str "a"), ("range", .arr [.nat 9, .nat 10]),
        ("type", .str "Identifier")]),
      ("range", .arr [.nat 9, .nat 11]), ("type", .str "ExpressionStatement")]]),
  ("comments", .arr [.obj [("range", .arr [.nat 2, .nat 6]), ("type", .str "Line")]]),
  ("sourceType", .str "script"),
  ("tokens", .arr [
    .obj [("range", .arr [.nat 0, .nat 1]), ("type", .str "Identifier")],
    .obj [("range", .arr [.nat 7, .nat 8]), ("type", .str "Punctuator")],
    .obj [("range", .arr [.nat 9, .nat 10]), ("type", .str "Identifier")],
    .obj [("range", .arr [.nat 10, .nat 11]), ("type", .str "Punctuator")]]),
  ("type", .str "Program")]

def semicolonSource : Source where
  path := "a.js"
  text := "b // x\n;\na;".toList
  tree :=
    { nodes := #[
        ⟨.identifier "a" none false, ⟨9, 10⟩⟩,
        ⟨.expressionStatement 0 none, ⟨9, 11⟩⟩,
        ⟨.identifier "b" none false, ⟨0, 1⟩⟩,
        ⟨.expressionStatement 2 none, ⟨0, 8⟩⟩,
        ⟨.program [3, 1] .script, ⟨0, 11⟩⟩]
      children := #[[], [0], [], [2], [3, 1]]
      parents := #[some 1, some 4, some 3, some 4, none]
      root := 4 }
  tokens :=
    { all := #[
        ⟨.identifier, ⟨0, 1⟩, ['b']⟩,
        ⟨.lineComment, ⟨2, 6⟩, ['/', '/', ' ', 'x']⟩,
        ⟨.punctuator, ⟨7, 8⟩, [';']⟩,
        ⟨.identifier, ⟨9, 10⟩, ['a']⟩,
        ⟨.punctuator, ⟨10, 11⟩, [';']⟩]
      code := #[
        ⟨.identifier, ⟨0, 1⟩, ['b']⟩,
        ⟨.punctuator, ⟨7, 8⟩, [';']⟩,
        ⟨.identifier, ⟨9, 10⟩, ['a']⟩,
        ⟨.punctuator, ⟨10, 11⟩, [';']⟩] }

theorem ofDocument_semicolon :
    ofDocument "a.js" semicolonSource.text semicolonDocument = .ok semicolonSource := by
  have hload : Loader.load semicolonSource.text semicolonDocument =
      .ok semicolonSource.tree.nodes := by
    decide +kernel
  have htree : Tree.ofNodes semicolonSource.tree.nodes 4 = .ok semicolonSource.tree := by cbv
  have htokens : TokenIndex.ofList (Loader.tokens semicolonSource.text semicolonDocument) =
      semicolonSource.tokens := by cbv
  rw [ofDocument_eq "a.js" hload htree, htokens]
  rfl

def semicolonSlots : List Slot := [
  ⟨⟨0, 8⟩, ⟨0, 0⟩, ⟨0, 6⟩, some ⟨7, 8⟩, none, false⟩,
  ⟨⟨9, 11⟩, ⟨9, 9⟩, ⟨9, 10⟩, some ⟨10, 11⟩, none, false⟩]

/-- The statement moves with the comment at its end, and the semicolon of its new place goes behind
that. -/
theorem not_noneSwallowed_semicolon :
    ofDocument "a.js" semicolonSource.text semicolonDocument = .ok semicolonSource ∧
    semicolonSource.tokens.Apart ∧ semicolonSource.LineCommentsEnd ∧
    semicolonSource.AreElements [3, 1] ∧
    semicolonSource.slotsFrom? .statement none [3, 1] = some semicolonSlots ∧
    ∃ patch, semicolonSource.reorder? [3, 1] [1, 0] .statement = some patch ∧
      patch.apply semicolonSource.text = .ok "a;\nb // x;".toList ∧
      ¬ semicolonSource.NoneSwallowed
        (semicolonSource.layout semicolonSlots.toArray 0 [1, 0]) := by
  have hpatch : semicolonSource.reorder? [3, 1] [1, 0] .statement =
      some ⟨[⟨⟨0, 8⟩, "a;"⟩, ⟨⟨9, 11⟩, "b // x;"⟩]⟩ := by cbv
  have hlayout : semicolonSource.layout semicolonSlots.toArray 0 [1, 0] =
      [.stretch ⟨0, 0⟩ false, .stretch ⟨9, 10⟩ true, .stretch ⟨7, 8⟩ false, .stretch ⟨8, 9⟩ false,
        .stretch ⟨0, 6⟩ true, .stretch ⟨10, 11⟩ false, .stretch ⟨11, 11⟩ false] := by
    decide
  refine ⟨ofDocument_semicolon, ⟨by decide, by decide⟩, ?_, ⟨?_, by decide⟩,
    by cbv, _, hpatch, by decide, ?_⟩
  · unfold LineCommentsEnd
    decide
  · intro e he
    simp only [List.mem_cons, List.not_mem_nil, or_false] at he
    rcases he with rfl | rfl
    · exact ⟨by decide, by decide⟩
    · exact ⟨by decide, by decide⟩
  · rw [hlayout]
    rintro ⟨-, -, -, -, hmoved, -⟩
    have hclosed := hmoved rfl ⟨.lineComment, ⟨2, 6⟩, "// x".toList⟩ (by simp [semicolonSource]) rfl
      (by decide)
    exact absurd hclosed (by decide +kernel)

end Source

end ScriptLint
