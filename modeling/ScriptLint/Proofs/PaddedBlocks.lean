import ScriptLint.Files.Memory
import ScriptLint.Proofs.BlankLineEdits
import ScriptLint.Proofs.CheckedGaps
import ScriptLint.Proofs.Enclosure
import ScriptLint.Proofs.PaddedStatements
import ScriptLint.Proofs.ParameterLists

/-! Blank lines at the start and the end of blocks. Each gap that the rule looks at lies between a
token and the next one, and no token begins two such gaps, so the fixes go together; what is left of a
gap is counted in line feeds. -/
namespace ScriptLint

namespace BlockPadding

variable {s : Source}

structure Inner where
  opening : Token
  first : Token
  last : Token
  closing : Token
  deriving DecidableEq

/-- What the rule looks at in a block; `none` if it passes the block over. -/
def inner? (s : Source) (id : NodeId) : Option Inner :=
  if isBlock (s.tree.kind id) then do
    let opening ← (s.tokens.within (s.tree.span id)).find? fun t => t.isPunctuator "\x7b"
    let closing ← (s.lastToken? id).filter fun t => t.isPunctuator "\x7d"
    let first ← s.tokens.after? opening.span.stop true
    let last ← s.tokens.before? closing.span.start true
    if closing.span.start ≤ first.span.start then none else some ⟨opening, first, last, closing⟩
  else none

def startEdit? (s : Source) (id : NodeId) (opening first : Token) : Option Edit :=
  if hasMultilineParams s id then
    if s.lineOf first.span.start - (s.lineOf opening.span.stop + 1) = 1 then none
    else keepOneLine? s opening first
  else if s.text.hasBlankLineBetween opening.span.stop first.span.start then
    s.collapseBlankLines? opening.span.stop first.span.start
  else none

def endEdit? (s : Source) (last closing : Token) : Option Edit :=
  if s.text.hasBlankLineBetween last.span.stop closing.span.start then
    s.collapseBlankLines? last.span.stop closing.span.start
  else none

structure Gap where
  left : Token
  right : Token
  finding? : Option Finding
  edit? : Option Edit
  lines : Nat

def Gap.span (gap : Gap) : Span := ⟨gap.left.span.stop, gap.right.span.start⟩

def Inner.startGap (s : Source) (id : NodeId) (b : Inner) : Gap where
  left := b.opening
  right := b.first
  finding? := checkStart s id b.opening b.first
  edit? := startEdit? s id b.opening b.first
  lines := if hasMultilineParams s id then 1 else 0

def Inner.endGap (s : Source) (b : Inner) : Gap where
  left := b.last
  right := b.closing
  finding? := checkEnd s b.last b.closing
  edit? := endEdit? s b.last b.closing
  lines := 0

def gapsOf (s : Source) (id : NodeId) : List Gap :=
  match inner? s id with
  | some b => [b.startGap s id, b.endGap s]
  | none => []

def gaps (s : Source) : List Gap := s.tree.preorder.flatMap (gapsOf s)

/-- What a parser sees to: tokens are not empty and do not overlap, blanks separate neighbours, no two
blocks share a brace, and no token ends inside a line terminator. -/
structure BracesApart (s : Source) : Prop where
  tokens : s.tokens.Apart
  blank : ∀ a b, [a, b] <:+: s.tokens.all.toList →
    (s.text.slice a.span.stop b.span.start).all isBlank = true
  braces : ∀ id id' b b', inner? s id = some b → inner? s id' = some b' → id ≠ id' →
    b.opening ≠ b'.opening ∧ b.closing ≠ b'.closing
  terminators : ∀ t ∈ s.tokens.all, ∀ u w : Text, s.text = u ++ '\r' :: '\n' :: w →
    t.span.stop ≠ u.size + 1

/-! What the rule looks at. -/

structure IsInner (s : Source) (id : NodeId) (b : Inner) : Prop where
  start : s.tokens.Adjacent b.opening b.first
  stop : s.tokens.Adjacent b.last b.closing
  nonempty : b.first.span.start < b.closing.span.start
  opening_brace : b.opening.isPunctuator "\x7b" = true
  opening_inside : (s.tree.span id).start ≤ b.opening.span.start
  closing_inside : (s.tree.span id).start ≤ b.closing.span.start ∧
    b.closing.span.stop ≤ (s.tree.span id).stop
  closing_code : b.closing.isComment = false
  /-- No brace opens earlier in the block. -/
  opening_first : ∀ t ∈ s.tokens.all, t.isPunctuator "\x7b" = true →
    (s.tree.span id).start ≤ t.span.start → t.span.stop ≤ (s.tree.span id).stop →
    t = b.opening ∨ b.opening.span.stop ≤ t.span.start
  /-- No code comes later in the block. -/
  closing_last : ∀ t ∈ s.tokens.all, t.isComment = false → t.span.stop ≤ (s.tree.span id).stop →
    t = b.closing ∨ t.span.stop ≤ b.closing.span.start

theorem isInner_of_inner? (h : s.tokens.Ordered) {id : NodeId} {b : Inner}
    (hb : inner? s id = some b) : IsInner s id b := by
  unfold inner? at hb
  split at hb
  · simp only [Option.bind_eq_bind, Option.bind_eq_some_iff] at hb
    obtain ⟨opening, hopening, closing, hclosing, first, hfirst, last, hlast, hb⟩ := hb
    split at hb
    · cases hb
    rename_i hne
    cases hb
    obtain ⟨hbefore, hinside⟩ := Option.filter_eq_some_iff.1 (Option.filter_eq_some_iff.1 hclosing).1
    obtain ⟨hcode, hstop, hlater⟩ := TokenIndex.before?_eq_some h hbefore
    obtain ⟨hclosingMem, hnone⟩ := (TokenIndex.mem_select h).1 hcode
    have hclosingCode : closing.isComment = false := by simpa using hnone
    obtain ⟨hbrace, front, back, hsplit, hfront⟩ := List.find?_eq_some_iff_append.1 hopening
    have hopeningMem := (TokenIndex.mem_within h).1 (List.mem_of_find?_eq_some hopening)
    refine ⟨TokenIndex.adjacent_of_after? h hopeningMem.1 hfirst,
      TokenIndex.adjacent_of_before? h hclosingMem hlast, Nat.lt_of_not_le hne, hbrace,
      hopeningMem.2.1,
      ⟨of_decide_eq_true hinside, hstop⟩, hclosingCode, ?_, ?_⟩
    · intro t ht hpunctuator hstart hstop
      have hmem := (TokenIndex.mem_within h).2 ⟨ht, hstart, hstop⟩
      have hpairs := h.sequential.pairwise_within (s.tree.span id)
      rw [hsplit] at hmem hpairs
      rcases List.mem_append.1 hmem with hmem | hmem
      · have := hfront t hmem
        simp [hpunctuator] at this
      · rcases List.mem_cons.1 hmem with rfl | hmem
        · exact .inl rfl
        · exact .inr (List.rel_of_pairwise_cons (List.pairwise_append.1 hpairs).2.1 hmem)
    · intro t ht hcode hstop
      exact hlater t ((TokenIndex.mem_select h).2 ⟨ht, .inr hcode⟩) hstop
  · cases hb

theorem checkBlock_eq (id : NodeId) (hid : isBlock (s.tree.kind id) = true) :
    checkBlock s id = (gapsOf s id).filterMap Gap.finding? := by
  have hgaps (b : Inner) : [b.startGap s id, b.endGap s].filterMap Gap.finding? =
      (checkStart s id b.opening b.first).toList ++ (checkEnd s b.last b.closing).toList := by
    cases hstart : checkStart s id b.opening b.first <;>
      cases hend : checkEnd s b.last b.closing <;>
      simp [Inner.startGap, Inner.endGap, hstart, hend]
  unfold checkBlock gapsOf inner?
  rw [if_pos hid]
  cases (s.tokens.within (s.tree.span id)).find? fun t => t.isPunctuator "\x7b" with
  | none => rfl
  | some opening =>
    cases (s.lastToken? id).filter fun t => t.isPunctuator "\x7d" with
    | none => rfl
    | some closing =>
      dsimp only [Option.bind_eq_bind, Option.bind_some]
      cases s.tokens.after? opening.span.stop true with
      | none => rfl
      | some first =>
        cases s.tokens.before? closing.span.start true with
        | none => rfl
        | some last =>
          dsimp only [Option.bind_some]
          split
          · rfl
          · exact (hgaps ⟨opening, first, last, closing⟩).symm

theorem isBlock_of_inner? {id : NodeId} {b : Inner} (hb : inner? s id = some b) :
    isBlock (s.tree.kind id) = true := by
  unfold inner? at hb
  split at hb
  · assumption
  · cases hb

theorem lt_size_of_inner? {id : Nat} {b : Inner} (hb : inner? s id = some b) : id < s.tree.size := by
  refine Nat.lt_of_not_le fun hle => ?_
  have hblock := isBlock_of_inner? hb
  rw [Tree.kind_of_size_le hle] at hblock
  cases hblock

/-- For a given source without carriage returns it is enough to look at each pair of tokens and of
blocks. -/
theorem bracesApart_of_checked (htokens : s.tokens.Apart)
    (hblank : ∀ pair ∈ neighbours s.tokens.all.toList,
      (s.text.slice pair.1.span.stop pair.2.span.start).all isBlank = true)
    (hbraces : ((List.range s.tree.size).filterMap (inner? s)).Pairwise fun b b' =>
      b.opening ≠ b'.opening ∧ b.closing ≠ b'.closing)
    (hreturn : '\r' ∉ s.text) : BracesApart s := by
  refine ⟨htokens, fun a b hab => hblank (a, b) (mem_neighbours.2 hab), ?_, ?_⟩
  · intro id id' b b' hb hb' hne
    rcases pairwise_or (List.pairwise_filterMap.1 hbraces)
      (List.mem_range.2 (lt_size_of_inner? hb)) (List.mem_range.2 (lt_size_of_inner? hb')) hne
      with hapart | hapart
    · exact hapart b hb b' hb'
    · exact (hapart b' hb' b hb).imp Ne.symm Ne.symm
  · intro t _ u w htext
    exact absurd (by simp [htext]) hreturn

theorem check_eq (files : FileSystem) :
    check () files (.ofSource s) = (gaps s).filterMap Gap.finding? := by
  have hskip (l : List NodeId) : (l.filter fun id => isBlock (s.tree.kind id)).flatMap (checkBlock s) =
      l.flatMap fun id => (gapsOf s id).filterMap Gap.finding? := by
    induction l with
    | nil => rfl
    | cons id l ih =>
      rw [List.filter_cons, List.flatMap_cons, ← ih]
      split
      · rename_i hid
        rw [List.flatMap_cons, checkBlock_eq id hid]
      · rename_i hid
        rw [gapsOf, inner?, if_neg hid]
        rfl
  rw [gaps, List.filterMap_flatMap, ← hskip]
  rfl

theorem run_eq {options : Option Json} (hoptions : (rule.withOptions options).isSome = true)
    (files : FileSystem) (asked : FileCache) :
    rule.run options files (.ofSource s) asked =
      (check () files (.ofSource s)).map (s.diagnose rule.info.id) :=
  Rule.run_of_noOptions hoptions files (.ofSource s) asked

theorem mem_gaps (h : s.tree.WellLinked) {gap : Gap} : gap ∈ gaps s ↔
    ∃ id b, inner? s id = some b ∧ (gap = b.startGap s id ∨ gap = b.endGap s) := by
  simp only [gaps, List.mem_flatMap, gapsOf]
  constructor
  · rintro ⟨id, -, hgap⟩
    cases hb : inner? s id with
    | none => simp [hb] at hgap
    | some b => exact ⟨id, b, hb, by simpa [hb] using hgap⟩
  · rintro ⟨id, b, hb, hgap⟩
    exact ⟨id, h.mem_preorder.2 (lt_size_of_inner? hb), by simpa [hb] using hgap⟩

/-! Tokens begin one gap at most. -/

section Apart

variable (h : s.tokens.Ordered)
include h

theorem IsInner.opening_ne_last_self {id : NodeId} {b : Inner} (hb : IsInner s id b) :
    b.opening ≠ b.last := by
  intro heq
  have hstop := hb.stop
  rw [← heq] at hstop
  have hnonempty := hb.nonempty
  rw [hb.start.right_unique h hstop] at hnonempty
  exact Nat.lt_irrefl _ hnonempty

/-- The brace that opens a block is not the last token inside another one: the next token would close
that one and stand inside the first, and the blocks would cross. -/
theorem IsInner.opening_ne_last (hlinked : s.tree.WellLinked) (hnested : s.tree.Nested s.text)
    {id id' : Nat} (hid : id < s.tree.size) (hid' : id' < s.tree.size) {b b' : Inner}
    (hb : IsInner s id b) (hb' : IsInner s id' b') (hne : b.opening ≠ b'.opening) :
    b.opening ≠ b'.last := by
  intro heq
  have hstop := hb'.stop
  rw [← heq] at hstop
  have hfirst : b.first = b'.closing := hb.start.right_unique h hstop
  have hlt := hb.nonempty
  rw [hfirst] at hlt
  -- The other block opens before the token, and closes right behind it.
  have hpos := h.nonempty b.opening hb.start.left
  have hpos' := h.nonempty b'.opening hb'.start.left
  have hposClosing := h.nonempty b.closing hb.stop.right
  have hposClosing' := h.nonempty b'.closing hb'.stop.right
  have hle := hb'.start.le
  have hnonempty := hb'.nonempty
  have hbetween := hstop.between b'.opening hb'.start.left
  have hbefore : b'.opening.span.stop ≤ b.opening.span.start := by
    rcases h.eq_or_apart hb.start.left hb'.start.left with heq | hapart | hapart
    · exact absurd heq hne
    · omega
    · exact hapart
  have hinside := hb.opening_inside
  have hinside' := hb'.opening_inside
  have hclosing := hb.closing_inside
  have hclosing' := hb'.closing_inside
  have hstart := hstop.le
  rcases Tree.under_or_apart hlinked hnested hid hid' with hunder | hunder | hapart | hapart
  · have hspan := Tree.Under.inside hlinked hnested hunder
    rcases hb'.closing_last b.closing hb.stop.right hb.closing_code (by omega) with heq' | hle'
    · rw [heq'] at hlt
      exact Nat.lt_irrefl _ hlt
    · omega
  · have hspan := Tree.Under.inside hlinked hnested hunder
    rcases hb.opening_first b'.opening hb'.start.left hb'.opening_brace (by omega) (by omega)
      with heq' | hle'
    · exact hne heq'.symm
    · omega
  · omega
  · omega

theorem adjacent_of_mem_gaps (hlinked : s.tree.WellLinked) {gap : Gap} (hgap : gap ∈ gaps s) :
    s.tokens.Adjacent gap.left gap.right := by
  obtain ⟨id, b, hb, rfl | rfl⟩ := (mem_gaps hlinked).1 hgap
  · exact (isInner_of_inner? h hb).start
  · exact (isInner_of_inner? h hb).stop

theorem pairwise_gaps (hlinked : s.tree.WellLinked) (hnested : s.tree.Nested s.text)
    (hbraces : BracesApart s) : (gaps s).Pairwise fun g g' => g.left ≠ g'.left := by
  refine List.pairwise_flatMap.2 ⟨?_, ?_⟩
  · intro id _
    cases hb : inner? s id with
    | none => simp [gapsOf, hb]
    | some b =>
      have hne := (isInner_of_inner? h hb).opening_ne_last_self h
      simpa [gapsOf, hb, Inner.startGap, Inner.endGap] using hne
  · have hnodup : s.tree.preorder.Nodup :=
      hlinked.preorder_perm_range.nodup_iff.2 List.nodup_range
    refine hnodup.imp fun {id id'} hne g hg g' hg' => ?_
    cases hb : inner? s id with
    | none => simp [gapsOf, hb] at hg
    | some b =>
      cases hb' : inner? s id' with
      | none => simp [gapsOf, hb'] at hg'
      | some b' =>
        have hinner := isInner_of_inner? h hb
        have hinner' := isInner_of_inner? h hb'
        have hid := lt_size_of_inner? hb
        have hid' := lt_size_of_inner? hb'
        obtain ⟨hopening, hclosing⟩ := hbraces.braces id id' b b' hb hb' hne
        have hg : g = b.startGap s id ∨ g = b.endGap s := by simpa [gapsOf, hb] using hg
        have hg' : g' = b'.startGap s id' ∨ g' = b'.endGap s := by simpa [gapsOf, hb'] using hg'
        rcases hg with rfl | rfl <;> rcases hg' with rfl | rfl
        · exact hopening
        · exact hinner.opening_ne_last h hlinked hnested hid hid' hinner' hopening
        · exact (hinner'.opening_ne_last h hlinked hnested hid' hid hinner hopening.symm).symm
        · intro heq
          have hstop := hinner.stop
          change b.last = b'.last at heq
          rw [heq] at hstop
          exact hclosing (hstop.right_unique h hinner'.stop)

end Apart

/-! One gap. -/

section Mending

variable {u g w : Text}

/-- A finding, if there is one, has an edit for its fix; after that edit the gap holds as many blank
lines as it should. -/
structure Mended (s : Source) (offset : Nat) (g : Text) (finding? : Option Finding)
    (edit? : Option Edit) (lines : Nat) : Prop where
  reported : (finding?.map fun f => (s.diagnose rule.info.id f).safePatch?) =
    edit?.map fun e => some (Patch.single e)
  turns : ∀ e, edit? = some e → ∃ g', e.Turns offset g g' ∧ e.replacement.toList.all isBlank = true
  blank : (Text.replaceAll edit?.toList offset g).all isBlank = true
  count : (Text.replaceAll edit?.toList offset g).count '\n' - 1 = lines

theorem mended_none {offset lines : Nat} (hblank : g.all isBlank = true)
    (hlines : g.count '\n' - 1 = lines) : Mended s offset g none none lines := by
  have hnone : Text.replaceAll (none : Option Edit).toList offset g = g := Text.replaceAll_nil ..
  exact ⟨rfl, by simp, by rw [hnone, hblank], by rw [hnone, hlines]⟩

theorem mended_some {offset lines : Nat} {e : Edit} {g' : Text} (hblank : g.all isBlank = true)
    (hturns : e.Turns offset g g') (hput : e.replacement.toList.all isBlank = true)
    (hlines : g'.count '\n' - 1 = lines) (span : Span) (message description : String) :
    Mended s offset g (some ⟨span, message, lineFix? (some e) description⟩) (some e) lines := by
  refine ⟨rfl, fun e' he => ?_, ?_, ?_⟩
  · cases he
    exact ⟨g', hturns, hput⟩
  · rw [Option.toList_some, hturns.replaceAll_eq]
    exact hturns.all hblank hput
  · rw [Option.toList_some, hturns.replaceAll_eq]
    exact hlines

variable (htext : s.text = u ++ g ++ w) (hblank : g.all isBlank = true)
  (hreturn : u.getLast? = some '\r' → g.head? ≠ some '\n')
include htext hblank hreturn

theorem mended_collapse (hcomments : s.tokens.commentsBetween u.size (u ++ g).size = [])
    (span : Span) (message description : String) :
    Mended s u.size g
      (if s.text.hasBlankLineBetween u.size (u ++ g).size then
        some ⟨span, message, lineFix? (s.collapseBlankLines? u.size (u ++ g).size) description⟩
      else none)
      (if s.text.hasBlankLineBetween u.size (u ++ g).size then
        s.collapseBlankLines? u.size (u ++ g).size else none) 0 := by
  have hhas : s.text.hasBlankLineBetween u.size (u ++ g).size = true ↔ 2 ≤ g.count '\n' := by
    rw [htext, Text.hasBlankLineBetween_iff, Text.hasBlankLine_iff_of_blank hblank]
  split
  · rename_i hblankLine
    obtain ⟨e, g', hedit, hturns, hput, hcount⟩ := Source.exists_collapseBlankLines? htext hblank
      (hhas.1 hblankLine) hreturn hcomments
    rw [hedit]
    exact mended_some hblank hturns hput (by omega) span message description
  · rename_i hblankLine
    rw [hhas] at hblankLine
    exact mended_none hblank (by omega)

theorem mended_start (hcomments : s.tokens.commentsBetween u.size (u ++ g).size = []) {id : NodeId}
    {opening first : Token} (hopening : opening.span.stop = u.size)
    (hfirst : first.span.start = (u ++ g).size) :
    Mended s u.size g (checkStart s id opening first) (startEdit? s id opening first)
      (if hasMultilineParams s id then 1 else 0) := by
  have hlines : s.lineOf first.span.start - (s.lineOf opening.span.stop + 1) = g.count '\n' - 1 := by
    rw [hopening, hfirst, Source.lineOf, Source.lineOf, htext, Text.lineOf_left, Text.lineOf_right]
    omega
  unfold checkStart startEdit?
  dsimp only
  rw [hlines]
  split
  · split
    · rename_i hone
      exact mended_none hblank hone
    · rename_i hone
      obtain ⟨e, g', hedit, hturns, hput, hcount⟩ := exists_keepOneLine? htext hopening hfirst
        hreturn fun hcount => hone (by omega)
      rw [hedit]
      exact mended_some hblank hturns hput (by omega) _ _ _
  · rw [hopening, hfirst]
    exact mended_collapse htext hblank hreturn hcomments _ _ _

end Mending

section Loaded

variable {path : String} {text : Text} {doc : Json} (h : Source.ofDocument path text doc = .ok s)
  (hbraces : BracesApart s)
include h hbraces

theorem exists_split {gap : Gap} (hgap : gap ∈ gaps s) :
    ∃ u m w, s.text = u ++ m ++ w ∧ gap.span = ⟨u.size, (u ++ m).size⟩ ∧ m.all isBlank = true ∧
      Mended s u.size m gap.finding? gap.edit? gap.lines := by
  have htokenized := Source.tokenized_of_ofDocument h hbraces.tokens
  have hordered := htokenized.ordered
  obtain ⟨id, b, hb, hside⟩ := (mem_gaps (Source.wellLinked_of_ofDocument h)).1 hgap
  have hadjacent := adjacent_of_mem_gaps hordered (Source.wellLinked_of_ofDocument h) hgap
  obtain ⟨u, m, w, htext, hu, hm⟩ := Text.exists_append_of_boundaries
    (htokenized.boundary gap.left hadjacent.left).2
    (htokenized.boundary gap.right hadjacent.right).1 hadjacent.le
  have hblank := hbraces.blank gap.left gap.right (hadjacent.consecutive hordered)
  rw [← hu, ← hm, htext, Text.slice_append] at hblank
  have hreturn : u.getLast? = some '\r' → m.head? ≠ some '\n' := by
    intro hlast hhead
    obtain ⟨u', rfl⟩ := List.getLast?_eq_some_iff.1 hlast
    obtain ⟨m', rfl⟩ := List.head?_eq_some_iff.1 hhead
    refine hbraces.terminators gap.left hadjacent.left u' (m' ++ w) (by simp [htext]) ?_
    rw [← hu, Text.size_append]
    rfl
  have hcomments := hadjacent.commentsBetween_eq_nil hordered
  rw [← hu, ← hm] at hcomments
  refine ⟨u, m, w, htext, by rw [Gap.span, hu, hm], hblank, ?_⟩
  rcases hside with rfl | rfl
  · exact mended_start htext hblank hreturn hcomments hu.symm hm.symm
  · have hmended := mended_collapse htext hblank hreturn hcomments
      ⟨b.last.span.stop, b.closing.span.stop⟩ "Block must not end with a blank line."
      "Remove the blank line."
    rw [hu, hm] at hmended
    rw [hu]
    exact hmended

theorem apartGaps_gaps : ApartGaps s.text Gap.span Gap.edit? (gaps s) := by
  have hordered := (Source.tokenized_of_ofDocument h hbraces.tokens).ordered
  have hlinked := Source.wellLinked_of_ofDocument h
  have hnested := (Source.spanned_of_ofDocument h hbraces.tokens.apart).nested
  refine ⟨?_, ?_, ?_⟩
  · intro gap hgap
    obtain ⟨u, m, w, htext, hspan, -⟩ := exists_split h hbraces hgap
    rw [hspan, htext]
    exact Span.placed_between u m w
  · refine (pairwise_gaps hordered hlinked hnested hbraces).imp_of_mem fun {g g'} hg hg' hne => ?_
    exact (adjacent_of_mem_gaps hordered hlinked hg).apart hordered
      (adjacent_of_mem_gaps hordered hlinked hg') hne
  · intro gap hgap e he
    obtain ⟨u, m, w, htext, hspan, -, hmended⟩ := exists_split h hbraces hgap
    obtain ⟨g', hturns, -⟩ := hmended.turns e he
    rw [htext, hspan]
    exact ⟨hturns.placed, hturns.contains⟩

theorem map_safePatch?_run {options : Option Json}
    (hoptions : (rule.withOptions options).isSome = true) (files : FileSystem) {asked : FileCache} :
    (rule.run options files (.ofSource s) asked).map Diagnostic.safePatch? =
      ((gaps s).filterMap Gap.edit?).map fun e => some (Patch.single e) := by
  rw [run_eq hoptions, check_eq, List.map_map, List.map_filterMap, List.map_filterMap]
  refine List.filterMap_congr fun gap hgap => ?_
  obtain ⟨u, m, w, -, -, -, hmended⟩ := exists_split h hbraces hgap
  exact hmended.reported

theorem blankLinesBetween_replaceAll {gap : Gap} (hgap : gap ∈ gaps s) {edits : List Edit}
    (hedits : edits.Perm ((gaps s).filterMap Gap.edit?)) :
    (Text.replaceAll edits 0 s.text).blankLinesBetween (Edit.movedStop edits gap.left.span.stop)
      (Edit.movedStart edits gap.right.span.start) = gap.lines := by
  obtain ⟨u, m, w, htext, hspan, -, hmended⟩ := exists_split h hbraces hgap
  obtain ⟨hstop, hstart⟩ : gap.left.span.stop = u.size ∧ gap.right.span.start = (u ++ m).size :=
    Span.mk.inj hspan
  obtain ⟨x, z, hfixed, hx, hm⟩ := (apartGaps_gaps h hbraces).exists_between hgap hedits htext hstop
    hstart
  rw [hstop, hstart, ← hx, ← hm, hfixed, Text.blankLinesBetween_eq x z hmended.blank, hmended.count]

end Loaded

/-- One pass over the findings of a file as parsers see to it. All diagnostics of the rule have safe
fixes, no two of these intersect, and the pass accepts them in any order and leaves all characters but
blanks as they are. Afterwards no block ends with a blank line, and a block starts with one blank line
if it belongs to parameters on several lines and with none otherwise, unless the parentheses in the
head of its function are on several lines and those of the parameters are not. -/
theorem settles_iff {path : String} {text : Text} {doc : Json}
    (h : Source.ofDocument path text doc = .ok s) (hbraces : BracesApart s) {options : Option Json}
    (hoptions : (rule.withOptions options).isSome = true) (files : FileSystem)
    {asked : FileCache} {ds : List Diagnostic}
    (hds : ds.Perm (rule.run options files (.ofSource s) asked)) :
    FixPass.NoneCollides ds ∧
    ∃ fixed, FixPass.run text ds = .ok ⟨fixed, List.range ds.length, 0⟩ ∧
      (fixed.filter fun c => !isBlank c) = text.filter (fun c => !isBlank c) ∧
      ∀ id b, inner? s id = some b →
        fixed.blankLinesBetween (Edit.movedStop (FixPass.safeEdits ds) b.last.span.stop)
          (Edit.movedStart (FixPass.safeEdits ds) b.closing.span.start) = 0 ∧
        (fixed.blankLinesBetween (Edit.movedStop (FixPass.safeEdits ds) b.opening.span.stop)
            (Edit.movedStart (FixPass.safeEdits ds) b.first.span.start) =
              (if paramsSpanLines s id then 1 else 0) ↔
          (hasMultilineParams s id = true → paramsSpanLines s id = true)) := by
  have hlinked := Source.wellLinked_of_ofDocument h
  have hordered := (Source.tokenized_of_ofDocument h hbraces.tokens).ordered
  obtain ⟨rfl, -⟩ := Source.nested_of_ofDocument h
  have hgaps := apartGaps_gaps h hbraces
  have hpatches := (hds.map Diagnostic.safePatch?).trans
    (.of_eq (map_safePatch?_run h hbraces hoptions files))
  obtain ⟨hcollide, hedits, hrun⟩ := FixPass.settles_of_apartGaps hgaps hpatches
  refine ⟨hcollide, _, hrun, ?_, ?_⟩
  · refine hgaps.filter_replaceAll hedits _ ?_
    intro gap hgap e he
    obtain ⟨u, m, w, htext, hspan, hblank, hmended⟩ := exists_split h hbraces hgap
    obtain ⟨g', hturns, hput⟩ := hmended.turns e he
    have hsub := hturns.slice_sublist (w := w)
    rw [← htext] at hsub
    rw [List.all_eq_true] at hblank hput
    simp only [List.filter_eq_nil_iff, Bool.not_eq_true', Bool.not_eq_false]
    exact ⟨fun c hc => hblank c (hsub.subset hc), hput⟩
  · intro id b hb
    have hstop := blankLinesBetween_replaceAll h hbraces
      ((mem_gaps hlinked).2 ⟨id, b, hb, .inr rfl⟩) hedits
    have hstart := blankLinesBetween_replaceAll h hbraces
      ((mem_gaps hlinked).2 ⟨id, b, hb, .inl rfl⟩) hedits
    refine ⟨hstop, ?_⟩
    simp only [Inner.startGap] at hstart
    rw [hstart]
    have hspan : paramsSpanLines s id = true → hasMultilineParams s id = true :=
      hasMultilineParams_of_paramsSpanLines hordered
    cases hparams : paramsSpanLines s id with
    | true => simp [hspan hparams]
    | false => cases hasMultilineParams s id <;> simp

/-! A block inside the body of a function whose parentheses are on different lines. -/

def tokenDocument (type : String) (start stop : Nat) : Json :=
  .obj [("range", .arr [.nat start, .nat stop]), ("type", .str type)]

def nestedDocument : Json := .obj [
  ("body", .arr [.obj [
    ("body", .obj [
      ("body", .arr [.obj [
        ("body", .arr [.obj [("range", .arr [.nat 19, .nat 20]), ("type", .str "EmptyStatement")]]),
        ("range", .arr [.nat 16, .nat 22]), ("type", .str "BlockStatement")]]),
      ("range", .arr [.nat 14, .nat 23]), ("type", .str "BlockStatement")]),
    ("id", .obj [("name", .str "f"), ("range", .arr [.nat 9, .nat 10]),
      ("type", .str "Identifier")]),
    ("params", .arr []), ("range", .arr [.nat 0, .nat 23]),
    ("type", .str "FunctionDeclaration")]]),
  ("comments", .arr []), ("sourceType", .str "script"),
  ("tokens", .arr [tokenDocument "Keyword" 0 8, tokenDocument "Identifier" 9 10,
    tokenDocument "Punctuator" 10 11, tokenDocument "Punctuator" 12 13,
    tokenDocument "Punctuator" 14 15, tokenDocument "Punctuator" 16 17,
    tokenDocument "Punctuator" 19 20, tokenDocument "Punctuator" 21 22,
    tokenDocument "Punctuator" 22 23]),
  ("type", .str "Program")]

def nestedSource : Source where
  path := "a.js"
  text := "function f(\n) \x7b\n\x7b\n\n;\n\x7d\x7d".toList
  tree :=
    { nodes := #[
        ⟨.emptyStatement, ⟨19, 20⟩⟩,
        ⟨.blockStatement [0], ⟨16, 22⟩⟩,
        ⟨.blockStatement [1], ⟨14, 23⟩⟩,
        ⟨.identifier "f" none false, ⟨9, 10⟩⟩,
        ⟨.functionDeclaration ⟨some 3, [], 2, false, false⟩, ⟨0, 23⟩⟩,
        ⟨.program [4] .script, ⟨0, 23⟩⟩]
      children := #[[], [0], [1], [], [3, 2], [4]]
      parents := #[some 1, some 2, some 4, some 4, some 5, none]
      root := 5 }
  tokens :=
    let all := #[
      ⟨.keyword, ⟨0, 8⟩, "function".toList⟩, ⟨.identifier, ⟨9, 10⟩, ['f']⟩,
      ⟨.punctuator, ⟨10, 11⟩, ['(']⟩, ⟨.punctuator, ⟨12, 13⟩, [')']⟩,
      ⟨.punctuator, ⟨14, 15⟩, ['\x7b']⟩, ⟨.punctuator, ⟨16, 17⟩, ['\x7b']⟩,
      ⟨.punctuator, ⟨19, 20⟩, [';']⟩, ⟨.punctuator, ⟨21, 22⟩, ['\x7d']⟩,
      ⟨.punctuator, ⟨22, 23⟩, ['\x7d']⟩]
    ⟨all, all⟩

theorem ofDocument_nested :
    Source.ofDocument "a.js" nestedSource.text nestedDocument = .ok nestedSource := by
  have hload : Loader.load nestedSource.text nestedDocument = .ok nestedSource.tree.nodes := by
    decide +kernel
  have htree : Tree.ofNodes nestedSource.tree.nodes 5 = .ok nestedSource.tree := by cbv
  have htokens : TokenIndex.ofList (Loader.tokens nestedSource.text nestedDocument) =
      nestedSource.tokens := by cbv
  rw [Source.ofDocument_eq "a.js" hload htree, htokens]
  rfl

theorem settles_iff_nested :
    let ds := rule.run none MemoryFiles.empty.access (.ofSource nestedSource)
    Source.ofDocument "a.js" nestedSource.text nestedDocument = .ok nestedSource ∧
    BracesApart nestedSource ∧ (rule.withOptions none).isSome = true ∧
    FixPass.NoneCollides ds ∧
    ∃ fixed, FixPass.run nestedSource.text ds = .ok ⟨fixed, [0, 1], 0⟩ ∧
      fixed.blankLinesBetween (Edit.movedStop (FixPass.safeEdits ds) 15)
        (Edit.movedStart (FixPass.safeEdits ds) 16) = 1 ∧
      fixed.blankLinesBetween (Edit.movedStop (FixPass.safeEdits ds) 17)
        (Edit.movedStart (FixPass.safeEdits ds) 19) = 0 := by
  intro ds
  have hbraces : BracesApart nestedSource :=
    bracesApart_of_checked ⟨by decide, by decide⟩ (by decide) (by decide +kernel) (by decide +kernel)
  obtain ⟨hcollide, fixed, hrun, -, hlines⟩ := settles_iff ofDocument_nested hbraces
    (show (rule.withOptions none).isSome = true from rfl) MemoryFiles.empty.access (.refl _)
  have hlength : (rule.run none MemoryFiles.empty.access (.ofSource nestedSource)).length = 2 := by
    decide +kernel
  rw [hlength] at hrun
  have houter : inner? nestedSource 2 = some ⟨⟨.punctuator, ⟨14, 15⟩, ['\x7b']⟩,
      ⟨.punctuator, ⟨16, 17⟩, ['\x7b']⟩, ⟨.punctuator, ⟨21, 22⟩, ['\x7d']⟩,
      ⟨.punctuator, ⟨22, 23⟩, ['\x7d']⟩⟩ := by
    decide +kernel
  have hinner : inner? nestedSource 1 = some ⟨⟨.punctuator, ⟨16, 17⟩, ['\x7b']⟩,
      ⟨.punctuator, ⟨19, 20⟩, [';']⟩, ⟨.punctuator, ⟨19, 20⟩, [';']⟩,
      ⟨.punctuator, ⟨21, 22⟩, ['\x7d']⟩⟩ := by
    decide +kernel
  have hspread : paramsSpanLines nestedSource 2 = true := by decide +kernel
  have hsingle : hasMultilineParams nestedSource 1 = false := by decide
  have hsingle' : paramsSpanLines nestedSource 1 = false := by decide
  have hone := (hlines 2 _ houter).2.2 fun _ => hspread
  have hnone := (hlines 1 _ hinner).2.2 fun hspan => by simp [hsingle] at hspan
  rw [hspread] at hone
  rw [hsingle'] at hnone
  exact ⟨ofDocument_nested, hbraces, rfl, hcollide, fixed, hrun, hone, hnone⟩

/-! A function on one line apart from the type of its result. -/

def resultDocument : Json := .obj [
  ("body", .arr [.obj [
    ("body", .obj [
      ("body", .arr [.obj [
        ("expression", .obj [
          ("arguments", .arr []),
          ("callee", .obj [("name", .str "g"), ("range", .arr [.nat 26, .nat 27]),
            ("type", .str "Identifier")]),
          ("range", .arr [.nat 26, .nat 29]), ("type", .str "CallExpression")]),
        ("range", .arr [.nat 26, .nat 30]), ("type", .str "ExpressionStatement")]]),
      ("range", .arr [.nat 23, .nat 32]), ("type", .str "BlockStatement")]),
    ("id", .obj [("name", .str "f"), ("range", .arr [.nat 9, .nat 10]),
      ("type", .str "Identifier")]),
    ("params", .arr []), ("range", .arr [.nat 0, .nat 32]),
    ("returnType", .obj [("range", .arr [.nat 12, .nat 22]), ("type", .str "TSTypeAnnotation"),
      ("typeAnnotation", .obj [
        ("params", .arr []), ("range", .arr [.nat 14, .nat 22]),
        ("returnType", .obj [("range", .arr [.nat 18, .nat 22]), ("type", .str "TSTypeAnnotation"),
          ("typeAnnotation", .obj [("range", .arr [.nat 21, .nat 22]),
            ("type", .str "TSTypeReference"),
            ("typeName", .obj [("name", .str "T"), ("range", .arr [.nat 21, .nat 22]),
              ("type", .str "Identifier")])])]),
        ("type", .str "TSFunctionType")])]),
    ("type", .str "FunctionDeclaration")]]),
  ("comments", .arr []), ("sourceType", .str "script"),
  ("tokens", .arr [tokenDocument "Keyword" 0 8, tokenDocument "Identifier" 9 10,
    tokenDocument "Punctuator" 10 11, tokenDocument "Punctuator" 11 12,
    tokenDocument "Punctuator" 12 13, tokenDocument "Punctuator" 14 15,
    tokenDocument "Punctuator" 16 17, tokenDocument "Punctuator" 18 20,
    tokenDocument "Identifier" 21 22, tokenDocument "Punctuator" 23 24,
    tokenDocument "Identifier" 26 27, tokenDocument "Punctuator" 27 28,
    tokenDocument "Punctuator" 28 29, tokenDocument "Punctuator" 29 30,
    tokenDocument "Punctuator" 31 32]),
  ("type", .str "Program")]

def resultSource : Source where
  path := "a.ts"
  text := "function f(): (\n) => T \x7b\n\tg();\n\x7d".toList
  tree :=
    { nodes := #[
        ⟨.identifier "g" none false, ⟨26, 27⟩⟩,
        ⟨.callExpression 0 [] false, ⟨26, 29⟩⟩,
        ⟨.expressionStatement 1 none, ⟨26, 30⟩⟩,
        ⟨.blockStatement [2], ⟨23, 32⟩⟩,
        ⟨.identifier "f" none false, ⟨9, 10⟩⟩,
        ⟨.functionDeclaration ⟨some 4, [], 3, false, false⟩, ⟨0, 32⟩⟩,
        ⟨.program [5] .script, ⟨0, 32⟩⟩]
      children := #[[], [0], [1], [2], [], [4, 3], [5]]
      parents := #[some 1, some 2, some 3, some 5, some 5, some 6, none]
      root := 6 }
  tokens :=
    let all := #[
      ⟨.keyword, ⟨0, 8⟩, "function".toList⟩, ⟨.identifier, ⟨9, 10⟩, ['f']⟩,
      ⟨.punctuator, ⟨10, 11⟩, ['(']⟩, ⟨.punctuator, ⟨11, 12⟩, [')']⟩,
      ⟨.punctuator, ⟨12, 13⟩, [':']⟩, ⟨.punctuator, ⟨14, 15⟩, ['(']⟩,
      ⟨.punctuator, ⟨16, 17⟩, [')']⟩, ⟨.punctuator, ⟨18, 20⟩, ['=', '>']⟩,
      ⟨.identifier, ⟨21, 22⟩, ['T']⟩, ⟨.punctuator, ⟨23, 24⟩, ['\x7b']⟩,
      ⟨.identifier, ⟨26, 27⟩, ['g']⟩, ⟨.punctuator, ⟨27, 28⟩, ['(']⟩,
      ⟨.punctuator, ⟨28, 29⟩, [')']⟩, ⟨.punctuator, ⟨29, 30⟩, [';']⟩,
      ⟨.punctuator, ⟨31, 32⟩, ['\x7d']⟩]
    ⟨all, all⟩

theorem ofDocument_result :
    Source.ofDocument "a.ts" resultSource.text resultDocument = .ok resultSource := by
  have hload : Loader.load resultSource.text resultDocument = .ok resultSource.tree.nodes := by
    decide +kernel
  have htree : Tree.ofNodes resultSource.tree.nodes 6 = .ok resultSource.tree := by cbv
  have htokens : TokenIndex.ofList (Loader.tokens resultSource.text resultDocument) =
      resultSource.tokens := by cbv
  rw [Source.ofDocument_eq "a.ts" hload htree, htokens]
  rfl

/-- The parentheses of the type are taken for those of the parameters, and a block that was right
starts with a blank line afterwards. -/
theorem blank_line_below_result :
    let ds := rule.run none MemoryFiles.empty.access (.ofSource resultSource)
    Source.ofDocument "a.ts" resultSource.text resultDocument = .ok resultSource ∧
    BracesApart resultSource ∧
    ∃ b fixed, inner? resultSource 3 = some b ∧ paramsSpanLines resultSource 3 = false ∧
      FixPass.run resultSource.text ds = .ok ⟨fixed, [0], 0⟩ ∧
      fixed.blankLinesBetween (Edit.movedStop (FixPass.safeEdits ds) b.opening.span.stop)
        (Edit.movedStart (FixPass.safeEdits ds) b.first.span.start) = 1 := by
  intro ds
  have hbraces : BracesApart resultSource :=
    bracesApart_of_checked ⟨by decide, by decide⟩ (by decide) (by decide +kernel) (by decide +kernel)
  have hinner : inner? resultSource 3 = some ⟨⟨.punctuator, ⟨23, 24⟩, ['\x7b']⟩,
      ⟨.identifier, ⟨26, 27⟩, ['g']⟩, ⟨.punctuator, ⟨29, 30⟩, [';']⟩,
      ⟨.punctuator, ⟨31, 32⟩, ['\x7d']⟩⟩ := by
    decide +kernel
  obtain ⟨-, -, hrun⟩ := FixPass.settles_of_apartGaps
    (apartGaps_gaps ofDocument_result hbraces)
    (.of_eq (map_safePatch?_run ofDocument_result hbraces
      (show (rule.withOptions none).isSome = true from rfl) MemoryFiles.empty.access))
  have hlength : (rule.run none MemoryFiles.empty.access (.ofSource resultSource)).length = 1 := by
    decide +kernel
  rw [hlength] at hrun
  refine ⟨ofDocument_result, hbraces, _, _, hinner, by decide +kernel, hrun, ?_⟩
  decide +kernel

end BlockPadding

end ScriptLint
