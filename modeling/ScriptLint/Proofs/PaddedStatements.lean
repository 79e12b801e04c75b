import ScriptLint.Files.Memory
import ScriptLint.Proofs.BlankLineEdits
import ScriptLint.Proofs.CheckedGaps
import ScriptLint.Proofs.Enclosure
import ScriptLint.Proofs.FittingFixes

/-! Blank lines around statements on several lines. The gaps between neighbouring statements do not
touch, however the statement lists are nested, so the rule's fixes go together; each of them leaves
its gap with a blank line and takes nothing but white space out. -/
namespace ScriptLint

namespace Text

theorem exists_append_of_isBoundary {u m w : Text} {n : Nat}
    (h : (u ++ m ++ w).isBoundary n = true) (hstart : u.size ≤ n) (hstop : n ≤ (u ++ m).size) :
    ∃ m₁ m₂, m = m₁ ++ m₂ ∧ (u ++ m₁).size = n := by
  have hinside := Patch.isBoundary_of_append h hstop
  obtain ⟨x, m₁, m₂, hsplit, hx, hn⟩ := exists_append_of_boundaries
    (isBoundary_iff.2 ⟨u, m, rfl, rfl⟩) hinside hstart
  rw [List.append_assoc] at hsplit
  obtain ⟨rfl, rfl⟩ := append_inj_of_size hsplit hx.symm
  exact ⟨m₁, m₂, rfl, hn⟩

end Text

def neighbours {α : Type} (l : List α) : List (α × α) := l.zip l.tail

theorem mem_neighbours {α : Type} {l : List α} {a b : α} :
    (a, b) ∈ neighbours l ↔ [a, b] <:+: l := by
  induction l with
  | nil => simp [neighbours]
  | cons x l ih =>
    cases l with
    | nil => simp [neighbours, List.infix_cons_iff]
    | cons y l =>
      have hcons : neighbours (x :: y :: l) = (x, y) :: neighbours (y :: l) := rfl
      have hinfix : [a, b] <:+: x :: y :: l ↔ [a, b] <+: x :: y :: l ∨ [a, b] <:+: y :: l :=
        List.infix_cons_iff
      rw [hcons, List.mem_cons, ih, hinfix]
      simp

namespace Source

structure Blank (white : Char → Bool) (s : Source) (first last : Nat) : Prop where
  text : ∀ (u : Text) c v, s.text = u ++ c :: v → first ≤ u.size → u.size < last → white c = true ∨
    ∃ t ∈ s.tokens.all, t.isComment = true ∧ first ≤ t.span.start ∧ t.span.start ≤ u.size ∧
      u.size < t.span.stop ∧ t.span.stop ≤ last
  nodes : ∀ n, (s.tree.span n).start < (s.tree.span n).stop →
    (s.tree.span n).start < first ∨ last < (s.tree.span n).stop

/-- What a parser sees to: tokens do not overlap, and statements are not empty, are in source order
and have only white space and comments between them. -/
structure StatementsApart (white : Char → Bool) (s : Source) : Prop where
  tokens : s.tokens.all.toList.Pairwise fun a b =>
    a.span.stop ≤ b.span.start ∨ b.span.stop ≤ a.span.start
  nonempty : ∀ id statements, (s.tree.kind id).statements? = some statements →
    ∀ a ∈ statements, (s.tree.span a).start < (s.tree.span a).stop
  ordered : ∀ id statements, (s.tree.kind id).statements? = some statements →
    statements.Pairwise fun a b => (s.tree.span a).start ≤ (s.tree.span b).start
  separated : ∀ id statements, (s.tree.kind id).statements? = some statements →
    ∀ a b, [a, b] <:+: statements → s.Blank white (s.tree.span a).stop (s.tree.span b).start

/-- For a given source it is enough to look at each character and each node. -/
theorem blank_of_checked {white : Char → Bool} {s : Source} {first last : Nat}
    (htext : ∀ n < s.text.length, first ≤ Text.size (s.text.take n) →
      Text.size (s.text.take n) < last → (s.text[n]?).all white = true ∨
        (s.tokens.all.any fun t => t.isComment && decide (first ≤ t.span.start ∧
          t.span.start ≤ Text.size (s.text.take n) ∧ Text.size (s.text.take n) < t.span.stop ∧
          t.span.stop ≤ last)) = true)
    (hnodes : ∀ n < s.tree.size, (s.tree.span n).start < (s.tree.span n).stop →
      (s.tree.span n).start < first ∨ last < (s.tree.span n).stop) :
    s.Blank white first last := by
  refine ⟨fun u c v hsplit hfirst hlast => ?_, fun n hn => ?_⟩
  · have htake : s.text.take u.length = u := by rw [hsplit, List.take_left]
    have hget : s.text[u.length]? = some c := by simp [hsplit]
    have := htext u.length (by simp [hsplit])
    rw [htake, hget, Option.all_some, Array.any_eq_true'] at this
    simpa only [Bool.and_eq_true, decide_eq_true_eq] using this hfirst hlast
  · refine hnodes n (Nat.lt_of_not_le fun hle => ?_) hn
    simp [Tree.span, Tree.node, Array.getElem?_eq_none hle, Node.missing] at hn

end Source

namespace PaddingAroundMultiline

variable {s : Source}

def pairs (s : Source) : List (NodeId × NodeId) :=
  s.tree.preorder.flatMap fun id => ((s.tree.kind id).statements?.map neighbours).getD []

def between (s : Source) (pair : NodeId × NodeId) : Span :=
  ⟨(s.tree.span pair.1).stop, (s.tree.span pair.2).start⟩

def lacksPadding (s : Source) (pair : NodeId × NodeId) : Bool :=
  (needsPadding s pair.1 || needsPadding s pair.2) &&
    !s.text.hasBlankLineBetween (between s pair).start (between s pair).stop

def padding? (s : Source) (pair : NodeId × NodeId) : Option Edit :=
  if lacksPadding s pair then
    let ends := gap s (between s pair).start (between s pair).stop
    s.ensureBlankLine? ends.1 ends.2
  else none

theorem checkPair_eq (a b : NodeId) :
    checkPair s a b = if lacksPadding s (a, b) then
      some ⟨s.tree.span b, "Expected a blank line between a multi-line statement and its neighbour.",
        lineFix? (padding? s (a, b)) "Insert a blank line."⟩ else none := by
  cases hlacks : lacksPadding s (a, b) with
  | true =>
    rw [padding?, hlacks]
    simp only [lacksPadding, between, Bool.and_eq_true, Bool.not_eq_true'] at hlacks
    rw [checkPair, hlacks.1, hlacks.2]
    rfl
  | false =>
    simp only [lacksPadding, between, Bool.and_eq_false_iff, Bool.not_eq_false'] at hlacks
    rw [checkPair, if_pos]
    · rfl
    · rcases hlacks with hlacks | hlacks <;> simp [hlacks]

theorem checkPairs_eq (statements : List NodeId) :
    checkPairs s statements = (neighbours statements).filterMap fun p => checkPair s p.1 p.2 := by
  fun_induction checkPairs s statements with
  | case1 a b rest ih =>
    have hcons : neighbours (a :: b :: rest) = (a, b) :: neighbours (b :: rest) := rfl
    rw [hcons, ih]
    cases hpair : checkPair s a b <;> simp [hpair]
  | case2 statements hshort =>
    cases statements with
    | nil => rfl
    | cons a rest =>
      cases rest with
      | nil => rfl
      | cons b rest => exact absurd rfl (hshort a b rest)

theorem check_eq (files : FileSystem) :
    check () files (.ofSource s) = (pairs s).filterMap fun p => checkPair s p.1 p.2 := by
  rw [check, pairs, List.filterMap_flatMap]
  refine List.flatMap_congr fun id _ => ?_
  have htree : (SourceFile.ofSource s).tree = s.tree := rfl
  rw [htree]
  cases (s.tree.kind id).statements? with
  | none => rfl
  | some statements => exact checkPairs_eq statements

theorem run_eq {options : Option Json} (hoptions : (rule.withOptions options).isSome = true)
    (files : FileSystem) (asked : FileCache) :
    rule.run options files (.ofSource s) asked =
      (check () files (.ofSource s)).map (s.diagnose rule.info.id) :=
  Rule.run_of_noOptions hoptions files (.ofSource s) asked

theorem mem_pairs (h : s.tree.WellLinked) {pair : NodeId × NodeId} (hpair : pair ∈ pairs s) :
    ∃ id : Nat, id < s.tree.size ∧ ∃ statements, (s.tree.kind id).statements? = some statements ∧
      [pair.1, pair.2] <:+: statements := by
  obtain ⟨id, hid, hpair⟩ := List.mem_flatMap.1 hpair
  cases hstatements : (s.tree.kind id).statements? with
  | none => simp [hstatements] at hpair
  | some statements =>
    rw [hstatements, Option.map_some, Option.getD_some] at hpair
    exact ⟨id, h.mem_preorder.1 hid, statements, hstatements, mem_neighbours.1 hpair⟩

theorem mem_pairs_of (h : s.tree.WellLinked) {id : Nat} {statements : List NodeId}
    (hid : id < s.tree.size) (hstatements : (s.tree.kind id).statements? = some statements)
    {a b : NodeId} (hab : [a, b] <:+: statements) : (a, b) ∈ pairs s := by
  refine List.mem_flatMap.2 ⟨id, h.mem_preorder.2 hid, ?_⟩
  rw [hstatements, Option.map_some, Option.getD_some]
  exact mem_neighbours.2 hab

/-! Gaps do not touch. -/

section Apart

variable {white : Char → Bool} (h : s.tree.WellLinked) (hnested : s.tree.Nested s.text)
  (hlaid : s.StatementsApart white)
  (hordered : ∀ id statements, (s.tree.kind id).statements? = some statements →
    statements.Pairwise fun a b => (s.tree.span a).stop ≤ (s.tree.span b).start)

include hlaid in
theorem pairwise_neighbours {id : NodeId} {statements : List NodeId}
    (hstatements : (s.tree.kind id).statements? = some statements) {part : List NodeId}
    (hsub : part ⊆ statements)
    (hpart : part.Pairwise fun a b => (s.tree.span a).stop ≤ (s.tree.span b).start) :
    (neighbours part).Pairwise fun p q => (between s p).stop < (between s q).start := by
  induction part with
  | nil => exact .nil
  | cons a part ih =>
    cases part with
    | nil => exact .nil
    | cons b rest =>
      have hcons : neighbours (a :: b :: rest) = (a, b) :: neighbours (b :: rest) := rfl
      rw [hcons]
      refine List.pairwise_cons.2 ⟨?_, ih (List.subset_of_cons_subset hsub) hpart.of_cons⟩
      intro q hq
      have hmem : q.1 ∈ b :: rest := (List.of_mem_zip hq).1
      have hb := hlaid.nonempty id statements hstatements b (hsub (by simp))
      have hq := hlaid.nonempty id statements hstatements q.1
        (hsub (List.mem_cons_of_mem _ hmem))
      change (s.tree.span b).start < (s.tree.span q.1).stop
      rcases List.mem_cons.1 hmem with heq | hmem
      · rw [heq]
        exact hb
      · have := List.rel_of_pairwise_cons hpart.of_cons hmem
        omega

include h in
theorem mem_childrenOf_of_statements? {id : NodeId} {statements : List NodeId}
    (hstatements : (s.tree.kind id).statements? = some statements) {a : NodeId}
    (ha : a ∈ statements) : a ∈ s.tree.childrenOf id := by
  rw [(h.perm id).mem_iff, ← (s.tree.kind id).children_perm_inReadingOrder.mem_iff]
  exact (NodeKind.sublist_of_statements? hstatements).subset ha

structure IsPair (s : Source) (id a b : NodeId) : Prop where
  child_left : a ∈ s.tree.childrenOf id
  child_right : b ∈ s.tree.childrenOf id
  left : (s.tree.span a).start < (s.tree.span a).stop
  right : (s.tree.span b).start < (s.tree.span b).stop
  le : (s.tree.span a).stop ≤ (s.tree.span b).start
  free : ∀ n, (s.tree.span n).start < (s.tree.span n).stop →
    (s.tree.span n).start < (s.tree.span a).stop ∨ (s.tree.span b).start < (s.tree.span n).stop

include h hlaid hordered in
theorem isPair_of_adjacent {id : NodeId} {statements : List NodeId}
    (hstatements : (s.tree.kind id).statements? = some statements) {a b : NodeId}
    (hab : [a, b] <:+: statements) : IsPair s id a b := by
  have ha : a ∈ statements := hab.subset (by simp)
  have hb : b ∈ statements := hab.subset (by simp)
  have hsub := (hordered id statements hstatements).sublist hab.sublist
  exact ⟨mem_childrenOf_of_statements? h hstatements ha,
    mem_childrenOf_of_statements? h hstatements hb,
    hlaid.nonempty id statements hstatements a ha, hlaid.nonempty id statements hstatements b hb,
    List.rel_of_pairwise_cons hsub (by simp),
    (hlaid.separated id statements hstatements a b hab).nodes⟩

include hnested in
/-- A child that is not empty ends with the first of two neighbours, or starts with the second. -/
theorem IsPair.beside {id a b x : NodeId} (hpair : IsPair s id a b)
    (hx : x ∈ s.tree.childrenOf id) (hne : (s.tree.span x).start < (s.tree.span x).stop) :
    (s.tree.span x).stop ≤ (s.tree.span a).stop ∨ (s.tree.span b).start ≤ (s.tree.span x).start := by
  by_cases hxa : x = a
  · rw [hxa]
    exact .inl (Nat.le_refl _)
  by_cases hxb : x = b
  · rw [hxb]
    exact .inr (Nat.le_refl _)
  have hleft := pairwise_or (hnested.apart id) hx hpair.child_left hxa
  have hright := pairwise_or (hnested.apart id) hx hpair.child_right hxb
  have hfree := hpair.free x hne
  have := hpair.left
  have := hpair.right
  omega

include h hnested in
theorem IsPair.apart_of_under {id id' a b c d : NodeId} (hab : IsPair s id a b)
    (hcd : IsPair s id' c d) (hunder : s.tree.Under id id') (hne : id ≠ id') :
    (s.tree.span b).start < (s.tree.span c).stop ∨ (s.tree.span d).start < (s.tree.span a).stop := by
  obtain ⟨x, hx, hbelow⟩ := Tree.Under.exists_child h hunder hne
  have hinside := Tree.Under.inside h hnested hbelow
  have ha := hnested.inside id a hab.child_left
  have hb := hnested.inside id b hab.child_right
  simp only [Span.contains, Bool.and_eq_true, decide_eq_true_eq] at ha hb
  have := hab.left
  have := hab.right
  have := hab.le
  have hbeside := hcd.beside hnested hx (by omega)
  omega

include h hnested in
theorem IsPair.apart {id id' : Nat} (hid : id < s.tree.size) (hid' : id' < s.tree.size)
    (hne : id ≠ id') {a b c d : NodeId} (hab : IsPair s id a b) (hcd : IsPair s id' c d) :
    (s.tree.span b).start < (s.tree.span c).stop ∨ (s.tree.span d).start < (s.tree.span a).stop := by
  have ha := hnested.inside id a hab.child_left
  have hb := hnested.inside id b hab.child_right
  have hc := hnested.inside id' c hcd.child_left
  have hd := hnested.inside id' d hcd.child_right
  simp only [Span.contains, Bool.and_eq_true, decide_eq_true_eq] at ha hb hc hd
  have := hab.left
  have := hab.right
  have := hcd.left
  have := hcd.right
  rcases Tree.under_or_apart h hnested hid hid' with hunder | hunder | hbefore | hbehind
  · exact hab.apart_of_under h hnested hcd hunder hne
  · exact (hcd.apart_of_under h hnested hab hunder (Ne.symm hne)).symm
  · left
    omega
  · right
    omega

include h hnested hlaid hordered in
theorem pairwise_pairs : (pairs s).Pairwise fun p q =>
    (between s p).stop < (between s q).start ∨ (between s q).stop < (between s p).start := by
  refine List.pairwise_flatMap.2 ⟨?_, ?_⟩
  · intro id _
    cases hstatements : (s.tree.kind id).statements? with
    | none => exact .nil
    | some statements =>
      exact (pairwise_neighbours hlaid hstatements (List.Subset.refl _)
        (hordered id statements hstatements)).imp .inl
  · have hnodup : s.tree.preorder.Nodup :=
      h.preorder_perm_range.nodup_iff.2 List.nodup_range
    refine hnodup.imp_of_mem fun {id id'} hid hid' hne p hp q hq => ?_
    cases hstatements : (s.tree.kind id).statements? with
    | none => simp [hstatements] at hp
    | some statements =>
      cases hstatements' : (s.tree.kind id').statements? with
      | none => simp [hstatements'] at hq
      | some statements' =>
        rw [hstatements, Option.map_some, Option.getD_some] at hp
        rw [hstatements', Option.map_some, Option.getD_some] at hq
        exact IsPair.apart h hnested (h.mem_preorder.1 hid) (h.mem_preorder.1 hid') hne
          (isPair_of_adjacent h hlaid hordered hstatements (mem_neighbours.1 hp))
          (isPair_of_adjacent h hlaid hordered hstatements' (mem_neighbours.1 hq))

end Apart

/-! One gap. -/

section Gap

variable {white : Char → Bool} {u m w : Text}

theorem exists_gap (h : s.Spanned) (htext : s.text = u ++ m ++ w)
    (hblank : s.Blank white u.size (u ++ m).size) :
    ∃ c₁ g c₂, m = c₁ ++ g ++ c₂ ∧
      gap s u.size (u ++ m).size = ((u ++ c₁).size, (u ++ c₁ ++ g).size) ∧ g.all white = true := by
  have hsize := Text.size_append u m
  have hspan : Span.Placed s.text ⟨u.size, (u ++ m).size⟩ := htext ▸ Span.placed_between u m w
  have hgap := isGap_gap h hspan
  obtain ⟨⟨hle, hstart, hstop⟩, hfirst, hnext, hcomments⟩ := hgap
  generalize gap s u.size (u ++ m).size = ends at *
  obtain ⟨start, stop⟩ := ends
  dsimp only at hle hstart hstop hfirst hnext hcomments
  rw [htext] at hstart hstop
  obtain ⟨c₁, rest, rfl, hc₁⟩ := Text.exists_append_of_isBoundary hstart hfirst (by omega)
  have hstop' : (u ++ c₁ ++ rest ++ w).isBoundary stop = true := by
    rwa [List.append_assoc u c₁ rest]
  obtain ⟨g, c₂, rfl, hg⟩ := Text.exists_append_of_isBoundary hstop' (by omega)
    (by rw [List.append_assoc u c₁ rest]; omega)
  refine ⟨c₁, g, c₂, by simp, by rw [hc₁, hg], ?_⟩
  rw [List.all_eq_true]
  intro c hc
  obtain ⟨g₁, g₂, rfl⟩ := List.append_of_mem hc
  have hoffset : (u ++ c₁ ++ g₁).size + c.utf8Size ≤ stop := by
    rw [← hg, ← List.append_assoc, Text.size_append _ (c :: g₂), Text.size_cons]
    omega
  have hlower : (u ++ c₁).size ≤ (u ++ c₁ ++ g₁).size := by
    rw [Text.size_append _ g₁]
    omega
  have hc := c.utf8Size_pos
  rcases hblank.text (u ++ c₁ ++ g₁) c (g₂ ++ c₂ ++ w) (by rw [htext]; simp) (by omega) (by omega)
    with hwhite | ⟨t, ht, hcomment, ht₁, ht₂, ht₃, ht₄⟩
  · exact hwhite
  · have := hcomments t ht hcomment ht₁ ht₄
    omega

theorem exists_padding? (h : s.Spanned) (htext : s.text = u ++ m ++ w) {pair : NodeId × NodeId}
    (hpair : between s pair = ⟨u.size, (u ++ m).size⟩)
    (hblank : s.Blank white u.size (u ++ m).size) (hlacks : lacksPadding s pair = true) :
    ∃ e m', padding? s pair = some e ∧ e.Turns u.size m m' ∧ m'.HasBlankLine ∧
      e.replacement.toList.all isBlank = true ∧
      (s.text.slice e.span.start e.span.stop).all white = true := by
  obtain ⟨c₁, g, c₂, rfl, hgap, hg⟩ := exists_gap h htext hblank
  have hnone : ¬g.HasBlankLine := by
    intro hhas
    rw [lacksPadding, hpair, Bool.and_eq_true, Bool.not_eq_true', htext] at hlacks
    rw [(Text.hasBlankLineBetween_iff u (c₁ ++ g ++ c₂) w).2 (hhas.extend c₁ c₂)] at hlacks
    exact absurd hlacks.2 (by simp)
  have htext' : s.text = u ++ c₁ ++ g ++ (c₂ ++ w) := by rw [htext]; simp
  obtain ⟨e, g', hedit, hturns, hhas, hreplacement, -⟩ :=
    Source.exists_ensureBlankLine? htext' hnone
  refine ⟨e, c₁ ++ g' ++ c₂, ?_, ?_, hhas.extend c₁ c₂, hreplacement, ?_⟩
  · rw [padding?, if_pos hlacks, hpair]
    dsimp only
    rw [hgap]
    exact hedit
  · rw [Text.size_append] at hturns
    exact hturns.extend c₂
  · have hsub := hturns.slice_sublist (w := c₂ ++ w)
    rw [← htext'] at hsub
    rw [List.all_eq_true] at hg ⊢
    exact fun c hc => hg c (hsub.subset hc)

end Gap

section Loaded

variable {white : Char → Bool} {path : String} {text : Text} {doc : Json}
  (h : Source.ofDocument path text doc = .ok s) (hlaid : s.StatementsApart white)
include h hlaid

theorem pairwise_stop_le {id : NodeId} {statements : List NodeId}
    (hid : (s.tree.kind id).statements? = some statements) :
    statements.Pairwise fun a b => (s.tree.span a).stop ≤ (s.tree.span b).start :=
  Source.pairwise_apart_of_ofDocument h (NodeKind.sublist_of_statements? hid)
    (hlaid.ordered id statements hid)

theorem exists_split {pair : NodeId × NodeId} (hpair : pair ∈ pairs s) :
    ∃ u m w, s.text = u ++ m ++ w ∧ between s pair = ⟨u.size, (u ++ m).size⟩ ∧
      s.Blank white u.size (u ++ m).size := by
  obtain ⟨id, hid, statements, hstatements, hab⟩ :=
    mem_pairs (Source.wellLinked_of_ofDocument h) hpair
  have hplaced := (Source.spanned_of_ofDocument h hlaid.tokens).nested.placed
  have hle := (isPair_of_adjacent (Source.wellLinked_of_ofDocument h) hlaid
    (fun _ _ => pairwise_stop_le h hlaid) hstatements hab).le
  obtain ⟨u, m, w, htext, hu, hm⟩ := Text.exists_append_of_boundaries (hplaced pair.1).stop
    (hplaced pair.2).start hle
  refine ⟨u, m, w, htext, by rw [between, hu, hm], ?_⟩
  rw [hu, hm]
  exact hlaid.separated id statements hstatements pair.1 pair.2 hab

theorem apartGaps_pairs : ApartGaps s.text (between s) (padding? s) (pairs s) := by
  have hspanned := Source.spanned_of_ofDocument h hlaid.tokens
  refine ⟨?_, ?_, ?_⟩
  · intro pair hpair
    obtain ⟨u, m, w, htext, hbetween, -⟩ := exists_split h hlaid hpair
    rw [hbetween, htext]
    exact Span.placed_between u m w
  · exact pairwise_pairs (Source.wellLinked_of_ofDocument h) hspanned.nested hlaid
      fun _ _ => pairwise_stop_le h hlaid
  · intro pair hpair e he
    obtain ⟨u, m, w, htext, hbetween, hblank⟩ := exists_split h hlaid hpair
    have hlacks : lacksPadding s pair = true := by
      by_contra hlacks
      rw [padding?, if_neg hlacks] at he
      cases he
    obtain ⟨e', m', he', hturns, -⟩ := exists_padding? hspanned htext hbetween hblank hlacks
    cases he.symm.trans he'
    rw [htext, hbetween]
    exact ⟨hturns.placed, hturns.contains⟩

theorem map_safePatch?_run {options : Option Json}
    (hoptions : (rule.withOptions options).isSome = true) (files : FileSystem) {asked : FileCache} :
    (rule.run options files (.ofSource s) asked).map Diagnostic.safePatch? =
      ((pairs s).filterMap (padding? s)).map fun e => some (Patch.single e) := by
  have hspanned := Source.spanned_of_ofDocument h hlaid.tokens
  rw [run_eq hoptions, check_eq, List.map_map, List.map_filterMap, List.map_filterMap]
  refine List.filterMap_congr fun pair hpair => ?_
  rw [checkPair_eq]
  cases hlacks : lacksPadding s pair with
  | false => simp [padding?, hlacks]
  | true =>
    obtain ⟨u, m, w, htext, hbetween, hblank⟩ := exists_split h hlaid hpair
    obtain ⟨e, m', he, -⟩ := exists_padding? hspanned htext hbetween hblank hlacks
    rw [if_pos rfl, he]
    rfl

end Loaded

/-- One pass settles the padding of a file as parsers see to it, whatever characters besides the blanks
count as white space. All diagnostics of the rule have safe fixes, no two of these intersect, and the
pass accepts them in any order. Afterwards a blank line stands between all neighbours one of which
needs padding, and all characters but the white ones are as before. -/
theorem settles {white : Char → Bool} (hwhite : ∀ c, isBlank c = true → white c = true)
    {path : String} {text : Text} {doc : Json} (h : Source.ofDocument path text doc = .ok s)
    (hlaid : s.StatementsApart white) {options : Option Json}
    (hoptions : (rule.withOptions options).isSome = true) (files : FileSystem)
    {asked : FileCache} {ds : List Diagnostic}
    (hds : ds.Perm (rule.run options files (.ofSource s) asked)) :
    FixPass.NoneCollides ds ∧
    ∃ fixed, FixPass.run text ds = .ok ⟨fixed, List.range ds.length, 0⟩ ∧
      (fixed.filter fun c => !white c) = text.filter (fun c => !white c) ∧
      ∀ id statements, (s.tree.kind id).statements? = some statements →
        ∀ a b, [a, b] <:+: statements → (needsPadding s a || needsPadding s b) = true →
          fixed.hasBlankLineBetween (Edit.movedStop (FixPass.safeEdits ds) (s.tree.span a).stop)
            (Edit.movedStart (FixPass.safeEdits ds) (s.tree.span b).start) = true := by
  have hlinked := Source.wellLinked_of_ofDocument h
  obtain ⟨rfl, -⟩ := Source.nested_of_ofDocument h
  have hspanned := Source.spanned_of_ofDocument h hlaid.tokens
  have hgaps := apartGaps_pairs h hlaid
  have hpatches := (hds.map Diagnostic.safePatch?).trans
    (.of_eq (map_safePatch?_run h hlaid hoptions files))
  obtain ⟨hcollide, hedits, hrun⟩ := FixPass.settles_of_apartGaps hgaps hpatches
  refine ⟨hcollide, _, hrun, ?_, ?_⟩
  · refine hgaps.filter_replaceAll hedits _ ?_
    intro pair hpair e he
    obtain ⟨u, m, w, htext, hbetween, hblank⟩ := exists_split h hlaid hpair
    have hlacks : lacksPadding s pair = true := by
      by_contra hlacks
      rw [padding?, if_neg hlacks] at he
      cases he
    obtain ⟨e', m', he', -, -, hput, hcut⟩ := exists_padding? hspanned htext hbetween hblank hlacks
    cases he.symm.trans he'
    rw [List.all_eq_true] at hput hcut
    simp only [List.filter_eq_nil_iff, Bool.not_eq_true', Bool.not_eq_false]
    exact ⟨hcut, fun c hc => hwhite c (hput c hc)⟩
  · intro id statements hstatements a b hab hneeds
    have hid : (id : Nat) < s.tree.size := by
      refine Nat.lt_of_not_le fun hle => ?_
      simp [Tree.kind_of_size_le hle, NodeKind.statements?] at hstatements
    have hpair := mem_pairs_of hlinked hid hstatements hab
    obtain ⟨u, m, w, htext, hbetween, hblank⟩ := exists_split h hlaid hpair
    obtain ⟨x, z, hfixed, hx, hm⟩ := hgaps.exists_between hpair hedits htext
      (by rw [hbetween]) (by rw [hbetween])
    obtain ⟨hstop, hstart⟩ : (s.tree.span a).stop = u.size ∧ (s.tree.span b).start = (u ++ m).size :=
      Span.mk.inj hbetween
    rw [hstop, hstart, ← hx, ← hm, hfixed, Text.hasBlankLineBetween_iff]
    cases hlacks : lacksPadding s (a, b) with
    | true =>
      obtain ⟨e, m', he, hturns, hhas, -⟩ := exists_padding? hspanned htext hbetween hblank hlacks
      rw [he, Option.toList_some, hturns.replaceAll_eq]
      exact hhas
    | false =>
      rw [padding?, hlacks, if_neg Bool.false_ne_true, Option.toList_none, Text.replaceAll_nil,
        ← Text.hasBlankLineBetween_iff u m w, ← htext]
      rw [lacksPadding, hneeds, Bool.true_and, Bool.not_eq_false', hbetween] at hlacks
      exact hlacks

/-- A statement right behind a block, and a comment between it and the next block. -/
def crowdedDocument : Json := .obj [
  ("body", .arr [
    .obj [("body", .arr []), ("range", .arr [.nat 0, .nat 3]), ("type", .str "BlockStatement")],
    .obj [
      ("expression", .obj [("name", .str "a"), ("range", .arr [.nat 3, .nat 4]),
        ("type", .str "Identifier")]),
      ("range", .arr [.nat 3, .nat 4]), ("type", .str "ExpressionStatement")],
    .obj [("body", .arr []), ("range", .arr [.nat 10, .nat 13]), ("type", .str "BlockStatement")]]),
  ("comments", .arr [.obj [("range", .arr [.nat 5, .nat 9]), ("type", .str "Line")]]),
  ("sourceType", .str "script"), ("type", .str "Program")]

def crowdedSource : Source where
  path := "a.js"
  text := "\x7b\n\x7da // t\n\x7b\n\x7d".toList
  tree :=
    { nodes := #[
        ⟨.blockStatement [], ⟨10, 13⟩⟩,
        ⟨.identifier "a" none false, ⟨3, 4⟩⟩,
        ⟨.expressionStatement 1 none, ⟨3, 4⟩⟩,
        ⟨.blockStatement [], ⟨0, 3⟩⟩,
        ⟨.program [3, 2, 0] .script, ⟨0, 13⟩⟩]
      children := #[[], [], [1], [], [3, 2, 0]]
      parents := #[some 4, some 2, some 4, some 4, none]
      root := 4 }
  tokens := ⟨#[⟨.lineComment, ⟨5, 9⟩, "// t".toList⟩], #[]⟩

theorem ofDocument_crowded :
    Source.ofDocument "a.js" crowdedSource.text crowdedDocument = .ok crowdedSource := by
  have hload : Loader.load crowdedSource.text crowdedDocument = .ok crowdedSource.tree.nodes := by
    decide +kernel
  have htree : Tree.ofNodes crowdedSource.tree.nodes 4 = .ok crowdedSource.tree := by cbv
  have htokens : TokenIndex.ofList (Loader.tokens crowdedSource.text crowdedDocument) =
      crowdedSource.tokens := by cbv
  rw [Source.ofDocument_eq "a.js" hload htree, htokens]
  rfl

theorem statementsApart_crowded : crowdedSource.StatementsApart isBlank := by
  have hbody {id : NodeId} {statements : List NodeId}
      (h : (crowdedSource.tree.kind id).statements? = some statements) :
      statements = [] ∨ statements = [3, 2, 0] := by
    match id with
    | 0 | 1 | 2 | 3 | 4 | _ + 5 => cases h <;> simp
  refine ⟨by decide, ?_, ?_, ?_⟩
  · intro id statements h
    rcases hbody h with rfl | rfl <;> decide
  · intro id statements h
    rcases hbody h with rfl | rfl <;> decide
  · intro id statements h a b hab
    rcases hbody h with rfl | rfl
    · simp at hab
    · obtain ⟨rfl, rfl⟩ | ⟨rfl, rfl⟩ : a = 3 ∧ b = 2 ∨ a = 2 ∧ b = 0 := by
        simpa [neighbours] using mem_neighbours.2 hab
      · exact Source.blank_of_checked (by decide) (by decide)
      · exact Source.blank_of_checked (by decide +kernel) (by decide +kernel)

theorem settles_crowded :
    let ds := rule.run none MemoryFiles.empty.access (.ofSource crowdedSource)
    (∀ c, isBlank c = true → isBlank c = true) ∧
    Source.ofDocument "a.js" crowdedSource.text crowdedDocument = .ok crowdedSource ∧
    crowdedSource.StatementsApart isBlank ∧ (rule.withOptions none).isSome = true ∧
    FixPass.NoneCollides ds ∧
    ∃ fixed, FixPass.run crowdedSource.text ds = .ok ⟨fixed, [0, 1], 0⟩ ∧
      fixed.hasBlankLineBetween (Edit.movedStop (FixPass.safeEdits ds) 3)
        (Edit.movedStart (FixPass.safeEdits ds) 3) = true ∧
      fixed.hasBlankLineBetween (Edit.movedStop (FixPass.safeEdits ds) 4)
        (Edit.movedStart (FixPass.safeEdits ds) 10) = true := by
  intro ds
  obtain ⟨hcollide, fixed, hrun, -, hblank⟩ := settles (fun _ h => h) ofDocument_crowded
    statementsApart_crowded (show (rule.withOptions none).isSome = true from rfl)
    MemoryFiles.empty.access (.refl _)
  have hlength : (rule.run none MemoryFiles.empty.access (.ofSource crowdedSource)).length = 2 := by
    decide
  rw [hlength] at hrun
  have hfirst := hblank 4 [3, 2, 0] rfl 3 2 ⟨[], [0], rfl⟩ (by decide)
  have hsecond := hblank 4 [3, 2, 0] rfl 2 0 ⟨[3], [], rfl⟩ (by decide)
  exact ⟨fun _ h => h, ofDocument_crowded, statementsApart_crowded, rfl, hcollide, fixed, hrun,
    hfirst, hsecond⟩

example :
    let edits := FixPass.safeEdits (rule.run none MemoryFiles.empty.access (.ofSource crowdedSource))
    Text.replaceAll edits 0 crowdedSource.text =
      "\x7b\n\x7d\n\na // t\n\n\x7b\n\x7d".toList := by
  decide +kernel

end PaddingAroundMultiline

end ScriptLint
