import ScriptLint.Proofs.AnchoredSources
import ScriptLint.Proofs.LinearScans

/-! Comments above an element. The search for them goes up from comment to comment. A comment without
characters may be the token in front of its own start, but then it has itself in front of it on its
line and is no leading comment; every other comment starts further up. So the search ends whatever
the tokens are like, and where they are apart it ends above the comments that belong to the
element. -/
namespace ScriptLint

namespace Source

variable {s : Source} {previousEnd : Option Nat} {attached next start r : Nat} {c : Token}

/-! The search, turn by turn. -/

def leadingTurn? (s : Source) (previousEnd : Option Nat) (attached : Nat) : Option Nat :=
  ((s.tokens.before? attached true).filter fun c => s.isLeading c attached previousEnd).map
    fun c => c.span.start

/-- The search from one offset comes to an end at the other. -/
inductive LeadingRun (s : Source) (previousEnd : Option Nat) : Nat → Nat → Prop
  | stop {attached : Nat} :
      s.leadingTurn? previousEnd attached = none → LeadingRun s previousEnd attached attached
  | turn {attached next last : Nat} : s.leadingTurn? previousEnd attached = some next →
      LeadingRun s previousEnd next last → LeadingRun s previousEnd attached last

theorem leadingTurn?_eq_some :
    s.leadingTurn? previousEnd attached = some next ↔ ∃ c, s.tokens.before? attached true = some c ∧
      s.isLeading c attached previousEnd = true ∧ c.span.start = next := by
  simp only [leadingTurn?, Option.map_eq_some_iff, Option.filter_eq_some_iff, and_assoc]

theorem leadingTurn?_eq_none :
    s.leadingTurn? previousEnd attached = none ↔
      ∀ c, s.tokens.before? attached true = some c → s.isLeading c attached previousEnd = false := by
  simp only [leadingTurn?, Option.map_eq_none_iff, Option.filter_eq_none_iff, Bool.not_eq_true]

theorem leadingStartFrom_of_turn {fuel : Nat} (h : s.leadingTurn? previousEnd attached = some next) :
    s.leadingStartFrom previousEnd (fuel + 1) attached =
      s.leadingStartFrom previousEnd fuel next := by
  obtain ⟨c, hbefore, hleading, rfl⟩ := leadingTurn?_eq_some.1 h
  simp only [leadingStartFrom, hbefore, hleading, if_true]

theorem leadingStartFrom_of_stop {fuel : Nat} (h : s.leadingTurn? previousEnd attached = none) :
    s.leadingStartFrom previousEnd fuel attached = attached := by
  cases fuel with
  | zero => rfl
  | succ fuel =>
    rw [leadingStartFrom]
    cases hbefore : s.tokens.before? attached true with
    | none => rfl
    | some c => simp only [leadingTurn?_eq_none.1 h c hbefore, Bool.false_eq_true, if_false]

theorem LeadingRun.unique {a b : Nat} (ha : s.LeadingRun previousEnd attached a)
    (hb : s.LeadingRun previousEnd attached b) : a = b := by
  induction ha with
  | stop hstop =>
    cases hb with
    | stop => rfl
    | turn hturn => cases hstop.symm.trans hturn
  | turn hturn _ ih =>
    cases hb with
    | stop hstop => cases hstop.symm.trans hturn
    | turn hturn' hb =>
      cases hturn.symm.trans hturn'
      exact ih hb

section Progress

variable (hle : ∀ t ∈ s.tokens.all, t.span.start ≤ t.span.stop)
include hle

theorem lt_of_leadingTurn? (h : s.leadingTurn? previousEnd attached = some next) :
    next < attached ∧ ∃ t ∈ s.tokens.all, t.span.start = next := by
  obtain ⟨c, hbefore, hleading, rfl⟩ := leadingTurn?_eq_some.1 h
  have hmem : c ∈ s.tokens.all := TokenIndex.mem_select_of_before? hbefore
  have hstart := hle c hmem
  refine ⟨?_, c, hmem, rfl⟩
  rcases Nat.lt_or_eq_of_le (hstart.trans (TokenIndex.stop_le_of_before? hbefore)) with hlt | heq
  · exact hlt
  · -- What is in front of the comment on its line is looked up where the comment itself was found.
    rw [← heq] at hbefore
    have hline : s.startsLine c = false := by
      simp only [startsLine, hbefore]
      exact decide_eq_false (Nat.not_lt.2 (s.text.lineOf_mono hstart))
    rw [isLeading_of_not_startsLine hline] at hleading
    cases hleading

theorem countP_start_lt (h : s.leadingTurn? previousEnd attached = some next) :
    (s.tokens.all.toList.countP fun t => t.span.start < next) <
      s.tokens.all.toList.countP fun t => t.span.start < attached := by
  obtain ⟨hlt, c, hc, rfl⟩ := lt_of_leadingTurn? hle h
  have hearlier : (s.tokens.all.toList.filter fun t => t.span.start < attached).countP
      (fun t => t.span.start < c.span.start) =
        s.tokens.all.toList.countP fun t => t.span.start < c.span.start := by
    rw [List.countP_filter]
    refine List.countP_congr fun t _ => ?_
    simp only [Bool.and_eq_true, decide_eq_true_eq]
    omega
  rw [← hearlier, List.countP_eq_length_filter (l := s.tokens.all.toList), List.countP_lt_length_iff]
  exact ⟨c, by simpa using ⟨hc, hlt⟩, by simp⟩

/-- Every turn leaves a token behind for good, so there are no more turns than tokens. -/
theorem leadingRun_leadingStartFrom {fuel : Nat}
    (hfuel : (s.tokens.all.toList.countP fun t => t.span.start < attached) ≤ fuel) :
    s.LeadingRun previousEnd attached (s.leadingStartFrom previousEnd fuel attached) := by
  induction fuel generalizing attached with
  | zero =>
    refine .stop (Option.eq_none_iff_forall_ne_some.2 fun next hturn => ?_)
    have := countP_start_lt hle hturn
    omega
  | succ fuel ih =>
    cases hturn : s.leadingTurn? previousEnd attached with
    | none =>
      rw [leadingStartFrom_of_stop hturn]
      exact .stop hturn
    | some next =>
      have := countP_start_lt hle hturn
      rw [leadingStartFrom_of_turn hturn]
      exact .turn hturn (ih (by omega))

theorem leadingRun_iff : s.LeadingRun previousEnd start r ↔ r = s.leadingStart start previousEnd := by
  have hrun : s.LeadingRun previousEnd start (s.leadingStart start previousEnd) :=
    leadingRun_leadingStartFrom hle List.countP_le_length
  exact ⟨fun h => h.unique hrun, fun h => h ▸ hrun⟩

end Progress

/-! What belongs to an offset. -/

def tokensUpTo (s : Source) (offset : Nat) : List Token :=
  s.tokens.all.toList.filter fun t => t.span.stop ≤ offset

def tokensIn (s : Source) (first last : Nat) : List Token :=
  s.tokens.all.toList.filter fun t => (Span.mk first last).contains t.span

def BeginsLine (s : Source) (t : Token) : Prop :=
  ∀ u ∈ s.tokens.all, u.span.stop ≤ t.span.start → s.lineOf u.span.stop < s.lineOf t.span.start

def BlankLineBetween (s : Source) (first last : Nat) : Prop :=
  ∃ n, s.lineOf first < n ∧ n < s.lineOf last ∧ s.text.isBlankLine n = true

/-- A comment that begins its line behind the previous element, with no blank line between it and
what comes next. -/
structure Attached (s : Source) (previousEnd : Option Nat) (c : Token) (next : Nat) : Prop where
  isComment : c.isComment = true
  beginsLine : s.BeginsLine c
  behind : ∀ stop ∈ previousEnd, stop ≤ c.span.start
  close : ¬ s.BlankLineBetween c.span.stop next

/-- The token in front of a comment is a trailing comment of the line before. A trailing comment is one
that does not begin its line, whatever is in front of it there. -/
def Continues (s : Source) (c : Token) : Prop :=
  ∃ b, (s.tokensUpTo c.span.start).getLast? = some b ∧ b.isComment = true ∧ ¬ s.BeginsLine b ∧
    s.lineOf b.span.stop + 1 = s.lineOf c.span.start

def startOr (offset : Nat) (tokens : List Token) : Nat :=
  (tokens.head?.map fun t => t.span.start).getD offset

/-- Each of these tokens is a comment that is attached to what follows it and continues no trailing
comment; what follows the last one begins at an offset. -/
def AllAttached (s : Source) (previousEnd : Option Nat) (start : Nat) : List Token → Prop
  | [] => True
  | c :: rest => s.Attached previousEnd c (startOr start rest) ∧ ¬ s.Continues c ∧
      AllAttached s previousEnd start rest

/-- All that lies between the two offsets is attached comments, and what is in front of these is not
one more of them. -/
structure IsLeadingStart (s : Source) (previousEnd : Option Nat) (start r : Nat) : Prop where
  le : r ≤ start
  eq_startOr : r = startOr start (s.tokensIn r start)
  attached : s.AllAttached previousEnd start (s.tokensIn r start)
  stop : ∀ t, (s.tokensUpTo r).getLast? = some t → ¬ s.Attached previousEnd t r ∨ s.Continues t

theorem startOr_concat (offset : Nat) (tokens : List Token) (c : Token) :
    startOr offset (tokens ++ [c]) = startOr c.span.start tokens := by
  cases tokens <;> rfl

theorem allAttached_concat {tokens : List Token} :
    s.AllAttached previousEnd start (tokens ++ [c]) ↔
      s.AllAttached previousEnd c.span.start tokens ∧
        s.Attached previousEnd c start ∧ ¬ s.Continues c := by
  induction tokens with
  | nil => simp [AllAttached, startOr]
  | cons t tokens ih =>
    rw [List.cons_append, AllAttached, AllAttached, startOr_concat, ih]
    simp only [and_assoc]

theorem tokensIn_eq_filter (first last : Nat) :
    s.tokensIn first last = (s.tokensUpTo last).filter fun t => first ≤ t.span.start := by
  rw [tokensIn, tokensUpTo, List.filter_filter]
  rfl

theorem hasBlankLineBetween_iff {first last : Nat} :
    s.text.hasBlankLineBetween first last = true ↔ s.BlankLineBetween first last := by
  simp only [Text.hasBlankLineBetween, List.any_eq_true, List.mem_range'_1, BlankLineBetween, lineOf]
  constructor
  · rintro ⟨n, ⟨hfirst, hlast⟩, hblank⟩
    exact ⟨n, hfirst, by omega, hblank⟩
  · rintro ⟨n, hfirst, hlast, hblank⟩
    exact ⟨n, ⟨hfirst, by omega⟩, hblank⟩

section Apart

variable (h : s.tokens.Ordered)
include h

theorem before?_eq_getLast? (offset : Nat) :
    s.tokens.before? offset true = (s.tokensUpTo offset).getLast? := by
  rw [h.sequential.before?_eq, tokensUpTo]
  simp only [Bool.true_or, Bool.true_and]

theorem startsLine_iff (t : Token) : s.startsLine t = true ↔ s.BeginsLine t := by
  unfold startsLine BeginsLine
  cases hbefore : s.tokens.before? t.span.start true with
  | none =>
    refine ⟨fun _ u hu hle => ?_, fun _ => rfl⟩
    obtain ⟨prev, hprev⟩ := TokenIndex.exists_before? h ((TokenIndex.mem_select h).2 ⟨hu, .inl rfl⟩) hle
    cases hbefore.symm.trans hprev
  | some prev =>
    obtain ⟨hmem, hstop, hlast⟩ := TokenIndex.before?_eq_some h hbefore
    rw [decide_eq_true_eq]
    refine ⟨fun hline u hu hle => ?_, fun hall => hall prev hmem hstop⟩
    refine Nat.lt_of_le_of_lt (s.text.lineOf_mono ?_) hline
    have := h.nonempty prev hmem
    rcases hlast u hu hle with rfl | hearlier <;> omega

theorem continuesTrailing_iff (c : Token) : s.continuesTrailing c = true ↔ s.Continues c := by
  unfold continuesTrailing Continues
  rw [← before?_eq_getLast? h]
  cases s.tokens.before? c.span.start true with
  | none => simp
  | some b =>
    simp only [Bool.and_eq_true, Bool.not_eq_true', beq_iff_eq, ← startsLine_iff h,
      Bool.not_eq_true, Option.some.injEq, exists_eq_left', and_assoc]

theorem isLeading_iff :
    s.isLeading c attached previousEnd = true ↔
      s.Attached previousEnd c attached ∧ ¬ s.Continues c := by
  have hbehind : (previousEnd.any fun stop => decide (c.span.start < stop)) = false ↔
      ∀ stop ∈ previousEnd, stop ≤ c.span.start := by
    cases previousEnd <;> simp
  simp only [isLeading, Bool.and_eq_true, Bool.not_eq_true', hbehind, startsLine_iff h,
    ← Bool.not_eq_true, hasBlankLineBetween_iff, continuesTrailing_iff h]
  constructor
  · rintro ⟨⟨⟨⟨hcomment, hafter⟩, hline⟩, hclose⟩, hnew⟩
    exact ⟨⟨hcomment, hline, hafter, hclose⟩, hnew⟩
  · rintro ⟨⟨hcomment, hline, hafter, hclose⟩, hnew⟩
    exact ⟨⟨⟨⟨hcomment, hafter⟩, hline⟩, hclose⟩, hnew⟩

theorem tokensUpTo_eq_concat (hc : (s.tokensUpTo start).getLast? = some c) :
    s.tokensUpTo start = s.tokensUpTo c.span.start ++ [c] := by
  obtain ⟨init, hinit⟩ := List.getLast?_eq_some_iff.1 hc
  have hpairs : (s.tokensUpTo start).Pairwise fun a b => a.span.stop ≤ b.span.start :=
    h.ordered.filter _
  obtain ⟨hmem, hstop⟩ := List.mem_filter.1 (List.mem_of_getLast? hc)
  have hpos := h.nonempty c (Array.mem_toList_iff.1 hmem)
  have hstop := of_decide_eq_true hstop
  rw [hinit] at hpairs
  have hearlier : s.tokensUpTo c.span.start =
      (s.tokensUpTo start).filter fun t => t.span.stop ≤ c.span.start := by
    rw [tokensUpTo, tokensUpTo, List.filter_filter]
    refine List.filter_congr fun t _ => ?_
    rw [Bool.eq_iff_iff]
    simp only [Bool.and_eq_true, decide_eq_true_eq]
    omega
  have hinside : (init.filter fun t => t.span.stop ≤ c.span.start) = init := by
    rw [List.filter_eq_self]
    intro t ht
    exact decide_eq_true ((List.pairwise_append.1 hpairs).2.2 t ht c (by simp))
  have houtside : ([c].filter fun t => t.span.stop ≤ c.span.start) = [] := by
    rw [List.filter_eq_nil_iff]
    simpa using hpos
  rw [hearlier, hinit, List.filter_append, hinside, houtside, List.append_nil]

theorem tokensIn_eq_concat (hc : (s.tokensUpTo start).getLast? = some c) (hr : r ≤ c.span.start) :
    s.tokensIn r start = s.tokensIn r c.span.start ++ [c] := by
  rw [tokensIn_eq_filter, tokensIn_eq_filter, tokensUpTo_eq_concat h hc, List.filter_append,
    List.filter_singleton, decide_eq_true hr, cond_true]

theorem tokensIn_self (offset : Nat) : s.tokensIn offset offset = [] := by
  rw [tokensIn, List.filter_eq_nil_iff]
  intro t ht
  have := h.nonempty t (Array.mem_toList_iff.1 ht)
  simp only [Span.contains, Bool.and_eq_true, decide_eq_true_eq]
  omega

theorem getLast?_of_tokensIn {init : List Token} (hlist : s.tokensIn r start = init ++ [c]) :
    (s.tokensUpTo start).getLast? = some c ∧ r ≤ c.span.start := by
  have hpairs : (s.tokensUpTo start).Pairwise fun a b =>
      decide (r ≤ a.span.start) = true → decide (r ≤ b.span.start) = true := by
    refine (h.ordered.filter _).imp_of_mem fun {a b} ha _ hab => ?_
    have := h.nonempty a (Array.mem_toList_iff.1 (List.mem_filter.1 ha).1)
    simp only [decide_eq_true_eq]
    omega
  have hlast : (s.tokensUpTo start).getLast?.filter (fun t => r ≤ t.span.start) = some c := by
    rw [filter_getLast? hpairs, ← tokensIn_eq_filter, hlist, List.getLast?_concat]
  rw [Option.filter_eq_some_iff, decide_eq_true_eq] at hlast
  exact hlast

theorem isLeadingStart_self_iff :
    s.IsLeadingStart previousEnd start start ↔ s.leadingTurn? previousEnd start = none := by
  have hnone : s.leadingTurn? previousEnd start = none ↔ ∀ t,
      (s.tokensUpTo start).getLast? = some t → ¬ s.Attached previousEnd t start ∨ s.Continues t := by
    simp only [leadingTurn?_eq_none, before?_eq_getLast? h, ← Bool.not_eq_true, isLeading_iff h,
      not_and_or, not_not]
  rw [hnone]
  refine ⟨IsLeadingStart.stop, fun hstop => ⟨Nat.le_refl _, ?_, ?_, hstop⟩⟩
  · rw [tokensIn_self h]
    rfl
  · rw [tokensIn_self h]
    trivial

theorem isLeadingStart_iff_of_getLast? (hc : (s.tokensUpTo start).getLast? = some c)
    (hr : r ≤ c.span.start) :
    s.IsLeadingStart previousEnd start r ↔
      s.leadingTurn? previousEnd start = some c.span.start ∧
        s.IsLeadingStart previousEnd c.span.start r := by
  have hturn : s.leadingTurn? previousEnd start = some c.span.start ↔
      s.Attached previousEnd c start ∧ ¬ s.Continues c := by
    rw [leadingTurn?_eq_some, before?_eq_getLast? h, hc, ← isLeading_iff h]
    simp
  have hle : c.span.start ≤ start := by
    obtain ⟨hmem, hstop⟩ := List.mem_filter.1 (List.mem_of_getLast? hc)
    have := h.nonempty c (Array.mem_toList_iff.1 hmem)
    have := of_decide_eq_true hstop
    omega
  have hin := tokensIn_eq_concat h hc hr
  rw [hturn]
  constructor
  · rintro ⟨-, hstart, hattached, hstop⟩
    rw [hin, startOr_concat] at hstart
    rw [hin, allAttached_concat] at hattached
    exact ⟨hattached.2, hr, hstart, hattached.1, hstop⟩
  · rintro ⟨hlast, -, hstart, hattached, hstop⟩
    refine ⟨hr.trans hle, ?_, ?_, hstop⟩
    · rwa [hin, startOr_concat]
    · rw [hin, allAttached_concat]
      exact ⟨hattached, hlast⟩

theorem isLeadingStart_of_leadingRun (hrun : s.LeadingRun previousEnd start r) :
    s.IsLeadingStart previousEnd start r := by
  induction hrun with
  | stop hstop => exact (isLeadingStart_self_iff h).2 hstop
  | turn hturn _ ih =>
    obtain ⟨c, hbefore, -, rfl⟩ := leadingTurn?_eq_some.1 hturn
    rw [before?_eq_getLast? h] at hbefore
    exact (isLeadingStart_iff_of_getLast? h hbefore ih.le).2 ⟨hturn, ih⟩

theorem leadingRun_of_isLeadingStart (hstart : s.IsLeadingStart previousEnd start r) :
    s.LeadingRun previousEnd start r := by
  -- The search meets the last comment first.
  induction hlist : s.tokensIn r start using List.reverseRecOn generalizing start with
  | nil =>
    have heq := hstart.eq_startOr
    rw [hlist] at heq
    cases heq
    exact .stop ((isLeadingStart_self_iff h).1 hstart)
  | append_singleton init c ih =>
    obtain ⟨hc, hr⟩ := getLast?_of_tokensIn h hlist
    obtain ⟨hturn, hrest⟩ := (isLeadingStart_iff_of_getLast? h hc hr).1 hstart
    rw [tokensIn_eq_concat h hc hr] at hlist
    exact .turn hturn (ih hrest (List.append_inj_left' hlist rfl))

end Apart

/-- In every loaded source the search for leading comments comes to an end, whatever the tokens are
like. Where they are not empty and do not overlap, its end is the one place that has the attached
comments behind it and no further one in front of it. -/
theorem isLeadingStart_iff_of_load {path : String} {text document : Text} {s : Source}
    (hload : load path text document = .ok s) (previousEnd : Option Nat) (start : Nat) :
    (∀ r, s.LeadingRun previousEnd start r ↔ r = s.leadingStart start previousEnd) ∧
      (s.tokens.Apart →
        ∀ r, s.IsLeadingStart previousEnd start r ↔ r = s.leadingStart start previousEnd) := by
  obtain ⟨doc, -, hdoc⟩ := exists_ofDocument_of_load hload
  obtain ⟨nodes, tree, -, -, rfl⟩ := ofDocument_eq_ok hdoc
  have hle : ∀ t ∈ (TokenIndex.ofList (Loader.tokens text doc)).all,
      t.span.start ≤ t.span.stop :=
    fun t ht => (placed_of_mem_tokens ht).le
  refine ⟨fun r => leadingRun_iff hle, fun hapart r => ?_⟩
  have hordered := TokenIndex.ordered_ofList hapart
  rw [← leadingRun_iff hle]
  exact ⟨leadingRun_of_isLeadingStart hordered, isLeadingStart_of_leadingRun hordered⟩

def emptyCommentDocument : Json := .obj [
  ("body", .arr []),
  ("comments", .arr [
    .obj [("range", .arr [.nat 0, .nat 4])],
    .obj [("range", .arr [.nat 2, .nat 2])]]),
  ("type", .str "Program")]

def emptyCommentDocumentText : Text :=
  ("\x7b\"body\":[],\"comments\":[\x7b\"range\":[0,4]\x7d,\x7b\"range\":[2,2]\x7d]," ++
    "\"type\":\"Program\"\x7d").toList

set_option maxRecDepth 10000 in
theorem parse?_emptyCommentDocumentText :
    Json.parse? emptyCommentDocumentText = some emptyCommentDocument := by
  rfl

def emptyCommentSource : Source where
  path := "a.js"
  text := "/**/".toList
  tree :=
    { nodes := #[⟨.program [] .script, ⟨0, 4⟩⟩]
      children := #[[]]
      parents := #[none]
      root := 0 }
  tokens :=
    { all := #[⟨.blockComment, ⟨0, 4⟩, ['/', '*', '*', '/']⟩, ⟨.blockComment, ⟨2, 2⟩, []⟩]
      code := #[] }

theorem load_emptyCommentSource :
    load "a.js" emptyCommentSource.text emptyCommentDocumentText = .ok emptyCommentSource := by
  have hnodes : Loader.load emptyCommentSource.text emptyCommentDocument =
      .ok emptyCommentSource.tree.nodes := by
    decide
  have htree : Tree.ofNodes emptyCommentSource.tree.nodes 0 = .ok emptyCommentSource.tree := by cbv
  have htokens : TokenIndex.ofList (Loader.tokens emptyCommentSource.text emptyCommentDocument) =
      emptyCommentSource.tokens := by cbv
  rw [load_eq_ofDocument parse?_emptyCommentDocumentText, ofDocument_eq "a.js" hnodes htree, htokens]
  rfl

/-- Two names with comments on the lines between them, the first of which goes on with the comment
behind the first name. -/
def headedDocument : Json := .obj [
  ("body", .arr []),
  ("comments", .arr [
    .obj [("range", .arr [.nat 2, .nat 6]), ("type", .str "Line")],
    .obj [("range", .arr [.nat 7, .nat 11]), ("type", .str "Line")],
    .obj [("range", .arr [.nat 12, .nat 19]), ("type", .str "Block")]]),
  ("tokens", .arr [
    .obj [("range", .arr [.nat 0, .nat 1]), ("type", .str "Identifier")],
    .obj [("range", .arr [.nat 20, .nat 21]), ("type", .str "Identifier")]]),
  ("type", .str "Program")]

def headedDocumentText : Text :=
  ["\x7b\"body\":[],\"comments\":[\x7b\"range\":[2,6],\"type\":\"Line\"\x7d,",
    "\x7b\"range\":[7,11],\"type\":\"Line\"\x7d,\x7b\"range\":[12,19],\"type\":\"Block\"\x7d],",
    "\"tokens\":[\x7b\"range\":[0,1],\"type\":\"Identifier\"\x7d,",
    "\x7b\"range\":[20,21],\"type\":\"Identifier\"\x7d],\"type\":\"Program\"\x7d"].flatMap
    String.toList

set_option maxRecDepth 10000 in
theorem parse?_headedDocumentText : Json.parse? headedDocumentText = some headedDocument := by
  rfl

def headedSource : Source where
  path := "a.js"
  text := "a // x\n// y\n/* p */\nb".toList
  tree :=
    { nodes := #[⟨.program [] .script, ⟨0, 21⟩⟩]
      children := #[[]]
      parents := #[none]
      root := 0 }
  tokens :=
    { all := #[
        ⟨.identifier, ⟨0, 1⟩, ['a']⟩,
        ⟨.lineComment, ⟨2, 6⟩, ['/', '/', ' ', 'x']⟩,
        ⟨.lineComment, ⟨7, 11⟩, ['/', '/', ' ', 'y']⟩,
        ⟨.blockComment, ⟨12, 19⟩, ['/', '*', ' ', 'p', ' ', '*', '/']⟩,
        ⟨.identifier, ⟨20, 21⟩, ['b']⟩]
      code := #[⟨.identifier, ⟨0, 1⟩, ['a']⟩, ⟨.identifier, ⟨20, 21⟩, ['b']⟩] }

theorem load_headedSource :
    load "a.js" headedSource.text headedDocumentText = .ok headedSource := by
  have hnodes : Loader.load headedSource.text headedDocument = .ok headedSource.tree.nodes := by
    decide
  have htree : Tree.ofNodes headedSource.tree.nodes 0 = .ok headedSource.tree := by cbv
  have htokens : TokenIndex.ofList (Loader.tokens headedSource.text headedDocument) =
      headedSource.tokens := by cbv
  rw [load_eq_ofDocument parse?_headedDocumentText, ofDocument_eq "a.js" hnodes htree, htokens]
  rfl

theorem apart_headedSource : headedSource.tokens.Apart := by
  constructor <;> decide

/-- An empty comment is the token in front of its own start, and the search stops there. Above the
second of two names it stops behind the comment that continues a trailing one. -/
theorem isLeadingStart_iff_of_load_headed :
    load "a.js" emptyCommentSource.text emptyCommentDocumentText = .ok emptyCommentSource ∧
      emptyCommentSource.tokens.before? 2 true = some ⟨.blockComment, ⟨2, 2⟩, []⟩ ∧
      emptyCommentSource.LeadingRun none 2 2 ∧
      load "a.js" headedSource.text headedDocumentText = .ok headedSource ∧
      headedSource.tokens.Apart ∧ headedSource.LeadingRun (some 1) 20 12 ∧
      headedSource.IsLeadingStart (some 1) 20 12 := by
  have hempty := (isLeadingStart_iff_of_load load_emptyCommentSource none 2).1 2
  obtain ⟨hrun, hstart⟩ := isLeadingStart_iff_of_load load_headedSource (some 1) 20
  have hheaded : 12 = headedSource.leadingStart 20 (some 1) := by decide +kernel
  exact ⟨load_emptyCommentSource, by decide +kernel, hempty.2 (by decide +kernel), load_headedSource,
    apart_headedSource, (hrun 12).2 hheaded, (hstart apart_headedSource 12).2 hheaded⟩

end Source

end ScriptLint
