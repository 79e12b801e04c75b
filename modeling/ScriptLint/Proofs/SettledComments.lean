import Mathlib
import ScriptLint.Proofs.Capitals
import ScriptLint.Proofs.CommentPlaces
import ScriptLint.Proofs.ShiftedPlaces

/-! Comments after their fix. What a fix writes is read again from the beginning: as a comment for
another tool, as a note, as the start of a text. Formal notes and links are settled; what is written
behind `Note:`, or with a capital that the first letter does not have, can be reported once more. -/
namespace ScriptLint

namespace Text

/-! Trimmed texts. -/

structure Trimmed (t : Text) : Prop where
  head : ∃ c, t.head? = some c ∧ isBlank c = false
  last : ∃ c, t.getLast? = some c ∧ isBlank c = false

theorem head?_trimStart {t : Text} (h : t.trimStart ≠ []) :
    ∃ c, t.trimStart.head? = some c ∧ isBlank c = false := by
  have hhead := List.head?_dropWhile_not isBlank t
  unfold trimStart at h ⊢
  cases hd : (t.dropWhile isBlank).head? with
  | none => exact absurd (List.head?_eq_none_iff.1 hd) h
  | some c =>
    rw [hd] at hhead
    exact ⟨c, rfl, by simpa using hhead⟩

theorem trimEnd_prefix (t : Text) : t.trimEnd <+: t := by
  have hsuffix := List.dropWhile_suffix isBlank (l := t.reverse)
  rw [← List.reverse_prefix, List.reverse_reverse] at hsuffix
  exact hsuffix

theorem trimmed_trim {t : Text} (h : t.trim ≠ []) : t.trim.Trimmed := by
  obtain ⟨u, hu⟩ : t.trim <+: t.trimStart := trimEnd_prefix t.trimStart
  have hstart : t.trimStart ≠ [] :=
    fun hnil => h (List.append_eq_nil_iff.1 (hu.trans hnil)).1
  obtain ⟨c, hc, hblank⟩ := head?_trimStart hstart
  obtain ⟨d, hd, hblank'⟩ := head?_trimStart (t := t.trimStart.reverse)
    fun hnil => h (List.reverse_eq_nil_iff.2 hnil)
  refine ⟨⟨c, ?_, hblank⟩, d, ?_, hblank'⟩
  · rw [← hu] at hc
    rwa [List.head?_append_of_ne_nil _ h] at hc
  · rw [trim, trimEnd, List.getLast?_reverse]
    exact hd

theorem Trimmed.trim_append {t u : Text} (h : t.Trimmed) (hu : ∀ c ∈ u, isBlank c = true) :
    (u ++ t).trim = t := by
  obtain ⟨⟨c, hc, hblank⟩, d, hd, hblank'⟩ := h
  obtain ⟨x, rfl⟩ : ∃ x, t = c :: x := ⟨t.tail, List.eq_cons_of_mem_head? hc⟩
  have hstart : trimStart (u ++ c :: x) = c :: x := by
    rw [trimStart, List.dropWhile_append_of_pos hu, List.dropWhile_cons_of_neg (by simp [hblank])]
  rw [trim, hstart, trimEnd]
  obtain ⟨y, hy⟩ : ∃ y, (c :: x).reverse = d :: y :=
    ⟨_, List.eq_cons_of_mem_head? (by rwa [List.head?_reverse])⟩
  rw [hy, List.dropWhile_cons_of_neg (by simp [hblank']), ← hy, List.reverse_reverse]

end Text

namespace CommentStyle

/-! Comments with nothing to report. -/

/-- A text that a second look leaves alone: one for another tool, a formal note, or neither a note in
some other form nor words that start with a small letter. -/
def IsSettled (t : Text) : Prop :=
  "@ts-".toList <+: t ∨ IsFormalNote t ∨
    (¬IsInformalNote t ∧ ¬IsNote t ∧
      ¬(t.head?.any Unicode.isLowercase = true ∧ 2 ≤ t.words.length))

theorem isMatch_directivePattern_iff {t : Text} (ht : ∀ c, t.head? = some c → c.isLower = false) :
    directivePattern.isMatch t = true ↔ "@ts-".toList <+: t := by
  constructor
  · intro h
    obtain ⟨w, hw, u, rfl⟩ := prefix_of_directive h
    have hhead : ∀ w ∈ directiveWords, w ≠ "@ts-".toList →
        w.head?.any Char.isLower = true := by decide
    by_contra hne
    obtain ⟨c, hc, hlower⟩ :=
      (Option.any_eq_true _ _).1 (hhead w hw fun heq => hne ⟨u, by rw [heq]⟩)
    have := ht c (by rw [List.head?_append, hc, Option.some_or])
    rw [hlower] at this
    cases this
  · exact isMatch_directivePattern_of_prefix

theorem informalNote?_eq_none_iff {t : Text} : informalNote? t = none ↔ ¬IsInformalNote t := by
  rw [← isMatch_informalNotePattern, Regex.isMatch, informalNote?, Option.map_eq_none_iff,
    Bool.not_eq_true, Option.isSome_eq_false_iff, Option.isNone_iff_eq_none]

theorem beginning?_eq_none_iff {t : Text} (ht : ∀ c, t.head? = some c → c.isLower = false) :
    beginning? t = none ↔ ¬IsNote t ∧
      ¬(t.head?.any Unicode.isLowercase = true ∧ 2 ≤ t.words.length) := by
  have hlink : ¬linkPattern.isMatch t = true := by
    intro h
    obtain ⟨c, hlower, hc⟩ := head?_of_link h
    have := ht c hc
    rw [hlower] at this
    cases this
  rw [← isMatch_notePattern, Regex.isMatch, beginning?]
  cases notePattern.find? t with
  | some m => simp
  | none => simp [hlink]

/-! What a fix writes. -/

theorem isLower_of_head?_capitalize {t : Text} {c : Char} (h : (capitalize t).head? = some c) :
    c.isLower = false := by
  cases t with
  | nil => cases h
  | cons x t =>
    rw [capitalize, List.head?_append_of_ne_nil _ (Unicode.toUpper_ne_nil x)] at h
    exact Unicode.isLower_of_mem_toUpper (List.mem_of_head? h)

theorem trimmed_capitalize {t : Text} (h : t.Trimmed) : (capitalize t).Trimmed := by
  obtain ⟨⟨x, hx, hfirst⟩, d, hd, hlast⟩ := h
  obtain ⟨t, rfl⟩ : ∃ u, t = x :: u := ⟨t.tail, List.eq_cons_of_mem_head? hx⟩
  have hne := Unicode.toUpper_ne_nil x
  have hblank : ∀ c ∈ Unicode.toUpper x, isBlank c = false := by
    intro c hc
    rw [Bool.eq_false_iff]
    intro hcblank
    rw [Unicode.isBlank_of_mem_toUpper hc hcblank] at hfirst
    cases hfirst
  refine ⟨⟨_, ?_, hblank _ (List.head_mem hne)⟩, ?_⟩
  · rw [capitalize, List.head?_append_of_ne_nil _ hne, List.head?_eq_some_head hne]
  · cases t with
    | nil =>
      refine ⟨_, ?_, hblank _ (List.getLast_mem hne)⟩
      rw [capitalize, List.append_nil, List.getLast?_eq_some_getLast hne]
    | cons y t =>
      refine ⟨d, ?_, hlast⟩
      rw [capitalize, List.getLast?_append_of_ne_nil _ (List.cons_ne_nil y t)]
      rwa [List.getLast?_cons_cons] at hd

theorem noteTag_mem (w : Text) : noteTag w ∈ ["TODO".toList, "HACK".toList] := by
  unfold noteTag
  dsimp only
  split
  · simp
  · simp

inductive Rewrites (t : Text) : Text → Prop
  | informal {tag rest : Text} (htag : tag ∈ ["TODO".toList, "HACK".toList])
      (hrest : rest.Trimmed) : Rewrites t (tag ++ ": ".toList ++ rest)
  | note {rest : Text} (hinformal : ¬IsInformalNote t) (hnote : IsNote t)
      (hrest : rest.Trimmed) : Rewrites t (capitalize rest)
  | link (hinformal : ¬IsInformalNote t) : Rewrites t ("See ".toList ++ t)
  | capital (hinformal : ¬IsInformalNote t) (hnote : ¬IsNote t) : Rewrites t (capitalize t)

theorem trimmed_of_ifNotEmpty {t u : Text} (h : ifNotEmpty t.trim = some u) : u.Trimmed := by
  unfold ifNotEmpty at h
  split at h
  · cases h
  · cases h
    exact Text.trimmed_trim (by simpa using ‹¬t.trim.isEmpty = true›)

theorem exists_of_informalNote? {t r : Text} {v : Verdict} (hv : informalNote? t = some v)
    (hr : v.replacement = some r) :
    ∃ tag rest, tag ∈ ["TODO".toList, "HACK".toList] ∧ rest.Trimmed ∧
      r = tag ++ ": ".toList ++ rest := by
  obtain ⟨m, -, rfl⟩ := Option.map_eq_some_iff.1 hv
  obtain ⟨rest, hrest, rfl⟩ := Option.map_eq_some_iff.1 hr
  exact ⟨_, rest, noteTag_mem _, trimmed_of_ifNotEmpty hrest, rfl⟩

theorem rewrites_of_beginning? {t r : Text} (hinformal : ¬IsInformalNote t) {v : Verdict}
    (hv : beginning? t = some v) (hr : v.replacement = some r) : Rewrites t r := by
  unfold beginning? at hv
  split at hv
  · rename_i m hm
    cases hv
    obtain ⟨rest, hrest, rfl⟩ := Option.map_eq_some_iff.1 hr
    have hnote : IsNote t := isMatch_notePattern.1 (by rw [Regex.isMatch, hm]; rfl)
    exact .note hinformal hnote (trimmed_of_ifNotEmpty hrest)
  · rename_i hnone
    have hnote : ¬IsNote t := by
      rw [← isMatch_notePattern, Regex.isMatch, hnone]
      exact Bool.false_ne_true
    split at hv
    · cases hv
      cases hr
      exact .link hinformal
    · split at hv
      · cases hv
        cases hr
        exact .capital hinformal hnote
      · cases hv

theorem isFormalNote_of_trimmed {tag rest : Text} (htag : tag ∈ ["TODO".toList, "HACK".toList])
    (hrest : rest.Trimmed) : IsFormalNote (tag ++ ": ".toList ++ rest) := by
  obtain ⟨⟨c, hc, hblank⟩, -⟩ := hrest
  exact ⟨tag, c, rest.tail, htag, by rw [← List.eq_cons_of_mem_head? hc], hblank⟩

namespace Rewrites

variable {t r : Text} (h : Rewrites t r)
include h

theorem trimmed (ht : t.Trimmed) : r.Trimmed := by
  have happend {a u : Text} (hu : u.Trimmed) {c : Char} (ha : a.head? = some c)
      (hc : isBlank c = false) : (a ++ u).Trimmed := by
    obtain ⟨-, d, hd, hlast⟩ := hu
    refine ⟨⟨c, by rw [List.head?_append, ha, Option.some_or], hc⟩, d, ?_, hlast⟩
    rw [List.getLast?_append, hd, Option.some_or]
  cases h with
  | @informal tag rest htag hrest =>
    have hhead : ∀ tag ∈ ["TODO".toList, "HACK".toList],
        (tag ++ ": ".toList).head?.any (fun c => !isBlank c) = true := by decide
    obtain ⟨c, hc, hblank⟩ := (Option.any_eq_true _ _).1 (hhead tag htag)
    exact happend hrest hc (by simpa using hblank)
  | note _ _ hrest => exact trimmed_capitalize hrest
  | link => exact happend ht (c := 'S') rfl (by decide)
  | capital => exact trimmed_capitalize ht

theorem isFormalNote_or_capital :
    IsFormalNote r ∨ ∀ c, r.head? = some c → c.isLower = false := by
  cases h with
  | informal htag hrest => exact .inl (isFormalNote_of_trimmed htag hrest)
  | note => exact .inr fun c hc => isLower_of_head?_capitalize hc
  | link =>
    refine .inr fun c hc => ?_
    cases hc
    decide
  | capital => exact .inr fun c hc => isLower_of_head?_capitalize hc

end Rewrites

theorem IsInformalNote.congr_head {x y : Char} {t : Text}
    (hxy : Unicode.smallLetter x = Unicode.smallLetter y) (h : IsInformalNote (x :: t)) :
    IsInformalNote (y :: t) := by
  obtain ⟨u, v, ht, hu, hrest⟩ := h
  cases u with
  | nil => exact absurd hu (by decide)
  | cons z u =>
    obtain ⟨rfl, rfl⟩ := List.cons_eq_cons.1 ht
    exact ⟨y :: u, v, rfl, by rwa [List.map_cons, ← hxy], hrest⟩

theorem IsNote.congr_head {x y : Char} {t : Text}
    (hxy : Unicode.smallLetter x = Unicode.smallLetter y) (h : IsNote (x :: t)) :
    IsNote (y :: t) := by
  obtain ⟨u, v, ht, hu, hrest⟩ := h
  cases u with
  | nil => cases hu
  | cons z u =>
    obtain ⟨rfl, rfl⟩ := List.cons_eq_cons.1 ht
    exact ⟨y :: u, v, rfl, by rwa [List.map_cons, ← hxy], hrest⟩

theorem isSettled_see (t : Text) : IsSettled ("See ".toList ++ t) := by
  refine .inr (.inr ⟨?_, ?_, fun hsmall => absurd hsmall.1 (by simp; decide)⟩)
  · rintro ⟨u, v, ht, hu, -⟩
    have hheads : ∀ w ∈ noteWords, w.head? ≠ some 's' ∧ w ≠ [] := by decide
    obtain ⟨hs, hne⟩ := hheads _ hu
    cases u with
    | nil => exact hne rfl
    | cons z u =>
      obtain ⟨rfl, -⟩ := List.cons_eq_cons.1 ht
      exact hs rfl
  · rintro ⟨u, v, ht, hu, -⟩
    cases u with
    | nil => cases hu
    | cons z u =>
      obtain ⟨rfl, -⟩ := List.cons_eq_cons.1 ht
      cases hu

/-- Rewriting settles a text that begins in ASCII, except behind `Note:`. -/
theorem Rewrites.isSettled_of_ascii {t r : Text} (h : Rewrites t r) (hnote : ¬IsNote t)
    (hascii : ∀ c, t.head? = some c → c.toNat < 128) : IsSettled r := by
  cases h with
  | informal htag hrest => exact .inr (.inl (isFormalNote_of_trimmed htag hrest))
  | note _ hyes => exact absurd hyes hnote
  | link => exact isSettled_see t
  | capital hinformal =>
    cases t with
    | nil => exact .inr (.inr ⟨hinformal, hnote, by simp [capitalize]⟩)
    | cons c t =>
      have hc := hascii c rfl
      obtain ⟨-, -, hsame, hlarge⟩ := Unicode.ascii_toUpper hc
      rw [capitalize, Unicode.toUpper_of_lt hc]
      refine .inr (.inr ⟨fun hi => hinformal (hi.congr_head hsame),
        fun hn => hnote (hn.congr_head hsame), fun hsmall => ?_⟩)
      exact absurd hsmall.1 (by simp [hlarge])

/-! Comments after their fix. -/

def content (c : Token) : Text := (c.commentBody?.getD []).trim

def rewritten (c : Token) (r : Text) : Token :=
  let text : Text := '/' :: '/' :: leadingSpace c ++ r
  ⟨.lineComment, .sized c.span.start text.size, text⟩

theorem leadingSpace_spec (c : Token) :
    (∀ a ∈ leadingSpace c, isBlank a = true) ∧
      ∃ a, (leadingSpace c).head? = some a ∧ isBlank a = true := by
  have hall : ∀ a ∈ leadingSpace c, isBlank a = true := by
    unfold leadingSpace
    dsimp only
    split
    · simpa using show isBlank ' ' = true by decide
    · exact fun a ha => List.mem_takeWhile_imp ha
  refine ⟨hall, ?_⟩
  cases hspace : leadingSpace c with
  | nil =>
    unfold leadingSpace at hspace
    dsimp only at hspace
    split at hspace
    · cases hspace
    · rename_i hne
      exact absurd (by rw [hspace]; rfl) hne
  | cons a blanks => exact ⟨a, rfl, hall a (by rw [hspace]; exact List.mem_cons_self)⟩

theorem commentBody?_rewritten (c : Token) (r : Text) :
    (rewritten c r).commentBody? = some (leadingSpace c ++ r) := by
  simp [rewritten, Token.commentBody?, Text.dropPrefix?]

theorem verdict?_eq {s : Source} {c : Token} {body : Text} (hbody : c.commentBody? = some body)
    (hslash : body.head? ≠ some '/') (hcontent : body.trim ≠ []) :
    verdict? s c =
      if directivePattern.isMatch body.trim || formalNotePattern.isMatch body.trim then none
      else match informalNote? body.trim with
        | some v => some v
        | none => if isContinuation s c then none else beginning? body.trim := by
  have hneither : (body.head? == some '/' || body.trim.isEmpty) = false := by
    simp [hslash, hcontent]
  rw [verdict?, hbody]
  simp only [Option.bind_eq_bind, Option.bind_some, hneither, Bool.false_eq_true, if_false]
  rfl

/-- A verdict rewrites the content, and only a formal note is written for a comment that goes on with
the one above it. -/
theorem rewrites_of_verdict? {s : Source} {c : Token} {v : Verdict} {r : Text}
    (hv : verdict? s c = some v) (hr : v.replacement = some r) :
    (content c).Trimmed ∧ Rewrites (content c) r ∧
      (IsFormalNote r ∨ isContinuation s c = false) := by
  obtain ⟨body, hbody, hbodyVerdict⟩ := Option.bind_eq_some_iff.1 hv
  have hcontent : content c = body.trim := by rw [content, hbody, Option.getD_some]
  rw [hcontent]
  dsimp only at hbodyVerdict
  split at hbodyVerdict
  · cases hbodyVerdict
  rename_i hneither
  rw [Bool.or_eq_true, not_or, List.isEmpty_iff] at hneither
  have htrimmed := Text.trimmed_trim hneither.2
  split at hbodyVerdict
  · cases hbodyVerdict
  split at hbodyVerdict
  · rename_i v' hinformal
    cases hbodyVerdict
    obtain ⟨tag, rest, htag, hrest, rfl⟩ := exists_of_informalNote? hinformal hr
    exact ⟨htrimmed, .informal htag hrest, .inl (isFormalNote_of_trimmed htag hrest)⟩
  · rename_i hinformal
    split at hbodyVerdict
    · cases hbodyVerdict
    · rename_i hcontinuation
      exact ⟨htrimmed, rewrites_of_beginning? (informalNote?_eq_none_iff.1 hinformal) hbodyVerdict hr,
        .inr (by simpa using hcontinuation)⟩

theorem verdict?_rewritten_eq_none_iff {s' : Source} {c : Token} {r : Text} (hr : r.Trimmed)
    (hplace : IsFormalNote r ∨ isContinuation s' (rewritten c r) = false)
    (hhead : IsFormalNote r ∨ ∀ a, r.head? = some a → a.isLower = false) :
    verdict? s' (rewritten c r) = none ↔ IsSettled r := by
  obtain ⟨hspace, a, ha, hblank⟩ := leadingSpace_spec c
  have htrim : (leadingSpace c ++ r).trim = r := hr.trim_append hspace
  have hslash : (leadingSpace c ++ r).head? ≠ some '/' := by
    rw [List.head?_append, ha, Option.some_or]
    intro heq
    cases heq
    revert hblank
    decide
  have hne : r ≠ [] := by
    obtain ⟨b, hb, -⟩ := hr.head
    rintro rfl
    cases hb
  rw [verdict?_eq (commentBody?_rewritten c r) hslash (htrim.symm ▸ hne), htrim]
  by_cases hformal : IsFormalNote r
  · rw [isMatch_formalNotePattern.2 hformal, Bool.or_true, if_pos rfl]
    exact iff_of_true rfl (.inr (.inl hformal))
  replace hhead := hhead.resolve_left hformal
  have hdirective := isMatch_directivePattern_iff hhead
  by_cases hts : "@ts-".toList <+: r
  · rw [hdirective.2 hts, Bool.true_or, if_pos rfl]
    exact iff_of_true rfl (.inl hts)
  have hneither : (directivePattern.isMatch r || formalNotePattern.isMatch r) = false := by
    rw [Bool.or_eq_false_iff, Bool.eq_false_iff, Bool.eq_false_iff, Ne, Ne, hdirective,
      isMatch_formalNotePattern]
    exact ⟨hts, hformal⟩
  rw [hneither, if_neg Bool.false_ne_true, hplace.resolve_left hformal, IsSettled]
  simp only [hts, hformal, false_or, ← informalNote?_eq_none_iff, ← beginning?_eq_none_iff hhead]
  cases informalNote? r with
  | some v => simp
  | none => simp

/-- A comment with its fix in place has nothing to report exactly if what was written is settled in
itself. It is if the comment begins in ASCII, and not with `Note:`. -/
theorem settles_iff_of_verdict? {path : String} {text : Text} {doc : Json} {s s' : Source}
    (h : Source.ofDocument path text doc = .ok s)
    (hapart : s.tokens.all.toList.Pairwise fun a b =>
      a.span.stop ≤ b.span.start ∨ b.span.stop ≤ a.span.start)
    {c : Token} (hc : c ∈ s.tokens.all) {v : Verdict} (hv : verdict? s c = some v) {r : Text}
    (hr : v.replacement = some r)
    (hfixed : (Patch.single ⟨c.span, String.ofList (rewritten c r).text⟩).apply s.text = .ok s'.text)
    (hbefore : ∀ offset, offset ≤ c.span.start →
      s'.tokens.before? offset true = s.tokens.before? offset true) :
    checkComment s c = some ⟨c.span, v.message, some (.safe
      (.single ⟨c.span, String.ofList (rewritten c r).text⟩) "Rewrite the comment.")⟩ ∧
    (verdict? s' (rewritten c r) = none ↔ IsSettled r) ∧
    (¬IsNote (content c) → (∀ a, (content c).head? = some a → a.toNat < 128) → IsSettled r) := by
  have hspanned := Source.spanned_of_ofDocument h hapart
  have hplaced := hspanned.token_placed c hc
  obtain ⟨htrimmed, hrewrites, hplace⟩ := rewrites_of_verdict? hv hr
  refine ⟨by rw [checkComment, hv]; simp [hr, rewritten], ?_, hrewrites.isSettled_of_ascii⟩
  refine verdict?_rewritten_eq_none_iff (hrewrites.trimmed htrimmed) ?_
    hrewrites.isFormalNote_or_capital
  refine hplace.imp_right fun hplace => ?_
  obtain ⟨u, cut, w, hu, hstart, hstop⟩ :=
    Text.exists_append_of_boundaries hplaced.start hplaced.stop hplaced.le
  have hu' : s'.text = u ++ (rewritten c r).text ++ w := by
    rw [(Patch.consistent_single hplaced.le).eq_replaceAll hfixed, hu, Patch.single,
      Text.replaceAll_single w (by rw [Nat.zero_add, hstart]), String.toList_ofList]
    rw [← hstop, ← hstart, Text.size_append]
  rw [List.append_assoc] at hu hu'
  have hsame : isContinuation s' (rewritten c r) = isContinuation s c :=
    isContinuation_congr hspanned hu hu' (hstart ▸ hbefore) hplaced.start (Nat.le_of_eq hstart.symm) rfl
  rw [hsame, hplace]

def ordinalDocument : Json := .obj [
  ("body", .arr []),
  ("comments", .arr [.obj [("range", .arr [.nat 0, .nat 18]), ("type", .str "Line"),
    ("value", .str " º marks degrees")]]),
  ("sourceType", .str "script"), ("tokens", .arr []), ("type", .str "Program")]

def ordinalComment : Token := ⟨.lineComment, ⟨0, 19⟩, "// º marks degrees".toList⟩

def ordinalSource : Source where
  path := "a.js"
  text := "// º marks degrees".toList
  tree := { nodes := #[⟨.program [] .script, ⟨0, 19⟩⟩], children := #[[]], parents := #[none], root := 0 }
  tokens := ⟨#[ordinalComment], #[]⟩

theorem ofDocument_ordinal :
    Source.ofDocument "a.js" ordinalSource.text ordinalDocument = .ok ordinalSource := by
  have hload : Loader.load ordinalSource.text ordinalDocument = .ok ordinalSource.tree.nodes := by
    decide
  have htree : Tree.ofNodes ordinalSource.tree.nodes 0 = .ok ordinalSource.tree := by cbv
  have htokens : TokenIndex.ofList (Loader.tokens ordinalSource.text ordinalDocument) =
      ordinalSource.tokens := by cbv
  rw [Source.ofDocument_eq "a.js" hload htree, htokens]
  rfl

theorem reported_again_ordinal :
    Source.ofDocument "a.js" ordinalSource.text ordinalDocument = .ok ordinalSource ∧
      verdict? ordinalSource ordinalComment =
        some ⟨"Start the comment with a capital letter.", some "º marks degrees".toList⟩ ∧
      rewritten ordinalComment "º marks degrees".toList = ordinalComment ∧
      (Patch.single ⟨ordinalComment.span, String.ofList ordinalComment.text⟩).apply ordinalSource.text =
        .ok ordinalSource.text ∧
      verdict? ordinalSource (rewritten ordinalComment "º marks degrees".toList) ≠ none := by
  have hbody : ordinalComment.commentBody? = some " º marks degrees".toList := by decide
  have hverdict : verdict? ordinalSource ordinalComment =
      some ⟨"Start the comment with a capital letter.", some "º marks degrees".toList⟩ := by
    rw [verdict?_eq hbody (by decide) (by decide), informalNote?, beginning?, directivePattern_eq,
      formalNotePattern_eq, informalNotePattern_eq, notePattern_eq, linkPattern_eq]
    decide +kernel
  have hsame : rewritten ordinalComment "º marks degrees".toList = ordinalComment := by decide +kernel
  refine ⟨ofDocument_ordinal, hverdict, hsame, by decide +kernel, ?_⟩
  rw [hsame, hverdict]
  nofun

def trailingDocument : Json := .obj [
  ("body", .arr [.obj [("range", .arr [.nat 0, .nat 1]), ("type", .str "EmptyStatement")]]),
  ("comments", .arr [.obj [("range", .arr [.nat 2, .nat 11]), ("type", .str "Line"),
    ("value", .str " fix it")]]),
  ("sourceType", .str "script"),
  ("tokens", .arr [.obj [("range", .arr [.nat 0, .nat 1]), ("type", .str "Punctuator"),
    ("value", .str ";")]]),
  ("type", .str "Program")]

def trailingComment : Token := ⟨.lineComment, ⟨2, 11⟩, "// fix it".toList⟩

def trailingSource : Source where
  path := "a.js"
  text := "; // fix it".toList
  tree :=
    { nodes := #[⟨.emptyStatement, ⟨0, 1⟩⟩, ⟨.program [0] .script, ⟨0, 11⟩⟩]
      children := #[[], [0]]
      parents := #[some 1, none]
      root := 1 }
  tokens := ⟨#[⟨.punctuator, ⟨0, 1⟩, [';']⟩, trailingComment], #[⟨.punctuator, ⟨0, 1⟩, [';']⟩]⟩

def trailingResult : Source where
  path := "a.js"
  text := "; // Fix it".toList
  tree := trailingSource.tree
  tokens := ⟨#[⟨.punctuator, ⟨0, 1⟩, [';']⟩, rewritten trailingComment "Fix it".toList],
    #[⟨.punctuator, ⟨0, 1⟩, [';']⟩]⟩

theorem ofDocument_trailing :
    Source.ofDocument "a.js" trailingSource.text trailingDocument = .ok trailingSource := by
  have hload : Loader.load trailingSource.text trailingDocument = .ok trailingSource.tree.nodes := by
    decide
  have htree : Tree.ofNodes trailingSource.tree.nodes 1 = .ok trailingSource.tree := by cbv
  have htokens : TokenIndex.ofList (Loader.tokens trailingSource.text trailingDocument) =
      trailingSource.tokens := by cbv
  rw [Source.ofDocument_eq "a.js" hload htree, htokens]
  rfl

theorem settles_iff_of_verdict?_trailing :
    verdict? trailingSource trailingComment =
        some ⟨"Start the comment with a capital letter.", some "Fix it".toList⟩ ∧
      verdict? trailingResult (rewritten trailingComment "Fix it".toList) = none := by
  have hbody : trailingComment.commentBody? = some " fix it".toList := by decide
  have hverdict : verdict? trailingSource trailingComment =
      some ⟨"Start the comment with a capital letter.", some "Fix it".toList⟩ := by
    rw [verdict?_eq hbody (by decide) (by decide), informalNote?, beginning?, directivePattern_eq,
      formalNotePattern_eq, informalNotePattern_eq, notePattern_eq, linkPattern_eq]
    decide +kernel
  have hnote : ¬IsNote (content trailingComment) := by
    rw [← isMatch_notePattern, notePattern_eq]
    decide +kernel
  have hfixed : (Patch.single ⟨trailingComment.span,
      String.ofList (rewritten trailingComment "Fix it".toList).text⟩).apply trailingSource.text =
      .ok trailingResult.text := by
    decide +kernel
  have hbefore : ∀ offset, offset ≤ trailingComment.span.start →
      trailingResult.tokens.before? offset true = trailingSource.tokens.before? offset true := by
    decide +kernel
  obtain ⟨-, hsettles, hascii⟩ := settles_iff_of_verdict? ofDocument_trailing (by decide)
    (by simp [trailingSource]) hverdict rfl hfixed hbefore
  have hhead : (content trailingComment).head? = some 'f' := by decide
  refine ⟨hverdict, hsettles.2 (hascii hnote fun a ha => ?_)⟩
  cases hhead.symm.trans ha
  decide

end CommentStyle

end ScriptLint
