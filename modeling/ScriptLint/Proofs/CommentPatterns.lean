import Mathlib
import ScriptLint.Proofs.AnchoredMatches
import ScriptLint.Proofs.CharacterSets
import ScriptLint.Proofs.PatternRoom
import ScriptLint.Rule.CommentStyle

/-! What the patterns for comments match, in plain terms. Each pattern is read once, as a tree; from
the tree follows what a text begins with, what comes next and what has to be left. -/
namespace ScriptLint

namespace Regex

/-! Sets of characters in the patterns. -/

def blankSet : CharSet :=
  ⟨[(9, 13), (32, 32), (133, 133), (160, 160), (5760, 5760), (8192, 8202), (8232, 8233),
    (8239, 8239), (8287, 8287), (12288, 12288)]⟩

def nonBlankSet : CharSet :=
  ⟨[(0, 8), (14, 31), (33, 132), (134, 159), (161, 5759), (5761, 8191), (8203, 8231), (8234, 8238),
    (8240, 8286), (8288, 12287), (12289, 55295), (57344, 1114111)]⟩

def inLineSet : CharSet := ⟨[(0, 9), (11, 55295), (57344, 1114111)]⟩

def noteMarkSet : CharSet :=
  ⟨[(9, 13), (32, 33), (45, 46), (58, 58), (133, 133), (160, 160), (5760, 5760), (8192, 8202),
    (8232, 8233), (8239, 8239), (8287, 8287), (12288, 12288)]⟩

theorem toNat_valid (c : Char) : c.toNat < 55296 ∨ (57343 < c.toNat ∧ c.toNat < 1114112) := c.valid

theorem has_blankSet {c : Char} : blankSet.has c = true ↔ isBlank c = true := by
  simp [Unicode.CodeSet.has, blankSet, Unicode.CodeSet.inAscending, isBlank]
  omega

theorem has_nonBlankSet {c : Char} : nonBlankSet.has c = true ↔ isBlank c = false := by
  have hvalid := toNat_valid c
  simp [Unicode.CodeSet.has, nonBlankSet, Unicode.CodeSet.inAscending, isBlank]
  omega

theorem has_inLineSet {c : Char} : inLineSet.has c = true ↔ c ≠ '\n' := by
  have hvalid := toNat_valid c
  rw [ne_eq, ← Char.toNat_inj]
  simp [Unicode.CodeSet.has, inLineSet, Unicode.CodeSet.inAscending]
  omega

end Regex

namespace CommentStyle

open Regex

def isNoteMark (c : Char) : Bool := isBlank c || c == ':' || c == '!' || c == '.' || c == '-'

theorem has_noteMarkSet {c : Char} : noteMarkSet.has c = true ↔ isNoteMark c = true := by
  simp only [isNoteMark, Bool.or_eq_true, beq_iff_eq, ← Char.toNat_inj]
  simp [Unicode.CodeSet.has, noteMarkSet, Unicode.CodeSet.inAscending, isBlank]
  omega

/-! The patterns as trees. -/

def boundary : Pattern := .look (.word false .boundary)

def maybe (c : Char) : Pattern := .rep 0 (some 1) true (.literal [c])

def star (set : CharSet) : Pattern := .rep 0 none true (.chars set)

def directiveWays : List Pattern :=
  [.literal "eslint".toList, .seq [.literal "global".toList, maybe 's', boundary],
    .literal "@ts-".toList, .seq [.literal "istanbul".toList, boundary],
    .literal "prettier-ignore".toList,
    .seq [.literal "fall".toList, maybe 's', maybe ' ', .literal "through".toList, boundary]]

def formalParts : List Pattern :=
  [.alt [.literal "TODO".toList, .literal "HACK".toList], .literal ": ".toList,
    .chars nonBlankSet]

def noteWords : List Text := ["todo".toList, "fixme".toList, "hack".toList, "xxx".toList]

def informalParts : List Pattern :=
  [.group 1 (.alt (noteWords.map fun w => .seq (Pattern.letters w))), boundary, star noteMarkSet,
    .group 2 (star inLineSet), .look .textEnd]

def noteParts : List Pattern :=
  Pattern.letters "note".toList ++
    [.literal [':'], star blankSet, .group 1 (star inLineSet), .look .textEnd]

def schemeSet : CharSet := ⟨[(43, 43), (45, 46), (48, 57), (97, 122)]⟩

def linkParts : List Pattern :=
  [.chars ⟨[(97, 122)]⟩, star schemeSet, .literal "://".toList,
    .rep 1 none true (.chars nonBlankSet)]

theorem known_eq {s : String} {p : Pattern}
    (hread : (readParts (s.toList.length + 1) {} s.toList).map (fun r =>
      (r.body.1, r.openGroups.isEmpty && r.body.2 ≤ maxDepth)) = some (p, true))
    (hcost : ∀ backwards, p.cost backwards + 9 * Layout.stateRoom ≤ Layout.maxRoom) :
    Regex.known s = ofPattern p := by
  obtain ⟨r, hr, heq⟩ := Option.map_eq_some_iff.1 hread
  obtain ⟨hbody, hclosed⟩ := Prod.mk.inj heq
  have hparse : Pattern.parse? s.toList = some p := by
    simp only [Pattern.parse?, hr, Option.bind_eq_bind, Option.bind_some, hbody, hclosed,
      Pattern.fits_of_cost hcost, Bool.and_self, if_true]
  rw [Regex.known, parse?, hparse]
  rfl

set_option maxRecDepth 4000 in
theorem directivePattern_eq :
    directivePattern = ofPattern (.seq [.look .textStart, .alt directiveWays]) :=
  known_eq rfl (by decide)

set_option maxRecDepth 4000 in
theorem formalNotePattern_eq :
    formalNotePattern = ofPattern (.seq (.look .textStart :: formalParts)) :=
  known_eq (by cbv) (by decide)

set_option maxRecDepth 4000 in
theorem linkPattern_eq : linkPattern = ofPattern (.seq (.look .textStart :: linkParts)) :=
  known_eq (by cbv) (by decide)

/-- What has been read before the words of an informal note: a group without regard to case, and in
it the first numbered one. -/
def beforeWords : Reading where
  flags := [.caseless, .unicode]
  openGroups :=
    [⟨some 1, [.caseless, .unicode], [], []⟩,
      ⟨none, .default, [], [.pattern (.look .textStart) 0]⟩]
  groups := 1

set_option maxRecDepth 4000 in
theorem informalNotePattern_eq :
    informalNotePattern = ofPattern (.seq (.look .textStart :: informalParts)) := by
  have hwords := @readParts_barred 23 beforeWords "todo".toList
    ["fixme".toList, "hack".toList, "xxx".toList] "))\\b[\\s:!.\\-]*(.*)$".toList
    rfl rfl rfl rfl rfl rfl
  have hread : readParts (3 + 42) {} "^(?i:(todo|fixme|hack|xxx))\\b[\\s:!.\\-]*(.*)$".toList =
      readParts 42 beforeWords "todo|fixme|hack|xxx))\\b[\\s:!.\\-]*(.*)$".toList :=
    readParts_of_readSome rfl
  refine known_eq ((congrArg (Option.map _) (hread.trans hwords)).trans ?_) (by decide)
  cbv

def beforeNote : Reading where
  flags := [.caseless, .unicode]
  openGroups := [⟨none, .default, [], [.pattern (.look .textStart) 0]⟩]

set_option maxRecDepth 4000 in
theorem notePattern_eq : notePattern = ofPattern (.seq (.look .textStart :: noteParts)) := by
  have hword := readParts_caseless (n := 14) (r := beforeNote)
       (w := "note".toList) "):\\s*(.*)$".toList rfl rfl rfl rfl
  have hread : readParts (2 + 18) {} "^(?i:note):\\s*(.*)$".toList =
      readParts 18 beforeNote "note):\\s*(.*)$".toList :=
    readParts_of_readSome rfl
  refine known_eq ((congrArg (Option.map _) (hread.trans hword)).trans ?_) (by decide)
  cbv

/-! What the patterns match. -/

variable {t : Text}

/-- A note as it should be: a tag, a colon, a space and more. -/
def IsFormalNote (t : Text) : Prop :=
  ∃ tag c u, tag ∈ ["TODO".toList, "HACK".toList] ∧ t = tag ++ ": ".toList ++ c :: u ∧
    isBlank c = false

/-- A word that marks notes, in whatever case, which ends there; the text of the note, behind the
marks that may follow the word, is on one line. -/
def IsInformalNote (t : Text) : Prop :=
  ∃ u v, t = u ++ v ∧ u.map Unicode.smallLetter ∈ noteWords ∧ v.head?.any isWordChar = false ∧
    '\n' ∉ v.dropWhile isNoteMark

/-- A text after `Note:`, in whatever case, on one line. -/
def IsNote (t : Text) : Prop :=
  ∃ u v, t = u ++ ':' :: v ∧ u.map Unicode.smallLetter = "note".toList ∧
    '\n' ∉ v.dropWhile isBlank

theorem isMatch_formalNotePattern : formalNotePattern.isMatch t = true ↔ IsFormalNote t := by
  rw [formalNotePattern_eq, isMatch_seq_textStart]
  simp only [formalParts, Pattern.leads_cons, Pattern.leads_nil, Pattern.leads_alt,
    Pattern.leads_literal, Pattern.leads_chars, has_nonBlankSet]
  constructor
  · rintro ⟨_, b, ⟨p, hp, htag⟩, c, ⟨hcolon, -⟩, d, ⟨x, hblank, hx, -⟩, -⟩
    obtain ⟨tag, hmem, rfl⟩ : ∃ tag ∈ ["TODO".toList, "HACK".toList], .literal tag = p := by
      simpa [eq_comm] using hp
    have hrest : t = tag ++ b.rest := (Pattern.leads_literal.1 htag).1
    refine ⟨tag, x, d.rest, hmem, ?_, hblank⟩
    rw [hrest, hcolon, hx, List.append_assoc]
    rfl
  · rintro ⟨tag, x, u, hmem, ht, hblank⟩
    rw [List.append_assoc] at ht
    obtain ⟨b, htag, hb⟩ := Cursor.exists_passes (a := .start t) ht
    obtain ⟨c, hcolon, hc⟩ := Cursor.exists_passes hb
    obtain ⟨d, hx, -⟩ := Cursor.exists_passes (u := [x]) hc
    refine ⟨d, b, ⟨.literal tag, ?_, Pattern.leads_literal.2 htag⟩, c, hcolon, d, ⟨x, hblank, hx⟩, rfl⟩
    simpa [eq_comm] using hmem

theorem exists_cut_iff {v : Text} {p : Char → Bool} :
    (∃ x y : Text, v = x ++ y ∧ (∀ c ∈ x, p c = true) ∧ '\n' ∉ y) ↔ '\n' ∉ v.dropWhile p := by
  constructor
  · rintro ⟨x, y, rfl, hx, hy⟩ hmem
    rw [List.dropWhile_append_of_pos hx] at hmem
    exact hy ((List.dropWhile_sublist _).subset hmem)
  · intro h
    exact ⟨v.takeWhile p, v.dropWhile p, (List.takeWhile_append_dropWhile ..).symm,
      fun c hc => List.mem_takeWhile_imp hc, h⟩

theorem leads_restOfLine {set : CharSet} {p : Char → Bool} {n : Nat} {a : Cursor}
    (hset : ∀ {c}, set.has c = true ↔ p c = true) :
    (∃ b, (Pattern.MatchesAll [star set, .group n (star inLineSet), .look .textEnd]).Leads a b) ↔
      '\n' ∉ a.rest.dropWhile p := by
  have hend (b : Cursor) : Look.textEnd.holds b.place = true ↔ b.rest = [] := by
    rw [Look.holds, Cursor.place, Option.isNone_iff_eq_none, List.head?_eq_none_iff]
  simp only [Pattern.leads_cons, Pattern.leads_nil, Pattern.leads_group, star, Pattern.leads_star,
    Pattern.leads_look, hset, has_inLineSet, hend]
  rw [← exists_cut_iff]
  constructor
  · rintro ⟨_, b, ⟨x, hx, hb, -⟩, c, ⟨y, hy, hc, -⟩, _, ⟨hrest, rfl⟩, -⟩
    rw [hrest, List.append_nil] at hc
    exact ⟨x, y, hc ▸ hb, hx, fun hmem => hy _ hmem rfl⟩
  · rintro ⟨x, y, ha, hx, hy⟩
    obtain ⟨b, hb, hrest⟩ := Cursor.exists_passes ha
    obtain ⟨c, hc, hend⟩ := Cursor.exists_passes (v := []) (hrest.trans (List.append_nil y).symm)
    exact ⟨c, b, ⟨x, hx, hb⟩, c, ⟨y, fun d hd hbreak => hy (hbreak ▸ hd), hc⟩, c, ⟨hend, rfl⟩, rfl⟩

theorem isMatch_notePattern : notePattern.isMatch t = true ↔ IsNote t := by
  rw [notePattern_eq, isMatch_seq_textStart]
  constructor
  · rintro ⟨d, h⟩
    obtain ⟨b, hword, h⟩ := Pattern.leads_append.1 h
    obtain ⟨c, hcolon, h⟩ := Pattern.leads_cons.1 h
    obtain ⟨u, hu, ht, -⟩ := (Pattern.leads_letters rfl).1 hword
    have hb : b.rest = ':' :: c.rest := (Pattern.leads_literal.1 hcolon).1
    exact ⟨u, c.rest, hb ▸ ht, hu, (leads_restOfLine has_blankSet).1 ⟨d, h⟩⟩
  · rintro ⟨u, v, ht, hu, hline⟩
    obtain ⟨b, hword, hb⟩ := Cursor.exists_passes (a := .start t) ht
    obtain ⟨c, hcolon, hc⟩ := Cursor.exists_passes (u := [':']) hb
    obtain ⟨d, h⟩ := (leads_restOfLine (n := 1) has_blankSet).2 (hc ▸ hline)
    exact ⟨d, Pattern.leads_append.2 ⟨b, (Pattern.leads_letters rfl).2 ⟨u, hu, hword⟩,
      Pattern.leads_cons.2 ⟨c, Pattern.leads_literal.2 hcolon, h⟩⟩⟩

theorem mem_noteWords {w : Text} (h : w ∈ noteWords) : w.all Char.isLower = true ∧ w ≠ [] := by
  revert w
  decide

theorem leads_boundary {u : Text} {a b c : Cursor} (hu : u.map Unicode.smallLetter ∈ noteWords)
    (h : a.Passes u b) :
    boundary.Matches.Leads b c ↔ b.rest.head?.any isWordChar = false ∧ c = b := by
  obtain ⟨hlower, hne⟩ := mem_noteWords hu
  obtain ⟨x, hx⟩ : ∃ x, u.getLast? = some x :=
    Option.ne_none_iff_exists'.1 fun hnone =>
      hne (List.map_eq_nil_iff.2 (List.getLast?_eq_none_iff.1 hnone))
  have hword : isWordChar x = true :=
    isWordChar_of_isLower (List.all_eq_true.1 hlower _
      (List.mem_map_of_mem (List.mem_of_getLast? hx)))
  have hbefore : b.before = some x := by rw [h.2.2, hx, Option.some_or]
  rw [boundary, Pattern.leads_look]
  simp only [Look.holds, Cursor.place, WordLook.holds, hbefore, Option.any_some,
    Bool.false_eq_true, if_false, hword, bne_iff_ne, ne_eq, eq_comm (a := true), Bool.not_eq_true]

theorem isMatch_informalNotePattern : informalNotePattern.isMatch t = true ↔ IsInformalNote t := by
  have hwords {b : Cursor} :
      (Pattern.alt (noteWords.map fun w => .seq (Pattern.letters w))).Matches.Leads (.start t) b ↔
        ∃ u, u.map Unicode.smallLetter ∈ noteWords ∧ (Cursor.start t).Passes u b := by
    rw [Pattern.leads_alt]
    constructor
    · rintro ⟨p, hp, h⟩
      obtain ⟨w, hw, rfl⟩ := List.mem_map.1 hp
      obtain ⟨u, rfl, hpasses⟩ := (Pattern.leads_letters (mem_noteWords hw).1).1 h
      exact ⟨u, hw, hpasses⟩
    · rintro ⟨u, hu, hpasses⟩
      exact ⟨_, List.mem_map_of_mem hu,
        (Pattern.leads_letters (mem_noteWords hu).1).2 ⟨u, rfl, hpasses⟩⟩
  rw [informalNotePattern_eq, isMatch_seq_textStart]
  constructor
  · rintro ⟨d, h⟩
    obtain ⟨b, hgroup, hbehind⟩ := Pattern.leads_cons.1 h
    obtain ⟨u, hu, hpasses⟩ := hwords.1 (Pattern.leads_group.1 hgroup)
    obtain ⟨c, hlook, hline⟩ := Pattern.leads_cons.1 hbehind
    obtain ⟨hnext, rfl⟩ := (leads_boundary hu hpasses).1 hlook
    exact ⟨u, c.rest, hpasses.1, hu, hnext, (leads_restOfLine has_noteMarkSet).1 ⟨d, hline⟩⟩
  · rintro ⟨u, v, ht, hu, hnext, hline⟩
    obtain ⟨b, hpasses, rfl⟩ := Cursor.exists_passes (a := .start t) ht
    obtain ⟨d, h⟩ := (leads_restOfLine (n := 2) has_noteMarkSet).2 hline
    exact ⟨d, Pattern.leads_cons.2 ⟨b, Pattern.leads_group.2 (hwords.2 ⟨u, hu, hpasses⟩),
      Pattern.leads_cons.2 ⟨b, (leads_boundary hu hpasses).2 ⟨hnext, rfl⟩, h⟩⟩⟩

def directiveWords : List Text :=
  ["eslint".toList, "global".toList, "@ts-".toList, "istanbul".toList, "prettier-ignore".toList,
    "fall".toList]

theorem prefix_of_directive (h : directivePattern.isMatch t = true) :
    ∃ w ∈ directiveWords, w <+: t := by
  rw [directivePattern_eq, isMatch_seq_textStart] at h
  obtain ⟨_, h⟩ := h
  obtain ⟨b, h, -⟩ := Pattern.leads_cons.1 h
  obtain ⟨p, hp, h⟩ := Pattern.leads_alt.1 h
  have hword : ∃ w ∈ directiveWords, ∃ q, (Pattern.literal w).Matches.Leads (.start t) q := by
    simp only [directiveWays, List.mem_cons, List.not_mem_nil, or_false] at hp
    rcases hp with rfl | rfl | rfl | rfl | rfl | rfl
    · exact ⟨_, by simp [directiveWords], b, h⟩
    · obtain ⟨q, h, -⟩ := Pattern.leads_cons.1 h
      exact ⟨_, by simp [directiveWords], q, h⟩
    · exact ⟨_, by simp [directiveWords], b, h⟩
    · obtain ⟨q, h, -⟩ := Pattern.leads_cons.1 h
      exact ⟨_, by simp [directiveWords], q, h⟩
    · exact ⟨_, by simp [directiveWords], b, h⟩
    · obtain ⟨q, h, -⟩ := Pattern.leads_cons.1 h
      exact ⟨_, by simp [directiveWords], q, h⟩
  obtain ⟨w, hw, q, h⟩ := hword
  have ht : t = w ++ q.rest := (Pattern.leads_literal.1 h).1
  exact ⟨w, hw, q.rest, ht.symm⟩

theorem isMatch_directivePattern_of_prefix (h : "@ts-".toList <+: t) :
    directivePattern.isMatch t = true := by
  obtain ⟨u, hu⟩ := h
  obtain ⟨b, hb, -⟩ := Cursor.exists_passes (a := .start t) hu.symm
  rw [directivePattern_eq, isMatch_seq_textStart]
  refine ⟨b, Pattern.leads_cons.2 ⟨b, Pattern.leads_alt.2 ⟨_, ?_, Pattern.leads_literal.2 hb⟩, ?_⟩⟩
  · simp [directiveWays]
  · exact Pattern.leads_nil.2 rfl

theorem head?_of_link (h : linkPattern.isMatch t = true) :
    ∃ c, c.isLower = true ∧ t.head? = some c := by
  rw [linkPattern_eq, isMatch_seq_textStart] at h
  obtain ⟨_, h⟩ := h
  obtain ⟨b, h, -⟩ := Pattern.leads_cons.1 h
  obtain ⟨x, hx, hpasses⟩ := Pattern.leads_chars.1 h
  have ht : t = [x] ++ b.rest := hpasses.1
  refine ⟨x, ?_, by rw [ht]; rfl⟩
  simpa [Unicode.CodeSet.has, Unicode.CodeSet.inAscending, Char.isLower, UInt32.le_iff_toNat_le,
    ← Char.toNat_val] using hx

end CommentStyle
end ScriptLint
