import ScriptLint.Proofs.CaselessLetters
import ScriptLint.Proofs.PatternRuns

/-! Matches from the start of a text, said of the text alone. Where marks do not matter, a pattern
leads from places to places, and what it leads over is a stretch of characters. -/
namespace ScriptLint.Regex

namespace Cursor

variable {a b c : Cursor} {x : Char} {u v : Text}

def Passes (a : Cursor) (u : Text) (b : Cursor) : Prop :=
  a.rest = u ++ b.rest ∧ b.position = a.position + u.length ∧ b.before = u.getLast?.or a.before

theorem passes_nil : a.Passes [] b ↔ b = a := by
  obtain ⟨n, p, t⟩ := a
  obtain ⟨k, q, u⟩ := b
  simp only [Passes, List.nil_append, List.length_nil, Nat.add_zero, List.getLast?_nil,
    Option.none_or, Cursor.mk.injEq]
  constructor
  · rintro ⟨rfl, rfl, rfl⟩
    exact ⟨rfl, rfl, rfl⟩
  · rintro ⟨rfl, rfl, rfl⟩
    exact ⟨rfl, rfl, rfl⟩

theorem getLast?_cons_or (x : Char) (u : Text) (p : Option Char) :
    (x :: u).getLast?.or p = u.getLast?.or (some x) := by
  rw [List.getLast?_cons]
  cases u.getLast? <;> rfl

theorem passes_cons : a.Passes (x :: u) c ↔ ∃ b, a.Reads x b ∧ b.Passes u c := by
  constructor
  · rintro ⟨hrest, hposition, hbefore⟩
    refine ⟨⟨a.position + 1, some x, u ++ c.rest⟩, ⟨hrest, rfl, rfl⟩, rfl, ?_, ?_⟩
    · rw [hposition, List.length_cons, Nat.add_right_comm, Nat.add_assoc]
    · rw [hbefore, getLast?_cons_or]
  · rintro ⟨b, ⟨hrest, hposition, hbefore⟩, hrest', hposition', hbefore'⟩
    refine ⟨by rw [hrest, hrest']; rfl, ?_, ?_⟩
    · rw [hposition', hposition, List.length_cons]
      omega
    · rw [hbefore', hbefore, getLast?_cons_or]

theorem exists_passes (h : a.rest = u ++ v) : ∃ b, a.Passes u b ∧ b.rest = v :=
  ⟨⟨a.position + u.length, u.getLast?.or a.before, v⟩, ⟨h, rfl, rfl⟩, rfl⟩

theorem before_ne_none_of_upTo (h : a.UpTo b) (hne : b ≠ a) : b.before ≠ none := by
  induction h with
  | here => exact absurd rfl hne
  | @later a b c x hreads hupTo ih =>
    by_cases hcb : c = b
    · rw [hcb, hreads.2.2]
      exact Option.some_ne_none x
    · exact ih hcb

end Cursor

def Stretch.Leads (R : Stretch) (a b : Cursor) : Prop := ∃ m, R a b m

namespace Stretch

variable {R S : Stretch} {a b c : Cursor}

theorem leads_nothing : nothing.Leads a b ↔ b = a :=
  ⟨fun ⟨_, h, _⟩ => h, fun h => ⟨[], h, rfl⟩⟩

theorem leads_mark {slot : Nat} : (mark slot).Leads a b ↔ b = a :=
  ⟨fun ⟨_, h, _⟩ => h, fun h => ⟨_, h, rfl⟩⟩

theorem leads_both : (both R S).Leads a c ↔ ∃ b, R.Leads a b ∧ S.Leads b c := by
  constructor
  · rintro ⟨_, b, l, k, hR, hS, rfl⟩
    exact ⟨b, ⟨l, hR⟩, ⟨k, hS⟩⟩
  · rintro ⟨b, ⟨l, hR⟩, ⟨k, hS⟩⟩
    exact ⟨_, b, l, k, hR, hS, rfl⟩

theorem leads_times_char {set : CharSet} {k : Nat} :
    ((char set).times k).Leads a b ↔
      ∃ u, u.length = k ∧ (∀ x ∈ u, set.has x = true) ∧ a.Passes u b := by
  induction k generalizing a with
  | zero =>
    rw [times, leads_nothing]
    constructor
    · intro h
      exact ⟨[], rfl, by simp, Cursor.passes_nil.2 h⟩
    · rintro ⟨u, hu, -, h⟩
      rw [List.length_eq_zero_iff.1 hu] at h
      exact Cursor.passes_nil.1 h
  | succ k ih =>
    rw [times, leads_both]
    constructor
    · rintro ⟨c, ⟨_, x, hreads, hx, -⟩, h⟩
      obtain ⟨u, rfl, hall, hpasses⟩ := ih.1 h
      exact ⟨x :: u, rfl, List.forall_mem_cons.2 ⟨hx, hall⟩,
        Cursor.passes_cons.2 ⟨c, hreads, hpasses⟩⟩
    · rintro ⟨u, hu, hall, hpasses⟩
      obtain ⟨x, u, rfl⟩ := List.exists_cons_of_length_eq_add_one hu
      obtain ⟨hx, hall⟩ := List.forall_mem_cons.1 hall
      obtain ⟨c, hreads, hpasses⟩ := Cursor.passes_cons.1 hpasses
      exact ⟨c, ⟨[], x, hreads, hx, rfl⟩, ih.2 ⟨u, Nat.succ.inj hu, hall, hpasses⟩⟩

theorem leads_spells {w : List Char} : (spells w).Leads a b ↔ a.Passes w b := by
  induction w generalizing a with
  | nil => exact leads_nothing.trans Cursor.passes_nil.symm
  | cons c w ih =>
    have hsingle (x : Char) : Unicode.CodeSet.has (.single c) x = true ↔ x = c := by
      rw [← Char.toNat_inj]
      simp [Unicode.CodeSet.has, Unicode.CodeSet.single, Unicode.CodeSet.inAscending]
      omega
    rw [spells, leads_both, Cursor.passes_cons]
    constructor
    · rintro ⟨d, ⟨_, x, hreads, hx, -⟩, h⟩
      exact ⟨d, (hsingle x).1 hx ▸ hreads, ih.1 h⟩
    · rintro ⟨d, hreads, h⟩
      exact ⟨d, ⟨[], c, hreads, (hsingle c).2 rfl, rfl⟩, ih.2 h⟩

end Stretch

namespace Pattern

variable {a b c : Cursor}

theorem leads_look {l : Look} :
    (look l).Matches.Leads a b ↔ l.holds a.place = true ∧ b = a :=
  ⟨fun ⟨_, hl, h, _⟩ => ⟨hl, h⟩, fun ⟨hl, h⟩ => ⟨[], hl, h, rfl⟩⟩

theorem leads_literal {w : List Char} : (literal w).Matches.Leads a b ↔ a.Passes w b :=
  Stretch.leads_spells

theorem leads_chars {set : CharSet} :
    (chars set).Matches.Leads a b ↔ ∃ x, set.has x = true ∧ a.Passes [x] b := by
  simp only [Cursor.passes_cons, Cursor.passes_nil]
  constructor
  · rintro ⟨_, x, hreads, hx, -⟩
    exact ⟨x, hx, b, hreads, rfl⟩
  · rintro ⟨x, hx, _, hreads, rfl⟩
    exact ⟨[], x, hreads, hx, rfl⟩

theorem leads_nil : (MatchesAll []).Leads a b ↔ b = a := Stretch.leads_nothing

theorem leads_cons {p : Pattern} {ps : List Pattern} :
    (MatchesAll (p :: ps)).Leads a c ↔ ∃ b, p.Matches.Leads a b ∧ (MatchesAll ps).Leads b c :=
  Stretch.leads_both

theorem leads_append {ps qs : List Pattern} :
    (MatchesAll (ps ++ qs)).Leads a c ↔
      ∃ b, (MatchesAll ps).Leads a b ∧ (MatchesAll qs).Leads b c := by
  induction ps generalizing a with
  | nil => simp only [List.nil_append, leads_nil, exists_eq_left]
  | cons p ps ih =>
    simp only [List.cons_append, leads_cons, ih]
    constructor
    · rintro ⟨b, hp, d, hps, hqs⟩
      exact ⟨d, ⟨b, hp, hps⟩, hqs⟩
    · rintro ⟨d, ⟨b, hp, hps⟩, hqs⟩
      exact ⟨b, hp, d, hps, hqs⟩

theorem leads_alt {ps : List Pattern} :
    (alt ps).Matches.Leads a b ↔ ∃ p ∈ ps, p.Matches.Leads a b := by
  simp only [Stretch.Leads, Matches, matchesAny_iff]
  constructor
  · rintro ⟨m, p, hp, h⟩
    exact ⟨p, hp, m, h⟩
  · rintro ⟨p, hp, m, h⟩
    exact ⟨m, p, hp, h⟩

def letters (w : List Char) : List Pattern := w.map fun c => .chars (.letter c)

theorem leads_letters {w : List Char} (hw : w.all Char.isLower = true) :
    (MatchesAll (letters w)).Leads a b ↔ ∃ u, u.map Unicode.smallLetter = w ∧ a.Passes u b := by
  induction w generalizing a with
  | nil =>
    refine Stretch.leads_nothing.trans ⟨fun h => ⟨[], rfl, Cursor.passes_nil.2 h⟩, ?_⟩
    rintro ⟨u, hu, h⟩
    rw [List.map_eq_nil_iff.1 hu] at h
    exact Cursor.passes_nil.1 h
  | cons c w ih =>
    obtain ⟨hc, hw⟩ := Bool.and_eq_true_iff.1 hw
    rw [letters, List.map_cons, MatchesAll, Stretch.leads_both]
    constructor
    · rintro ⟨d, ⟨_, x, hreads, hx, -⟩, h⟩
      obtain ⟨u, hu, hpasses⟩ := (ih hw).1 h
      refine ⟨x :: u, ?_, Cursor.passes_cons.2 ⟨d, hreads, hpasses⟩⟩
      rw [List.map_cons, (Unicode.CodeSet.has_letter hc).1 hx, hu]
    · rintro ⟨_ | ⟨x, u⟩, hu, h⟩
      · cases hu
      · obtain ⟨hx, hu⟩ := List.cons.inj hu
        obtain ⟨d, hreads, hpasses⟩ := Cursor.passes_cons.1 h
        exact ⟨d, ⟨[], x, hreads, (Unicode.CodeSet.has_letter hc).2 hx, rfl⟩,
          (ih hw).2 ⟨u, hu, hpasses⟩⟩

theorem leads_group {index : Nat} {p : Pattern} :
    (group index p).Matches.Leads a b ↔ p.Matches.Leads a b := by
  simp only [Matches, Stretch.leads_both, Stretch.leads_mark, exists_eq_left,
    exists_eq_right']

theorem leads_star {set : CharSet} {greedy : Bool} :
    (rep 0 none greedy (.chars set)).Matches.Leads a b ↔
      ∃ u, (∀ x ∈ u, set.has x = true) ∧ a.Passes u b := by
  have htimes (k : Nat) : ((Stretch.char set).times k).Leads a b ↔
      ∃ u, u.length = k ∧ (∀ x ∈ u, set.has x = true) ∧ a.Passes u b :=
    Stretch.leads_times_char
  constructor
  · rintro ⟨m, k, -, -, h⟩
    obtain ⟨u, -, hall, hpasses⟩ := (htimes k).1 ⟨m, h⟩
    exact ⟨u, hall, hpasses⟩
  · rintro ⟨u, hall, hpasses⟩
    obtain ⟨m, h⟩ := (htimes u.length).2 ⟨u, rfl, hall, hpasses⟩
    exact ⟨m, u.length, Nat.zero_le _, by simp, h⟩

end Pattern

theorem isMatch_seq_textStart {ps : List Pattern} {t : Text} :
    (ofPattern (.seq (.look .textStart :: ps))).isMatch t = true ↔
      ∃ b, (Pattern.MatchesAll ps).Leads (.start t) b := by
  have hmatches {a b : Cursor} : (Pattern.seq (.look .textStart :: ps)).Matches.Leads a b ↔
      a.before.isNone = true ∧ (Pattern.MatchesAll ps).Leads a b := by
    refine Stretch.leads_both.trans ⟨?_, fun ⟨hnone, h⟩ => ⟨a, ⟨[], hnone, rfl, rfl⟩, h⟩⟩
    rintro ⟨_, ⟨_, hnone, rfl, -⟩, h⟩
    exact ⟨hnone, h⟩
  rw [isMatch_iff]
  constructor
  · rintro ⟨a, b, m, hupTo, h⟩
    obtain ⟨hnone, h⟩ := hmatches.1 ⟨m, h⟩
    have hstart : a = .start t := by
      by_contra hne
      exact Cursor.before_ne_none_of_upTo hupTo hne (Option.isNone_iff_eq_none.1 hnone)
    exact ⟨b, hstart ▸ h⟩
  · rintro ⟨b, h⟩
    obtain ⟨m, h⟩ := hmatches.2 ⟨rfl, h⟩
    exact ⟨.start t, b, m, .here _, h⟩

end ScriptLint.Regex
