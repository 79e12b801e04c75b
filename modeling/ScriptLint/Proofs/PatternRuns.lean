import Mathlib.Data.List.Forall2
import Mathlib.Tactic.Set
import ScriptLint.Proofs.SearchRuns

/-! What the program of a pattern accepts. A pattern is read as a relation between places of a text
and marks; the code that is put before a program reads a stretch of that relation and goes on with
the program. -/
namespace ScriptLint.Regex

/-- Stretches of a text: from where, to where, and with which marks, the last one first. -/
abbrev Stretch := Cursor → Cursor → Marks → Prop

namespace Stretch

def nothing : Stretch := fun a b m => b = a ∧ m = []

def char (set : CharSet) : Stretch := fun a b m => ∃ x, a.Reads x b ∧ set.has x = true ∧ m = []

def looks (l : Look) : Stretch := fun a b m => l.holds a.place = true ∧ b = a ∧ m = []

def mark (slot : Nat) : Stretch := fun a b m => b = a ∧ m = [(slot, a.position)]

def both (R S : Stretch) : Stretch :=
  fun a c m => ∃ b l k, R a b l ∧ S b c k ∧ m = k ++ l

def either (R S : Stretch) : Stretch := fun a b m => R a b m ∨ S a b m

def times (R : Stretch) : Nat → Stretch
  | 0 => nothing
  | k + 1 => both R (times R k)

def upTo (R : Stretch) (n : Nat) : Stretch := fun a b m => ∃ k, k ≤ n ∧ R.times k a b m

def atLeast (R : Stretch) (n : Nat) : Stretch := fun a b m => ∃ k, n ≤ k ∧ R.times k a b m

def spells : List Char → Stretch
  | [] => nothing
  | c :: w => both (char (.single c)) (spells w)

variable {R S T : Stretch} {a b : Cursor} {m : Marks}

theorem nothing_both : (both nothing R) a b m ↔ R a b m := by
  constructor
  · rintro ⟨_, _, k, ⟨rfl, rfl⟩, h, rfl⟩
    rwa [List.append_nil]
  · intro h
    exact ⟨a, [], m, ⟨rfl, rfl⟩, h, (List.append_nil m).symm⟩

theorem both_nothing : (both R nothing) a b m ↔ R a b m := by
  constructor
  · rintro ⟨_, l, _, h, ⟨rfl, rfl⟩, rfl⟩
    exact h
  · intro h
    exact ⟨b, m, [], h, ⟨rfl, rfl⟩, rfl⟩

theorem both_assoc : both (both R S) T a b m ↔ both R (both S T) a b m := by
  constructor
  · rintro ⟨d, _, k, ⟨c, l, j, hR, hS, rfl⟩, hT, rfl⟩
    exact ⟨c, l, k ++ j, hR, ⟨d, j, k, hS, hT, rfl⟩, (List.append_assoc ..).symm⟩
  · rintro ⟨c, l, _, hR, ⟨d, j, k, hS, hT, rfl⟩, rfl⟩
    exact ⟨d, j ++ l, k, ⟨c, l, j, hR, hS, rfl⟩, hT, List.append_assoc ..⟩

theorem both_congr {R' S' : Stretch} (hR : ∀ {a b m}, R a b m ↔ R' a b m)
    (hS : ∀ {a b m}, S a b m ↔ S' a b m) : (both R S) a b m ↔ both R' S' a b m := by
  simp only [both, hR, hS]

theorem times_add (R : Stretch) (n k : Nat) {a b : Cursor} {m : Marks} :
    R.times (n + k) a b m ↔ both (R.times n) (R.times k) a b m := by
  induction n generalizing a b m with
  | zero => rw [Nat.zero_add]; exact nothing_both.symm
  | succ n ih =>
    rw [Nat.succ_add]
    exact (both_congr Iff.rfl ih).trans both_assoc.symm

theorem both_exists {P : Nat → Prop} {T : Nat → Stretch} :
    both R (fun a b m => ∃ k, P k ∧ T k a b m) a b m ↔ ∃ k, P k ∧ both R (T k) a b m := by
  constructor
  · rintro ⟨c, l, j, hR, ⟨k, hk, hT⟩, rfl⟩
    exact ⟨k, hk, c, l, j, hR, hT, rfl⟩
  · rintro ⟨k, hk, c, l, j, hR, hT, rfl⟩
    exact ⟨c, l, j, hR, ⟨k, hk, hT⟩, rfl⟩

theorem either_both_upTo (n : Nat) :
    either (both R (R.upTo n)) nothing a b m ↔ R.upTo (n + 1) a b m := by
  refine (or_congr_left (both_exists (P := (· ≤ n)) (T := R.times))).trans ?_
  constructor
  · rintro (⟨k, hk, h⟩ | h)
    · exact ⟨k + 1, Nat.succ_le_succ hk, h⟩
    · exact ⟨0, Nat.zero_le _, h⟩
  · rintro ⟨k, hk, h⟩
    cases k with
    | zero => exact .inr h
    | succ k => exact .inl ⟨k, Nat.le_of_succ_le_succ hk, h⟩

theorem either_atLeast : either (R.atLeast 1) nothing a b m ↔ R.atLeast 0 a b m := by
  constructor
  · rintro (⟨k, -, h⟩ | h)
    · exact ⟨k, Nat.zero_le _, h⟩
    · exact ⟨0, Nat.le_refl 0, h⟩
  · rintro ⟨k, -, h⟩
    cases k with
    | zero => exact .inr h
    | succ k => exact .inl ⟨k + 1, Nat.succ_pos k, h⟩

theorem both_times_atLeast (n : Nat) :
    both (R.times n) (R.atLeast 1) a b m ↔ R.atLeast (n + 1) a b m := by
  refine (both_exists (P := (1 ≤ ·)) (T := R.times)).trans ?_
  constructor
  · rintro ⟨k, hk, h⟩
    exact ⟨n + k, Nat.add_le_add_left hk n, (times_add R n k).2 h⟩
  · rintro ⟨k, hk, h⟩
    obtain ⟨j, rfl⟩ := Nat.exists_eq_add_of_le (Nat.le_of_succ_le hk)
    exact ⟨j, by omega, (times_add R n j).1 h⟩

theorem both_times_upTo (n k : Nat) :
    both (R.times n) (R.upTo k) a b m ↔ ∃ j, n ≤ j ∧ j ≤ n + k ∧ R.times j a b m := by
  refine (both_exists (P := (· ≤ k)) (T := R.times)).trans ?_
  constructor
  · rintro ⟨j, hj, h⟩
    exact ⟨n + j, Nat.le_add_right n j, Nat.add_le_add_left hj n, (times_add R n j).2 h⟩
  · rintro ⟨j, hn, hj, h⟩
    obtain ⟨i, rfl⟩ := Nat.exists_eq_add_of_le hn
    exact ⟨i, Nat.le_of_add_le_add_left hj, (times_add R n i).1 h⟩

end Stretch

namespace Pattern

mutual

def Matches : Pattern → Stretch
  | .empty => .nothing
  | .literal w => .spells w
  | .chars set => .char set
  | .look l => .looks l
  | .group index p => .both (.mark (2 * index)) (.both p.Matches (.mark (2 * index + 1)))
  | .rep min max _ p => fun a b m =>
    ∃ k, min ≤ k ∧ (∀ n, max = some n → k ≤ Nat.max min n) ∧ p.Matches.times k a b m
  | .seq ps => MatchesAll ps
  | .alt ps => MatchesAny ps

def MatchesAll : List Pattern → Stretch
  | [] => .nothing
  | p :: ps => .both p.Matches (MatchesAll ps)

def MatchesAny : List Pattern → Stretch
  | [] => fun _ _ _ => False
  | p :: ps => .either p.Matches (MatchesAny ps)

end

end Pattern

/-! Pieces of code. -/

/-- From an instruction on, code reads a stretch and goes on with another instruction. -/
structure Joins (code : Array Instr) (e out : Nat) (R : Stretch) : Prop where
  split : ∀ {n a m}, Accepts code n e a m →
    ∃ b l k j, j ≤ n ∧ R a b l ∧ Accepts code j out b k ∧ m = k ++ l
  join : ∀ {a b l k j}, R a b l → Accepts code j out b k → ∃ n, Accepts code n e a (k ++ l)

namespace Joins

variable {code : Array Instr} {e mid out : Nat} {R S : Stretch}

theorem congr (h : Joins code e out R) (hR : ∀ {a b m}, R a b m ↔ S a b m) :
    Joins code e out S where
  split hrun := by
    obtain ⟨b, l, k, j, hj, hstretch, hrest⟩ := h.split hrun
    exact ⟨b, l, k, j, hj, hR.1 hstretch, hrest⟩
  join hstretch := h.join (hR.2 hstretch)

theorem nothing : Joins code e e .nothing where
  split h := ⟨_, [], _, _, Nat.le_refl _, ⟨rfl, rfl⟩, h, (List.append_nil _).symm⟩
  join := by
    rintro a b l k j ⟨rfl, rfl⟩ h
    exact ⟨j, (List.append_nil k).symm ▸ h⟩

theorem both (hR : Joins code e mid R) (hS : Joins code mid out S) :
    Joins code e out (.both R S) where
  split h := by
    obtain ⟨b, l, k, j, hj, hstretch, hrest, rfl⟩ := hR.split h
    obtain ⟨c, l', k', j', hj', hstretch', hrest', rfl⟩ := hS.split hrest
    exact ⟨c, l' ++ l, k', j', Nat.le_trans hj' hj, ⟨b, l, l', hstretch, hstretch', rfl⟩, hrest',
      List.append_assoc ..⟩
  join := by
    rintro a c _ k j ⟨b, l, l', hstretch, hstretch', rfl⟩ h
    obtain ⟨n, h⟩ := hS.join hstretch' h
    obtain ⟨n, h⟩ := hR.join hstretch h
    exact ⟨n, List.append_assoc .. ▸ h⟩

theorem chars {set : CharSet} (h : code[e]? = some (.chars set out)) :
    Joins code e out (.char set) where
  split hrun := by
    cases hrun with
    | chars hi hreads hx hrest =>
      rw [h] at hi
      cases hi
      exact ⟨_, [], _, _, Nat.le_succ _, ⟨_, hreads, hx, rfl⟩, hrest, (List.append_nil _).symm⟩
    | accept hi | look hi | save hi | first hi | second hi => rw [h] at hi; cases hi
  join := by
    rintro a b _ k j ⟨x, hreads, hx, rfl⟩ hrest
    exact ⟨j + 1, (List.append_nil k).symm ▸ .chars h hreads hx hrest⟩

theorem look {l : Look} (h : code[e]? = some (.look l out)) : Joins code e out (.looks l) where
  split hrun := by
    cases hrun with
    | look hi hl hrest =>
      rw [h] at hi
      cases hi
      exact ⟨_, [], _, _, Nat.le_succ _, ⟨hl, rfl, rfl⟩, hrest, (List.append_nil _).symm⟩
    | accept hi | chars hi | save hi | first hi | second hi => rw [h] at hi; cases hi
  join := by
    rintro a _ _ k j ⟨hl, rfl, rfl⟩ hrest
    exact ⟨j + 1, (List.append_nil k).symm ▸ .look h hl hrest⟩

theorem save {slot : Nat} (h : code[e]? = some (.save slot out)) :
    Joins code e out (.mark slot) where
  split hrun := by
    cases hrun with
    | save hi hrest =>
      rw [h] at hi
      cases hi
      exact ⟨_, _, _, _, Nat.le_succ _, ⟨rfl, rfl⟩, hrest, rfl⟩
    | accept hi | chars hi | look hi | first hi | second hi => rw [h] at hi; cases hi
  join := by
    rintro a _ _ k j ⟨rfl, rfl⟩ hrest
    exact ⟨j + 1, .save h hrest⟩

theorem accepts_fork {first second n : Nat} {a : Cursor} {m : Marks}
    (h : code[e]? = some (.fork first second)) (hrun : Accepts code n e a m) :
    ∃ j, j < n ∧ (Accepts code j first a m ∨ Accepts code j second a m) := by
  cases hrun with
  | first hi hrest => rw [h] at hi; cases hi; exact ⟨_, Nat.lt_succ_self _, .inl hrest⟩
  | second hi hrest => rw [h] at hi; cases hi; exact ⟨_, Nat.lt_succ_self _, .inr hrest⟩
  | accept hi | chars hi | look hi | save hi => rw [h] at hi; cases hi

theorem fork {first second : Nat} (h : code[e]? = some (.fork first second))
    (hR : Joins code first out R) (hS : Joins code second out S) :
    Joins code e out (.either R S) where
  split hrun := by
    obtain ⟨n, hn, hrun | hrun⟩ := accepts_fork h hrun
    · obtain ⟨b, l, k, j, hj, hstretch, hrest⟩ := hR.split hrun
      exact ⟨b, l, k, j, by omega, .inl hstretch, hrest⟩
    · obtain ⟨b, l, k, j, hj, hstretch, hrest⟩ := hS.split hrun
      exact ⟨b, l, k, j, by omega, .inr hstretch, hrest⟩
  join := by
    rintro a b l k j (hstretch | hstretch) hrest
    · obtain ⟨n, hrun⟩ := hR.join hstretch hrest
      exact ⟨n + 1, .first h hrun⟩
    · obtain ⟨n, hrun⟩ := hS.join hstretch hrest
      exact ⟨n + 1, .second h hrun⟩

theorem forkTo {greedy : Bool} {into other : Nat}
    (h : code[e]? = some (Program.forkTo greedy into other)) (hR : Joins code into out R)
    (hS : Joins code other out S) : Joins code e out (.either R S) := by
  cases greedy with
  | true => exact fork h hR hS
  | false => exact (fork h hS hR).congr Or.comm

/-- A fork back into a body: the body is read some more times, or not at all. -/
theorem loop {greedy : Bool} {into : Nat} (h : code[e]? = some (Program.forkTo greedy into out))
    (hbody : Joins code into e R) : Joins code into out (R.atLeast 1) where
  split := by
    intro n
    induction n using Nat.strongRecOn with
    | ind n ih =>
      intro a m hrun
      obtain ⟨b, l, k, j, hj, hstretch, hrest, rfl⟩ := hbody.split hrun
      obtain ⟨i, hi, hway⟩ : ∃ i, i < j ∧ (Accepts code i into b k ∨ Accepts code i out b k) := by
        cases greedy with
        | true => exact accepts_fork h hrest
        | false =>
          obtain ⟨i, hi, hway⟩ := accepts_fork h hrest
          exact ⟨i, hi, hway.symm⟩
      rcases hway with hmore | hout
      · obtain ⟨c, l', k', j', hj', ⟨t, ht, htimes⟩, hrest', rfl⟩ :=
          ih i (Nat.lt_of_lt_of_le hi hj) hmore
        exact ⟨c, l' ++ l, k', j', by omega,
          ⟨t + 1, by omega, b, l, l', hstretch, htimes, rfl⟩, hrest', List.append_assoc ..⟩
      · exact ⟨b, l, k, i, by omega, ⟨1, Nat.le_refl 1, Stretch.both_nothing.2 hstretch⟩, hout, rfl⟩
  join := by
    rintro a b l k j ⟨t, ht, htimes⟩ hrest
    induction t generalizing a l with
    | zero => omega
    | succ t ih =>
      obtain ⟨c, l, l', hstretch, htimes, rfl⟩ := htimes
      have hloop : ∃ n, Accepts code n e c (k ++ l') := by
        cases t with
        | zero =>
          obtain ⟨rfl, rfl⟩ := htimes
          cases greedy with
          | true => exact ⟨j + 1, (List.append_nil k).symm ▸ .second h hrest⟩
          | false => exact ⟨j + 1, (List.append_nil k).symm ▸ .first h hrest⟩
        | succ t =>
          obtain ⟨n, hrun⟩ := ih (by omega) htimes
          cases greedy with
          | true => exact ⟨n + 1, .first h hrun⟩
          | false => exact ⟨n + 1, .second h hrun⟩
      obtain ⟨n, hrun⟩ := hloop
      obtain ⟨n, hrun⟩ := hbody.join hstretch hrun
      exact ⟨n, List.append_assoc .. ▸ hrun⟩

end Joins

/-! What is put before a program. -/

structure Extends (p q : Program) : Prop where
  size_le : p.code.size ≤ q.code.size
  getElem?_eq : ∀ i, i < p.code.size → q.code[i]? = p.code[i]?

theorem Extends.refl (p : Program) : Extends p p := ⟨Nat.le_refl _, fun _ _ => rfl⟩

theorem Extends.trans {p q r : Program} (h : Extends p q) (hr : Extends q r) : Extends p r :=
  ⟨Nat.le_trans h.size_le hr.size_le, fun i hi =>
    (hr.getElem?_eq i (Nat.lt_of_lt_of_le hi h.size_le)).trans (h.getElem?_eq i hi)⟩

def Holds (code : Array Instr) (p q : Program) : Prop :=
  ∀ i, p.code.size ≤ i → i < q.code.size → code[i]? = q.code[i]?

theorem Holds.left {code : Array Instr} {p q r : Program} (h : Holds code p r) (hr : Extends q r) :
    Holds code p q :=
  fun i hp hq => (h i hp (Nat.lt_of_lt_of_le hq hr.size_le)).trans (hr.getElem?_eq i hq)

theorem Holds.right {code : Array Instr} {p q r : Program} (h : Holds code p r)
    (hq : Extends p q) : Holds code q r :=
  fun i hi hr => h i (Nat.le_trans hq.size_le hi) hr

/-- What is put before any program reads the stretches of `R`. -/
structure Puts (f : Program → Program) (R : Stretch) : Prop where
  grows : ∀ p, Extends p (f p)
  joins : ∀ {code p}, Holds code p (f p) → Joins code (f p).entry p.entry R

namespace Puts

variable {f g : Program → Program} {R S : Stretch}

theorem congr (h : Puts f R) (hR : ∀ {a b m}, R a b m ↔ S a b m) : Puts f S :=
  ⟨h.grows, fun hcode => (h.joins hcode).congr hR⟩

theorem nothing : Puts id .nothing := ⟨.refl, fun _ => .nothing⟩

theorem comp (hf : Puts f R) (hg : Puts g S) : Puts (g ∘ f) (.both S R) where
  grows p := (hf.grows p).trans (hg.grows (f p))
  joins h := (hg.joins (h.right (hf.grows _))).both (hf.joins (h.left (hg.grows _)))

theorem extends_push (p : Program) (i : Nat → Instr) : Extends p (p.push i) where
  size_le := by rw [Program.push, Array.size_push]; exact Nat.le_succ _
  getElem?_eq j hj := by rw [Program.push, Array.getElem?_push_lt hj, Array.getElem?_eq_getElem hj]

theorem getElem?_push {code : Array Instr} {p q : Program} {i : Nat → Instr}
    (h : Holds code p (q.push i)) (hq : Extends p q) :
    code[(q.push i).entry]? = some (i q.entry) := by
  have hlt : q.code.size < (q.push i).code.size := by
    rw [Program.push, Array.size_push]; exact Nat.lt_succ_self _
  exact (h q.code.size hq.size_le hlt).trans (Array.getElem?_push_size ..)

theorem push {i : Nat → Instr}
    (h : ∀ {code e out}, code[e]? = some (i out) → Joins code e out R) : Puts (·.push i) R where
  grows p := extends_push p i
  joins hcode := h (getElem?_push hcode (.refl _))

theorem times (hf : Puts f R) (n : Nat) : Puts (Nat.repeat f n) (R.times n) := by
  induction n with
  | zero => exact nothing
  | succ n ih => exact comp ih hf

theorem word (w : List Char) : Puts (Program.word w) (.spells w) := by
  induction w with
  | nil => exact nothing
  | cons c w ih =>
    have heq : Program.word (c :: w) = (·.push (.chars (.single c))) ∘ Program.word w := by
      funext p
      rw [Program.word, List.reverse_cons, List.foldl_append]
      rfl
    rw [heq]
    exact comp ih (push Joins.chars)

theorem extends_optional (f : Program → Program) (greedy : Bool) (out : Nat) (p : Program) :
    Extends (f p) (Program.optional greedy out f p) :=
  extends_push _ _

theorem joins_optional {code : Array Instr} {p q : Program} {greedy : Bool} {out : Nat}
    (hgrows : Extends p (f q)) (hcode : Holds code p (Program.optional greedy out f q))
    (hbody : Joins code (f q).entry out S) :
    Joins code (Program.optional greedy out f q).entry out (.either S .nothing) :=
  .forkTo (getElem?_push hcode hgrows) hbody .nothing

theorem optionals (hf : Puts f R) (greedy : Bool) (n : Nat) :
    Puts (fun p => Nat.repeat (Program.optional greedy p.entry f) n p) (R.upTo n) := by
  suffices ∀ p, Extends p (Nat.repeat (Program.optional greedy p.entry f) n p) ∧
      ∀ code, Holds code p (Nat.repeat (Program.optional greedy p.entry f) n p) →
        Joins code (Nat.repeat (Program.optional greedy p.entry f) n p).entry p.entry (R.upTo n) from
    ⟨fun p => (this p).1, fun {code p} hcode => (this p).2 code hcode⟩
  intro p
  induction n with
  | zero =>
    refine ⟨.refl p, fun code _ => Joins.nothing.congr ⟨fun h => ⟨0, Nat.le_refl 0, h⟩, ?_⟩⟩
    rintro ⟨k, hk, h⟩
    rwa [Nat.le_zero.1 hk] at h
  | succ n ih =>
    obtain ⟨hgrows, hjoins⟩ := ih
    set q := Nat.repeat (Program.optional greedy p.entry f) n p
    have hbody : Extends p (f q) := hgrows.trans (hf.grows q)
    have hlast := extends_optional f greedy p.entry q
    refine ⟨hbody.trans hlast, fun code hcode => ?_⟩
    have hq : Holds code p (f q) := hcode.left hlast
    exact (joins_optional hbody hcode ((hf.joins (hq.right hgrows)).both
      (hjoins code (hq.left (hf.grows q))))).congr (Stretch.either_both_upTo n)

/-- The code of a loop: its body, with the fork in front that the body leads back to. -/
theorem plus_spec (hf : Puts f R) (greedy : Bool) (p : Program) :
    Extends p (Program.plus greedy f p) ∧
      ∀ code, Holds code p (Program.plus greedy f p) →
        code[p.code.size]? =
            some (Program.forkTo greedy (Program.plus greedy f p).entry p.entry) ∧
          Joins code (Program.plus greedy f p).entry p.code.size R := by
  obtain ⟨code₀, out⟩ := p
  set q : Program := ⟨code₀.push (.fork out out), code₀.size⟩ with hq
  have hgrows := hf.grows q
  have hsize : q.code.size = code₀.size + 1 := Array.size_push ..
  have hplus : Program.plus greedy f ⟨code₀, out⟩ =
      ⟨(f q).code.setIfInBounds code₀.size (Program.forkTo greedy (f q).entry out), (f q).entry⟩ :=
    rfl
  have hlt : code₀.size < (f q).code.size := by
    have := hgrows.size_le
    omega
  rw [hplus]
  refine ⟨⟨by rw [Array.size_setIfInBounds]; exact Nat.le_of_lt hlt, fun i hi => ?_⟩,
    fun code hcode => ⟨?_, ?_⟩⟩
  · have hi : i < code₀.size := hi
    rw [Array.getElem?_setIfInBounds, if_neg (by omega), hgrows.getElem?_eq i (by omega), hq,
      Array.getElem?_push_lt hi, Array.getElem?_eq_getElem hi]
  · rw [hcode code₀.size (Nat.le_refl _) (by rwa [Array.size_setIfInBounds]),
      Array.getElem?_setIfInBounds, if_pos rfl, if_pos hlt]
  · refine hf.joins (p := q) fun i hi hlt => ?_
    rw [hcode i (by simp only; omega) (by rwa [Array.size_setIfInBounds]),
      Array.getElem?_setIfInBounds, if_neg (by omega)]

theorem plus (hf : Puts f R) (greedy : Bool) : Puts (Program.plus greedy f) (R.atLeast 1) where
  grows p := (plus_spec hf greedy p).1
  joins hcode :=
    have ⟨hfork, hbody⟩ := (plus_spec hf greedy _).2 _ hcode
    .loop hfork hbody

theorem star (hf : Puts f R) (greedy consumes : Bool) :
    Puts (Program.star greedy consumes f) (R.atLeast 0) := by
  cases consumes with
  | true =>
    refine ⟨fun p => ⟨(plus_spec hf greedy p).1.size_le, (plus_spec hf greedy p).1.getElem?_eq⟩,
      fun {code p} hcode => ?_⟩
    have ⟨hfork, hbody⟩ := (plus_spec hf greedy p).2 code hcode
    exact (Joins.forkTo hfork (.loop hfork hbody) .nothing).congr Stretch.either_atLeast
  | false =>
    have hplus := plus hf greedy
    have hlast (p : Program) := extends_optional (Program.plus greedy f) greedy p.entry p
    refine ⟨fun p => (hplus.grows p).trans (hlast p), fun {code p} hcode => ?_⟩
    exact (joins_optional (hplus.grows p) hcode (hplus.joins (hcode.left (hlast p)))).congr
      Stretch.either_atLeast

theorem counted (hf : Puts f R) (min : Nat) (max : Option Nat) (greedy consumes : Bool) :
    Puts (Program.counted min max greedy consumes f)
      (fun a b m => ∃ k, min ≤ k ∧ (∀ n, max = some n → k ≤ Nat.max min n) ∧ R.times k a b m) := by
  cases max with
  | none =>
    have hatLeast : ∀ n, ∀ {a b m}, R.atLeast n a b m ↔
        ∃ k, n ≤ k ∧ (∀ l, none = some l → k ≤ Nat.max n l) ∧ R.times k a b m := by
      intro n a b m
      simp [Stretch.atLeast]
    cases min with
    | zero => exact (star hf greedy consumes).congr (hatLeast 0)
    | succ n =>
      exact ((comp (plus hf greedy) (times hf n)).congr (Stretch.both_times_atLeast n)).congr
        (hatLeast (n + 1))
  | some l =>
    refine (comp (optionals hf greedy (l - min)) (times hf min)).congr ?_
    intro a b m
    rw [Stretch.both_times_upTo]
    have hmax : min + (l - min) = Nat.max min l := by
      show _ = if _ then _ else _
      split <;> omega
    simp [hmax]

def addWay (out : Nat) (q : Program) (way : Program → Program) : Program :=
  (way ⟨q.code, out⟩).push fun first => .fork first q.entry

theorem foldl_addWay {ways : List (Program → Program)} {Rs : List Stretch}
    (h : List.Forall₂ Puts ways Rs) {p q : Program} {S : Stretch} (hq : Extends p q)
    (hjoins : ∀ code, Holds code p q → Joins code q.entry p.entry S) :
    Extends p (ways.foldl (addWay p.entry) q) ∧
      ∀ code, Holds code p (ways.foldl (addWay p.entry) q) →
        Joins code (ways.foldl (addWay p.entry) q).entry p.entry
          (fun a b m => S a b m ∨ ∃ R ∈ Rs, R a b m) := by
  induction h generalizing q S with
  | nil => exact ⟨hq, fun code hcode => (hjoins code hcode).congr (by simp)⟩
  | @cons way R ways Rs hway _ ih =>
    have hsame : Extends q ⟨q.code, p.entry⟩ := ⟨Nat.le_refl _, fun _ _ => rfl⟩
    have hgrows : Extends q (way ⟨q.code, p.entry⟩) := hsame.trans (hway.grows _)
    have hpush : Extends (way ⟨q.code, p.entry⟩) (addWay p.entry q way) := extends_push _ _
    obtain ⟨hextends, hrest⟩ := ih (S := .either R S) ((hq.trans hgrows).trans hpush)
      fun code hcode => .fork (getElem?_push hcode (hq.trans hgrows))
        (hway.joins (p := ⟨q.code, p.entry⟩) ((hcode.left hpush).right (hq.trans hsame)))
        (hjoins code ((hcode.left hpush).left hgrows))
    refine ⟨hextends, fun code hcode => (hrest code hcode).congr ?_⟩
    intro a b m
    simp only [Stretch.either, List.exists_mem_cons_iff]
    rw [or_comm (a := R a b m), or_assoc]

theorem oneOf {ways : List (Program → Program)} {Rs : List Stretch}
    (h : List.Forall₂ Puts ways Rs) :
    Puts (Program.oneOf ways) (fun a b m => ∃ R ∈ Rs, R a b m) := by
  cases h with
  | nil =>
    refine (push (i := .chars .empty) Joins.chars).congr ⟨?_, by simp⟩
    rintro ⟨x, -, hx, -⟩
    cases hx
  | @cons last R ways Rs hlast hways =>
    have hspec (p : Program) := foldl_addWay hways (hlast.grows p) fun code => hlast.joins
    refine ⟨fun p => (hspec p).1, fun {code p} hcode => ((hspec p).2 code hcode).congr ?_⟩
    simp

theorem seq {fs : List (Program → Program)} {Rs : List Stretch} (h : List.Forall₂ Puts fs Rs) :
    Puts (fun p => fs.reverse.foldl (fun p f => f p) p)
      (Rs.foldr Stretch.both Stretch.nothing) := by
  induction h with
  | nil => exact nothing
  | @cons f R fs Rs hf _ ih =>
    have heq : (fun p => (f :: fs).reverse.foldl (fun p f => f p) p) =
        f ∘ fun p => fs.reverse.foldl (fun p f => f p) p := by
      funext p
      rw [List.reverse_cons, List.foldl_append]
      rfl
    rw [heq]
    exact comp ih hf

end Puts

namespace Program

theorem ways_eq (done : List (Program → Program)) (ps : List Pattern) :
    ways done ps = (ps.map before).reverse ++ done := by
  induction ps generalizing done with
  | nil => rfl
  | cons p ps ih =>
    rw [ways, ih, List.map_cons, List.reverse_cons, List.append_assoc]
    rfl

end Program

namespace Pattern

theorem matchesAll_eq (ps : List Pattern) :
    MatchesAll ps = (ps.map Matches).foldr Stretch.both Stretch.nothing := by
  induction ps with
  | nil => rfl
  | cons p ps ih => rw [MatchesAll, ih]; rfl

theorem matchesAny_iff {ps : List Pattern} {a b : Cursor} {m : Marks} :
    MatchesAny ps a b m ↔ ∃ p ∈ ps, p.Matches a b m := by
  induction ps with
  | nil => simp [MatchesAny]
  | cons p ps ih => simp only [MatchesAny, Stretch.either, ih, List.exists_mem_cons_iff]

end Pattern

open Program (before)

mutual

theorem puts_before : (p : Pattern) → Puts (before p) p.Matches
  | .empty => .nothing
  | .literal w => .word w
  | .chars set => .push Joins.chars
  | .look l => .push Joins.look
  | .group index body =>
    .comp (.comp (.push Joins.save) (puts_before body)) (.push Joins.save)
  | .rep min max greedy body => .counted (puts_before body) min max greedy body.consumes
  | .seq ps => by
    have heq : before (.seq ps) = fun p => (ps.map before).reverse.foldl (fun p f => f p) p := by
      funext p
      rw [before, Program.ways_eq, List.append_nil]
    rw [heq, Pattern.Matches, Pattern.matchesAll_eq]
    exact .seq (puts_all ps)
  | .alt ps => by
    have heq : before (.alt ps) = Program.oneOf (ps.map before).reverse := by
      funext p
      rw [before, Program.ways_eq, List.append_nil]
    rw [heq, Pattern.Matches]
    refine (Puts.oneOf (List.forall₂_reverse_iff.2 (puts_all ps))).congr ?_
    intro a b m
    simp [Pattern.matchesAny_iff]

theorem puts_all : (ps : List Pattern) → List.Forall₂ Puts (ps.map before) (ps.map Pattern.Matches)
  | [] => .nil
  | p :: ps => .cons (puts_before p) (puts_all ps)

end

/-! The program of a whole pattern. -/

theorem accepts_ofPattern_iff {p : Pattern} {a : Cursor} {m : Marks} :
    (∃ n, Accepts (Program.ofPattern p).code n (Program.ofPattern p).entry a m) ↔
      ∃ b, (Pattern.group 0 p).Matches a b m := by
  have hputs := puts_before (.group 0 p)
  have hjoins : Joins (Program.ofPattern p).code (Program.ofPattern p).entry 0 _ :=
    hputs.joins (p := Program.done) fun i _ _ => rfl
  have haccept : (Program.ofPattern p).code[0]? = some .accept :=
    (hputs.grows Program.done).getElem?_eq 0 Nat.zero_lt_one
  constructor
  · rintro ⟨n, h⟩
    obtain ⟨b, l, k, j, -, hmatches, hrest, rfl⟩ := hjoins.split h
    cases hrest with
    | accept => exact ⟨b, hmatches⟩
    | chars hi | look hi | save hi | first hi | second hi => rw [haccept] at hi; cases hi
  · rintro ⟨b, h⟩
    exact hjoins.join h (.accept haccept)

theorem matches_group_iff {index : Nat} {p : Pattern} {a b : Cursor} {m : Marks} :
    (Pattern.group index p).Matches a b m ↔ ∃ l, p.Matches a b l ∧
      m = (2 * index + 1, b.position) :: (l ++ [(2 * index, a.position)]) := by
  constructor
  · rintro ⟨_, _, _, ⟨rfl, rfl⟩, ⟨_, l, _, hmatches, ⟨rfl, rfl⟩, rfl⟩, rfl⟩
    exact ⟨l, hmatches, rfl⟩
  · rintro ⟨l, hmatches, rfl⟩
    exact ⟨a, _, _, ⟨rfl, rfl⟩, ⟨b, l, _, hmatches, ⟨rfl, rfl⟩, rfl⟩, rfl⟩

def Cursor.start (t : Text) : Cursor := ⟨0, none, t⟩

/-- A regular expression matches a text exactly if its pattern has a stretch in it. -/
theorem isMatch_iff {p : Pattern} {t : Text} :
    (ofPattern p).isMatch t = true ↔ ∃ a b m, (Cursor.start t).UpTo a ∧ p.Matches a b m := by
  rw [isMatch, find?, findAfter?, Option.isSome_map]
  refine isSome_searchFrom_iff.trans ⟨?_, ?_⟩
  · rintro ⟨a, n, m, ha, h⟩
    obtain ⟨b, h⟩ := accepts_ofPattern_iff.1 ⟨n, h⟩
    obtain ⟨l, h, -⟩ := matches_group_iff.1 h
    exact ⟨a, b, l, ha, h⟩
  · rintro ⟨a, b, m, ha, h⟩
    obtain ⟨n, h⟩ := accepts_ofPattern_iff.2 ⟨b, matches_group_iff.2 ⟨m, h, rfl⟩⟩
    exact ⟨a, n, _, ha, h⟩

end ScriptLint.Regex
