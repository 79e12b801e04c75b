import ScriptLint.Regex.Search

/-! What a search finds. A run of a program goes from instruction to instruction until it accepts;
the search follows all runs at once, visits an instruction once at each place, and so finds marks of
a run if and only if there is a run from one of the places of the text. -/
namespace ScriptLint.Regex

/-- A place in a text together with what follows it. -/
structure Cursor where
  position : Nat
  before : Option Char
  rest : Text
  deriving DecidableEq, Repr

namespace Cursor

def place (a : Cursor) : Place := ⟨a.position, a.before, a.rest.head?⟩

def Reads (a : Cursor) (x : Char) (b : Cursor) : Prop :=
  a.rest = x :: b.rest ∧ b.position = a.position + 1 ∧ b.before = some x

inductive UpTo : Cursor → Cursor → Prop
  | here (a : Cursor) : UpTo a a
  | later {a b c : Cursor} {x : Char} : a.Reads x b → UpTo b c → UpTo a c

theorem reads_cons (n : Nat) (p : Option Char) (x : Char) (t : Text) :
    Reads ⟨n, p, x :: t⟩ x ⟨n + 1, some x, t⟩ :=
  ⟨rfl, rfl, rfl⟩

theorem Reads.eq {a b : Cursor} {x y : Char} {t : Text} (h : a.Reads x b) (ht : a.rest = y :: t) :
    x = y ∧ b = ⟨a.position + 1, some y, t⟩ := by
  obtain ⟨n, p, u⟩ := b
  obtain ⟨hrest, rfl, rfl⟩ := h
  rw [hrest] at ht
  obtain ⟨rfl, rfl⟩ := List.cons.inj ht
  exact ⟨rfl, rfl⟩

theorem UpTo.trans {a b c : Cursor} (h : a.UpTo b) (hc : b.UpTo c) : a.UpTo c := by
  induction h with
  | here => exact hc
  | later hreads _ ih => exact .later hreads (ih hc)

end Cursor

/-- Runs of a program from an instruction and a place on, with the number of their steps and the
marks they make, the last one first. -/
inductive Accepts (code : Array Instr) : Nat → Nat → Cursor → Marks → Prop
  | accept {pc : Nat} {a : Cursor} : code[pc]? = some .accept → Accepts code 0 pc a []
  | chars {n pc next : Nat} {set : CharSet} {a b : Cursor} {x : Char} {m : Marks} :
      code[pc]? = some (.chars set next) → a.Reads x b → set.has x = true →
      Accepts code n next b m → Accepts code (n + 1) pc a m
  | look {n pc next : Nat} {l : Look} {a : Cursor} {m : Marks} :
      code[pc]? = some (.look l next) → l.holds a.place = true →
      Accepts code n next a m → Accepts code (n + 1) pc a m
  | save {n pc slot next : Nat} {a : Cursor} {m : Marks} :
      code[pc]? = some (.save slot next) →
      Accepts code n next a m → Accepts code (n + 1) pc a (m ++ [(slot, a.position)])
  | first {n pc first second : Nat} {a : Cursor} {m : Marks} :
      code[pc]? = some (.fork first second) →
      Accepts code n first a m → Accepts code (n + 1) pc a m
  | second {n pc first second : Nat} {a : Cursor} {m : Marks} :
      code[pc]? = some (.fork first second) →
      Accepts code n second a m → Accepts code (n + 1) pc a m

section Advance

variable {c : Option Char} {threads : List Thread} {ready : List Ready}

theorem mem_advance {t : Thread} (h : t ∈ (advance c threads ready).1) :
    t ∈ threads ∨ ∃ set, .waits set t ∈ ready ∧ c.any set.has = true := by
  induction ready generalizing threads with
  | nil => exact .inl (List.mem_reverse.1 h)
  | cons r ready ih =>
    cases r with
    | done marks => exact .inl (List.mem_reverse.1 h)
    | waits set next =>
      rcases ih h with ht | ⟨set', hset, hc⟩
      · split at ht
        · next hc =>
          rcases List.mem_cons.1 ht with rfl | ht
          · exact .inr ⟨set, List.mem_cons_self, hc⟩
          · exact .inl ht
        · exact .inl ht
      · exact .inr ⟨set', List.mem_cons_of_mem _ hset, hc⟩

theorem done_mem_of_advance {m : Marks} (h : (advance c threads ready).2 = some m) :
    .done m ∈ ready := by
  induction ready generalizing threads with
  | nil => cases h
  | cons r ready ih =>
    cases r with
    | done marks => cases h; exact List.mem_cons_self
    | waits set next => exact List.mem_cons_of_mem _ (ih h)

theorem isSome_advance {m : Marks} (h : .done m ∈ ready) :
    (advance c threads ready).2.isSome = true := by
  induction ready generalizing threads with
  | nil => cases h
  | cons r ready ih =>
    cases r with
    | done marks => rfl
    | waits set next =>
      exact ih ((List.mem_cons.1 h).resolve_left Ready.noConfusion)

theorem mem_advance_of {set : CharSet} {t : Thread} (hdone : ∀ m, .done m ∉ ready)
    (h : t ∈ threads ∨ (.waits set t ∈ ready ∧ c.any set.has = true)) :
    t ∈ (advance c threads ready).1 := by
  induction ready generalizing threads with
  | nil => exact List.mem_reverse.2 (h.resolve_right fun h => by cases h.1)
  | cons r ready ih =>
    cases r with
    | done marks => exact absurd List.mem_cons_self (hdone marks)
    | waits set' next =>
      refine ih (fun m hm => hdone m (List.mem_cons_of_mem _ hm)) ?_
      rcases h with h | ⟨h, hc⟩
      · left
        split
        · exact List.mem_cons_of_mem _ h
        · exact h
      · rcases List.mem_cons.1 h with heq | h
        · obtain ⟨rfl, rfl⟩ := Ready.waits.inj heq
          rw [if_pos hc]
          exact .inl List.mem_cons_self
        · exact .inr ⟨h, hc⟩

end Advance

/-! Following threads up to the characters they wait for. -/

section Follow

variable {code : Array Instr} {a : Cursor} {fuel : Nat} {stack : List Thread} {seen : Array Nat}
  {ready : List Ready} {good : Marks → Prop}

/-- Every run that goes on from a thread makes good marks. -/
def Leads (code : Array Instr) (good : Marks → Prop) (a : Cursor) (t : Thread) : Prop :=
  ∀ n m, Accepts code n t.pc a m → good (m ++ t.marks)

def Ready.Leads (code : Array Instr) (good : Marks → Prop) (a : Cursor) : Ready → Prop
  | .waits set next => ∀ x b, a.Reads x b → set.has x = true → Regex.Leads code good b next
  | .done marks => good marks

theorem leads_follow (hstack : ∀ t ∈ stack, Leads code good a t)
    (hready : ∀ r ∈ ready, r.Leads code good a) :
    ∀ r ∈ (follow code a.place fuel stack seen ready).1, r.Leads code good a := by
  fun_induction follow code a.place fuel stack seen ready with
  | case1 => exact fun r hr => hready r (List.mem_reverse.1 hr)
  | case2 => exact fun r hr => hready r (List.mem_reverse.1 hr)
  | case3 fuel t stack seen ready hseen ih =>
    rw [List.forall_mem_cons] at hstack
    exact ih hstack.2 hready
  | case4 fuel t stack seen ready hseen seen' hcode ih =>
    rw [List.forall_mem_cons] at hstack
    exact ih hstack.2 hready
  | case5 fuel t stack seen ready hseen seen' set next hcode ih =>
    rw [List.forall_mem_cons] at hstack
    refine ih hstack.2 (List.forall_mem_cons.2 ⟨fun x b hreads hx n m h => ?_, hready⟩)
    exact hstack.1 _ _ (.chars hcode hreads hx h)
  | case6 fuel t stack seen ready hseen seen' l next hcode hl ih =>
    rw [List.forall_mem_cons] at hstack
    exact ih (List.forall_mem_cons.2 ⟨fun n m h => hstack.1 _ _ (.look hcode hl h), hstack.2⟩)
      hready
  | case7 fuel t stack seen ready hseen seen' l next hcode hl ih =>
    rw [List.forall_mem_cons] at hstack
    exact ih hstack.2 hready
  | case8 fuel t stack seen ready hseen seen' slot next hcode ih =>
    rw [List.forall_mem_cons] at hstack
    refine ih (List.forall_mem_cons.2 ⟨fun n m h => ?_, hstack.2⟩) hready
    have := hstack.1 _ _ (.save hcode h)
    rwa [List.append_assoc] at this
  | case9 fuel t stack seen ready hseen seen' first second hcode ih =>
    rw [List.forall_mem_cons] at hstack
    refine ih (List.forall_mem_cons.2 ⟨fun n m h => hstack.1 _ _ (.first hcode h),
      List.forall_mem_cons.2 ⟨fun n m h => hstack.1 _ _ (.second hcode h), hstack.2⟩⟩) hready
  | case10 fuel t stack seen ready hseen seen' hcode =>
    intro r hr
    rcases List.mem_cons.1 (List.mem_reverse.1 hr) with rfl | hr
    · exact (List.forall_mem_cons.1 hstack).1 0 [] (.accept hcode)
    · exact hready r hr

/-! The instructions visited at a place are closed under the steps of runs. -/

def Visited (a : Cursor) (seen : Array Nat) (pc : Nat) : Prop := seen.getD pc 0 = a.position + 1

def Covered (code : Array Instr) (a : Cursor) (stack : List Thread) (seen : Array Nat) (pc : Nat) :
    Prop :=
  Visited a seen pc ∨ (∃ t ∈ stack, t.pc = pc) ∨ code[pc]? = none

def Handled (code : Array Instr) (a : Cursor) (stack : List Thread) (seen : Array Nat)
    (ready : List Ready) : Instr → Prop
  | .chars set next => ∃ m, .waits set ⟨next, m⟩ ∈ ready
  | .look l next => l.holds a.place = true → Covered code a stack seen next
  | .save _ next => Covered code a stack seen next
  | .fork first second => Covered code a stack seen first ∧ Covered code a stack seen second
  | .accept => False

def Closed (code : Array Instr) (a : Cursor) (stack : List Thread) (seen : Array Nat)
    (ready : List Ready) : Prop :=
  ∀ pc i, Visited a seen pc → code[pc]? = some i → Handled code a stack seen ready i

theorem Covered.mono {stack' : List Thread} {seen' : Array Nat} {pc : Nat}
    (hvisited : ∀ pc, Visited a seen pc → Visited a seen' pc)
    (hstack : ∀ t ∈ stack, Covered code a stack' seen' t.pc) (h : Covered code a stack seen pc) :
    Covered code a stack' seen' pc := by
  rcases h with h | ⟨t, ht, rfl⟩ | h
  · exact .inl (hvisited pc h)
  · exact hstack t ht
  · exact .inr (.inr h)

theorem Handled.mono {stack' : List Thread} {seen' : Array Nat} {ready' : List Ready} {i : Instr}
    (hcovered : ∀ pc, Covered code a stack seen pc → Covered code a stack' seen' pc)
    (hready : ready ⊆ ready') (h : Handled code a stack seen ready i) :
    Handled code a stack' seen' ready' i := by
  cases i with
  | chars set next => exact h.imp fun m hm => hready hm
  | look l next => exact fun hl => hcovered next (h hl)
  | save slot next => exact hcovered next h
  | fork first second => exact ⟨hcovered first h.1, hcovered second h.2⟩
  | accept => exact h

theorem visited_setIfInBounds {i pc : Nat} :
    Visited a (seen.setIfInBounds i (a.position + 1)) pc ↔
      Visited a seen pc ∨ (pc = i ∧ i < seen.size) := by
  unfold Visited
  rw [Array.getD_eq_getD_getElem?, Array.getD_eq_getD_getElem?, Array.getElem?_setIfInBounds]
  split
  · next h =>
    subst h
    split
    · next hi => simp [hi]
    · next hi => simp [hi]
  · next h => simp [Ne.symm h]

def unvisited (a : Cursor) (seen : Array Nat) : Nat :=
  seen.toList.countP fun n => n != a.position + 1

theorem unvisited_setIfInBounds {i : Nat} (hi : i < seen.size) (h : ¬Visited a seen i) :
    unvisited a (seen.setIfInBounds i (a.position + 1)) + 1 = unvisited a seen := by
  have hl : i < seen.toList.length := hi
  have hne : (seen.toList[i] != a.position + 1) = true := by
    simpa [Visited, Array.getD, hi] using h
  have hpos : 0 < seen.toList.countP fun n => n != a.position + 1 :=
    List.countP_pos_iff.2 ⟨seen.toList[i], List.getElem_mem hl, hne⟩
  rw [unvisited, Array.toList_setIfInBounds, List.countP_set hl, if_pos hne, unvisited]
  simp only [bne_self_eq_false, Bool.false_eq_true, if_false]
  omega

variable {t : Thread}

theorem covered_visit {pc : Nat} (hsize : seen.size = code.size) {u : List Thread}
    (h : Covered code a (t :: stack) seen pc) :
    Covered code a (u ++ stack) (seen.setIfInBounds t.pc (a.position + 1)) pc := by
  refine h.mono (fun pc hpc => visited_setIfInBounds.2 (.inl hpc)) fun u hu => ?_
  rcases List.mem_cons.1 hu with rfl | hu
  · by_cases hlt : u.pc < seen.size
    · exact .inl (visited_setIfInBounds.2 (.inr ⟨rfl, hlt⟩))
    · exact .inr (.inr (Array.getElem?_eq_none (by omega)))
  · exact .inr (.inl ⟨u, List.mem_append_right _ hu, rfl⟩)

theorem closed_visit (hsize : seen.size = code.size) {u : List Thread} {ready' : List Ready}
    (hready : ready ⊆ ready') (h : Closed code a (t :: stack) seen ready)
    (hhandled : ∀ i, code[t.pc]? = some i → Handled code a (u ++ stack)
      (seen.setIfInBounds t.pc (a.position + 1)) ready' i) :
    Closed code a (u ++ stack) (seen.setIfInBounds t.pc (a.position + 1)) ready' := by
  intro pc i hpc hi
  rcases visited_setIfInBounds.1 hpc with hpc | ⟨rfl, -⟩
  · exact (h pc i hpc hi).mono (fun pc => covered_visit hsize) hready
  · exact hhandled i hi

/-- What follows from following threads until none is left: a thread has come to an end, or every
instruction that the steps of runs lead to has been visited. -/
structure Followed (code : Array Instr) (a : Cursor) (stack : List Thread) (seen : Array Nat)
    (result : List Ready × Array Nat) : Prop where
  size : result.2.size = code.size
  le : (∀ pc, seen.getD pc 0 ≤ a.position + 1) → ∀ pc, result.2.getD pc 0 ≤ a.position + 1
  covered : (∃ m, .done m ∈ result.1) ∨ (Closed code a [] result.2 result.1 ∧
    ∀ pc, Covered code a stack seen pc → Covered code a [] result.2 pc)

theorem Followed.of_visit {u : List Thread} {result : List Ready × Array Nat}
    (hsize : seen.size = code.size)
    (h : Followed code a (u ++ stack) (seen.setIfInBounds t.pc (a.position + 1)) result) :
    Followed code a (t :: stack) seen result where
  size := h.size
  le hle := by
    refine h.le fun pc => ?_
    rw [Array.getD_eq_getD_getElem?, Array.getElem?_setIfInBounds]
    have := hle pc
    rw [Array.getD_eq_getD_getElem?] at this
    split
    · split <;> simp
    · exact this
  covered := h.covered.imp_right fun ⟨hclosed, hcovered⟩ =>
    ⟨hclosed, fun pc hpc => hcovered pc (covered_visit hsize hpc)⟩

/-- A visit to an instruction pays for the threads it puts on the stack. -/
theorem Followed.of_step {i : Instr} {u : List Thread} {ready' : List Ready}
    {result : List Ready × Array Nat} (hsize : seen.size = code.size)
    (hfuel : (t :: stack).length + 2 * unvisited a seen < fuel + 1)
    (hclosed : Closed code a (t :: stack) seen ready) (hseen : ¬Visited a seen t.pc)
    (hcode : code[t.pc]? = some i) (hlength : u.length ≤ 2) (hready : ready ⊆ ready')
    (hhandled : Handled code a (u ++ stack) (seen.setIfInBounds t.pc (a.position + 1)) ready' i)
    (ih : (seen.setIfInBounds t.pc (a.position + 1)).size = code.size →
      (u ++ stack).length + 2 * unvisited a (seen.setIfInBounds t.pc (a.position + 1)) < fuel →
      Closed code a (u ++ stack) (seen.setIfInBounds t.pc (a.position + 1)) ready' →
      Followed code a (u ++ stack) (seen.setIfInBounds t.pc (a.position + 1)) result) :
    Followed code a (t :: stack) seen result := by
  have hlt : t.pc < seen.size := by
    rw [hsize]
    exact (Array.getElem?_eq_some_iff.1 hcode).1
  refine .of_visit hsize (ih (by rwa [Array.size_setIfInBounds]) ?_ ?_)
  · have := unvisited_setIfInBounds hlt hseen
    rw [List.length_append]
    rw [List.length_cons] at hfuel
    omega
  · refine closed_visit hsize hready hclosed fun j hj => ?_
    rw [hcode] at hj
    exact Option.some.inj hj ▸ hhandled

theorem Followed.of_covered {result : List Ready × Array Nat} (hsize : seen.size = code.size)
    (hfuel : (t :: stack).length + 2 * unvisited a seen < fuel + 1)
    (hclosed : Closed code a (t :: stack) seen ready) (ht : Covered code a stack seen t.pc)
    (ih : seen.size = code.size → stack.length + 2 * unvisited a seen < fuel →
      Closed code a stack seen ready → Followed code a stack seen result) :
    Followed code a (t :: stack) seen result := by
  have hcovered : ∀ pc, Covered code a (t :: stack) seen pc → Covered code a stack seen pc :=
    fun pc h => h.mono (fun _ => id) fun u hu => by
      rcases List.mem_cons.1 hu with rfl | hu
      · exact ht
      · exact .inr (.inl ⟨u, hu, rfl⟩)
  obtain ⟨hsize', hle, hdone⟩ := ih hsize (by rw [List.length_cons] at hfuel; omega)
    fun pc i hpc hi => (hclosed pc i hpc hi).mono hcovered fun r => id
  exact ⟨hsize', hle, hdone.imp_right fun ⟨hc, h⟩ => ⟨hc, fun pc hpc => h pc (hcovered pc hpc)⟩⟩

theorem followed_follow (hsize : seen.size = code.size)
    (hfuel : stack.length + 2 * unvisited a seen < fuel) (hclosed : Closed code a stack seen ready) :
    Followed code a stack seen (follow code a.place fuel stack seen ready) := by
  have hnext (next : Nat) (m : Marks) (stack : List Thread) (seen : Array Nat) :
      Covered code a (⟨next, m⟩ :: stack) seen next := .inr (.inl ⟨_, List.mem_cons_self, rfl⟩)
  fun_induction follow code a.place fuel stack seen ready with
  | case1 => omega
  | case2 fuel seen ready hne =>
    refine ⟨hsize, id, .inr ⟨fun pc i hpc hi => ?_, fun pc => id⟩⟩
    exact (hclosed pc i hpc hi).mono (fun pc => id) fun r => List.mem_reverse.2
  | case3 fuel t stack seen ready hseen ih =>
    exact .of_covered hsize hfuel hclosed (.inl hseen) ih
  | case4 fuel t stack seen ready hseen seen' hcode ih =>
    have hsame : seen' = seen :=
      Array.setIfInBounds_eq_of_size_le (hsize ▸ Array.getElem?_eq_none_iff.1 hcode)
    rw [hsame] at ih ⊢
    exact .of_covered hsize hfuel hclosed (.inr (.inr hcode)) ih
  | case5 fuel t stack seen ready hseen seen' set next hcode ih =>
    exact .of_step (u := []) hsize hfuel hclosed hseen hcode (Nat.zero_le _)
      (List.subset_cons_self _ _) ⟨t.marks, List.mem_cons_self⟩ ih
  | case6 fuel t stack seen ready hseen seen' l next hcode hl ih =>
    exact .of_step (u := [⟨next, t.marks⟩]) hsize hfuel hclosed hseen hcode (by simp)
      (fun r => id) (fun _ => hnext ..) ih
  | case7 fuel t stack seen ready hseen seen' l next hcode hl ih =>
    exact .of_step (u := []) hsize hfuel hclosed hseen hcode (Nat.zero_le _)
      (fun r => id) (fun hholds => absurd hholds hl) ih
  | case8 fuel t stack seen ready hseen seen' slot next hcode ih =>
    exact .of_step (u := [⟨next, _⟩]) hsize hfuel hclosed hseen hcode (by simp)
      (fun r => id) (hnext ..) ih
  | case9 fuel t stack seen ready hseen seen' first second hcode ih =>
    refine .of_step (u := [⟨first, t.marks⟩, ⟨second, t.marks⟩]) hsize hfuel hclosed hseen hcode
      (by simp) (fun r => id) ⟨hnext .., ?_⟩ ih
    exact .inr (.inl ⟨_, List.mem_cons_of_mem _ List.mem_cons_self, rfl⟩)
  | case10 fuel t stack seen ready hseen seen' hcode =>
    have hsize' : seen'.size = code.size := by rwa [Array.size_setIfInBounds]
    exact .of_visit (u := []) hsize ⟨hsize', id, .inl ⟨t.marks, by simp⟩⟩

theorem Covered.handled {pc : Nat} {i : Instr} (h : Covered code a [] seen pc)
    (hclosed : Closed code a [] seen ready) (hi : code[pc]? = some i) :
    Handled code a [] seen ready i := by
  rcases h with h | ⟨_, ht, -⟩ | h
  · exact hclosed pc i h hi
  · cases ht
  · rw [hi] at h; cases h

theorem exists_waits_of_accepts {n pc : Nat} {m : Marks} (hclosed : Closed code a [] seen ready)
    (hcovered : Covered code a [] seen pc) (h : Accepts code n pc a m) :
    ∃ set next x b k l, .waits set next ∈ ready ∧ a.Reads x b ∧ set.has x = true ∧
      Accepts code k next.pc b l := by
  induction h with
  | accept hi => exact (hcovered.handled hclosed hi).elim
  | chars hi hreads hx h _ =>
    obtain ⟨marks, hmem⟩ := hcovered.handled hclosed hi
    exact ⟨_, _, _, _, _, _, hmem, hreads, hx, h⟩
  | look hi hl _ ih => exact ih hclosed (hcovered.handled hclosed hi hl)
  | save hi _ ih => exact ih hclosed (hcovered.handled hclosed hi)
  | first hi _ ih => exact ih hclosed (hcovered.handled hclosed hi).1
  | second hi _ ih => exact ih hclosed (hcovered.handled hclosed hi).2

end Follow

/-! The whole search. -/

section Search

variable {p : Program} {a : Cursor} {threads : List Thread} {found : Option Marks}
  {seen : Array Nat} {good : Marks → Prop} {before : Option Char} {position : Nat} {text : Text}

def starts (p : Program) (threads : List Thread) (found : Option Marks) : List Thread :=
  if found.isSome then threads else threads ++ [⟨p.entry, []⟩]

def followAll (p : Program) (a : Cursor) (threads : List Thread) (found : Option Marks)
    (seen : Array Nat) : List Ready × Array Nat :=
  follow p.code a.place ((starts p threads found).length + 2 * p.code.size + 1)
    (starts p threads found) seen []

theorem searchFrom_nil : searchFrom p before position threads found seen [] =
    (advance none [] (followAll p ⟨position, before, []⟩ threads found seen).1).2.or found := rfl

theorem searchFrom_cons {c : Char} : searchFrom p before position threads found seen (c :: text) =
    let result := followAll p ⟨position, before, c :: text⟩ threads found seen
    let next := advance (some c) [] result.1
    if (next.2.or found).isSome && next.1.isEmpty then next.2.or found
    else searchFrom p (some c) (position + 1) next.1 (next.2.or found) result.2 text := rfl

theorem leads_starts (hentry : Leads p.code good a ⟨p.entry, []⟩)
    (hthreads : ∀ t ∈ threads, Leads p.code good a t) :
    ∀ t ∈ starts p threads found, Leads p.code good a t := by
  intro t ht
  unfold starts at ht
  split at ht
  · exact hthreads t ht
  · rcases List.mem_append.1 ht with ht | ht
    · exact hthreads t ht
    · rwa [List.mem_singleton.1 ht]

theorem leads_followAll (hentry : Leads p.code good a ⟨p.entry, []⟩)
    (hthreads : ∀ t ∈ threads, Leads p.code good a t) :
    ∀ r ∈ (followAll p a threads found seen).1, r.Leads p.code good a :=
  leads_follow (leads_starts hentry hthreads) (List.forall_mem_nil _)

theorem good_of_searchFrom {m : Marks}
    (hentry : ∀ b, Cursor.UpTo ⟨position, before, text⟩ b → Leads p.code good b ⟨p.entry, []⟩)
    (hthreads : ∀ t ∈ threads, Leads p.code good ⟨position, before, text⟩ t)
    (hfound : ∀ m, found = some m → good m)
    (h : searchFrom p before position threads found seen text = some m) : good m := by
  induction text generalizing before position threads found seen with
  | nil =>
    rw [searchFrom_nil] at h
    rcases Option.or_eq_some_iff.1 h with h | ⟨-, h⟩
    · exact leads_followAll (hentry _ (.here _)) hthreads _ (done_mem_of_advance h)
    · exact hfound m h
  | cons c rest ih =>
    have hready : ∀ r ∈ (followAll p ⟨position, before, c :: rest⟩ threads found seen).1,
        r.Leads p.code good ⟨position, before, c :: rest⟩ :=
      leads_followAll (hentry _ (.here _)) hthreads
    have hgood : ∀ m, (advance (some c) []
        (followAll p ⟨position, before, c :: rest⟩ threads found seen).1).2.or found = some m →
        good m := by
      intro m hm
      rcases Option.or_eq_some_iff.1 hm with hm | ⟨-, hm⟩
      · exact hready _ (done_mem_of_advance hm)
      · exact hfound m hm
    rw [searchFrom_cons] at h
    simp only at h
    split at h
    · exact hgood m h
    · refine ih (fun b hb => hentry b (.later (Cursor.reads_cons ..) hb)) (fun t ht => ?_) hgood h
      rcases mem_advance ht with ht | ⟨set, hset, hc⟩
      · cases ht
      · exact hready _ hset c _ (Cursor.reads_cons ..) hc

theorem isSome_searchFrom_of_found (h : found.isSome = true) :
    (searchFrom p before position threads found seen text).isSome = true := by
  have hor (ended : Option Marks) : (ended.or found).isSome = true := by
    rw [Option.isSome_or, h, Bool.or_true]
  induction text generalizing before position threads found seen with
  | nil => exact hor _
  | cons c rest ih =>
    rw [searchFrom_cons]
    simp only
    split
    · exact hor _
    · exact ih (hor _) fun ended => by rw [Option.isSome_or, hor, Bool.or_true]

theorem followed_followAll (hsize : seen.size = p.code.size)
    (hle : ∀ pc, seen.getD pc 0 ≤ a.position) :
    Followed p.code a (starts p threads found) seen (followAll p a threads found seen) := by
  refine followed_follow hsize ?_ fun pc i hpc hi => ?_
  · have : unvisited a seen ≤ p.code.size := by
      rw [← hsize]
      exact List.countP_le_length
    omega
  · have := hle pc
    rw [Visited] at hpc
    omega

theorem exists_start_or_later (hfound : found.isSome = false)
    (h : (∃ t ∈ threads, ∃ n m, Accepts p.code n t.pc a m) ∨
      ∃ b n m, a.UpTo b ∧ Accepts p.code n p.entry b m) :
    (∃ t ∈ starts p threads found, ∃ n m, Accepts p.code n t.pc a m) ∨
      ∃ x b c n m, a.Reads x b ∧ b.UpTo c ∧ Accepts p.code n p.entry c m := by
  rw [starts, hfound, if_neg Bool.false_ne_true]
  rcases h with ⟨t, ht, h⟩ | ⟨b, n, m, hb | ⟨hreads, hb⟩, h⟩
  · exact .inl ⟨t, List.mem_append_left _ ht, h⟩
  · exact .inl ⟨⟨p.entry, []⟩, List.mem_append_right _ List.mem_cons_self, n, m, h⟩
  · exact .inr ⟨_, _, b, n, m, hreads, hb, h⟩

/-- While nothing has been found, either a thread comes to an end here, or the run goes on behind the
next character. -/
theorem done_or_goes_on (hsize : seen.size = p.code.size) (hle : ∀ pc, seen.getD pc 0 ≤ a.position)
    (hfound : found.isSome = false)
    (h : (∃ t ∈ threads, ∃ n m, Accepts p.code n t.pc a m) ∨
      ∃ b n m, a.UpTo b ∧ Accepts p.code n p.entry b m)
    (hdone : ∀ m, .done m ∉ (followAll p a threads found seen).1) :
    ∃ x b, a.Reads x b ∧
      ((∃ t ∈ (advance (some x) [] (followAll p a threads found seen).1).1,
          ∃ n m, Accepts p.code n t.pc b m) ∨
        ∃ c n m, b.UpTo c ∧ Accepts p.code n p.entry c m) := by
  rcases exists_start_or_later hfound h with ⟨t, ht, n, m, h⟩ | ⟨x, b, c, n, m, hreads, hc, h⟩
  · obtain ⟨hclosed, hcovered⟩ :=
      (followed_followAll hsize hle).covered.resolve_left fun ⟨m, hm⟩ => hdone m hm
    obtain ⟨set, next, x, b, k, l, hwaits, hreads, hx, h⟩ :=
      exists_waits_of_accepts hclosed (hcovered t.pc (.inr (.inl ⟨t, ht, rfl⟩))) h
    exact ⟨x, b, hreads, .inl ⟨next, mem_advance_of hdone (.inr ⟨hwaits, hx⟩), k, l, h⟩⟩
  · exact ⟨x, b, hreads, .inr ⟨c, n, m, hc, h⟩⟩

/-- The search finds something if there is a run from one of the places to come. -/
theorem isSome_searchFrom (hsize : seen.size = p.code.size)
    (hle : ∀ pc, seen.getD pc 0 ≤ position)
    (h : (∃ t ∈ threads, ∃ n m, Accepts p.code n t.pc ⟨position, before, text⟩ m) ∨
      ∃ b n m, Cursor.UpTo ⟨position, before, text⟩ b ∧ Accepts p.code n p.entry b m) :
    (searchFrom p before position threads found seen text).isSome = true := by
  induction text generalizing before position threads found seen with
  | nil =>
    cases hfound : found.isSome with
    | true => exact isSome_searchFrom_of_found hfound
    | false =>
      rw [searchFrom_nil, Option.isSome_or, Bool.or_eq_true]
      by_cases hdone : ∃ m, .done m ∈ (followAll p ⟨position, before, []⟩ threads found seen).1
      · exact .inl (isSome_advance hdone.choose_spec)
      · obtain ⟨x, b, hreads, -⟩ :=
          done_or_goes_on hsize hle hfound h fun m hm => hdone ⟨m, hm⟩
        cases hreads.1
  | cons c rest ih =>
    cases hfound : found.isSome with
    | true => exact isSome_searchFrom_of_found hfound
    | false =>
      rw [searchFrom_cons]
      simp only
      by_cases hdone : ∃ m, .done m ∈ (followAll p ⟨position, before, c :: rest⟩ threads found seen).1
      · have hended (ended : Option Marks) (hended : ended.isSome = true) :
            (ended.or found).isSome = true := by rw [Option.isSome_or, hended, Bool.true_or]
        obtain ⟨m, hm⟩ := hdone
        split
        · exact hended _ (isSome_advance hm)
        · exact isSome_searchFrom_of_found (hended _ (isSome_advance hm))
      · obtain ⟨x, b, hreads, h⟩ :=
          done_or_goes_on hsize hle hfound h fun m hm => hdone ⟨m, hm⟩
        obtain ⟨rfl, rfl⟩ := hreads.eq rfl
        have hfollowed : Followed p.code ⟨position, before, x :: rest⟩ (starts p threads found) seen
            (followAll p ⟨position, before, x :: rest⟩ threads found seen) :=
          followed_followAll hsize hle
        have hnone : (advance (some x) []
            (followAll p ⟨position, before, x :: rest⟩ threads found seen).1).2.or found = none := by
          refine Option.or_eq_none_iff.2 ⟨Option.eq_none_iff_forall_ne_some.2 fun m hm => ?_,
            Option.isSome_eq_false_iff.1 hfound |> Option.isNone_iff_eq_none.1⟩
          exact hdone ⟨m, done_mem_of_advance hm⟩
        rw [hnone, Option.isSome_none, Bool.false_and, if_neg Bool.false_ne_true]
        exact ih hfollowed.size (hfollowed.le fun pc => Nat.le_succ_of_le (hle pc)) h

theorem accepts_of_searchFrom {m : Marks}
    (h : searchFrom p before 0 [] none (Array.replicate p.code.size 0) text = some m) :
    ∃ b n, Cursor.UpTo ⟨0, before, text⟩ b ∧ Accepts p.code n p.entry b m := by
  have hentry : ∀ b, Cursor.UpTo ⟨0, before, text⟩ b → Leads p.code
      (fun m => ∃ b n, Cursor.UpTo ⟨0, before, text⟩ b ∧ Accepts p.code n p.entry b m) b
      ⟨p.entry, []⟩ :=
    fun b hb n m hm => (List.append_nil m).symm ▸ ⟨b, n, hb, hm⟩
  exact good_of_searchFrom hentry (List.forall_mem_nil _) (fun m hm => by cases hm) h

theorem isSome_searchFrom_iff :
    (searchFrom p before 0 [] none (Array.replicate p.code.size 0) text).isSome = true ↔
      ∃ b n m, Cursor.UpTo ⟨0, before, text⟩ b ∧ Accepts p.code n p.entry b m := by
  constructor
  · intro h
    obtain ⟨m, hm⟩ := Option.isSome_iff_exists.1 h
    obtain ⟨b, n, hb, h⟩ := accepts_of_searchFrom hm
    exact ⟨b, n, m, hb, h⟩
  · intro h
    refine isSome_searchFrom (Array.size_replicate ..) (fun pc => ?_) (.inr h)
    rw [Array.getD_eq_getD_getElem?, Array.getElem?_replicate]
    split <;> exact Nat.le_refl 0

end Search

end ScriptLint.Regex
