import ScriptLint.Proofs.CellAddresses
import ScriptLint.Proofs.RecursiveLoading
import ScriptLint.Proofs.SpeculativeReading

/-! The loader against the recursive one. An object is read in vain as long as it has children, and
none of them has a number then; they are converted above it, from the last to the first, and give
numbers to nothing else. So it is read with all its children numbered the second time. -/
namespace ScriptLint

namespace Loader

open Document (total total_inReadingOrder_lt)

variable {t : Text}

/-! Reading an object. -/

/-- What becomes of a child. -/
def handOver (c : Cell) : StateM Loader NodeId := fun l =>
  match l.idOf c with
  | some id => (id, l)
  | none => (0, { l with pending := c :: l.pending })

theorem splits_node (address : List Nat) (c : Cell) :
    Splits (Document.checked c) (fun c => handOver (c.under address)) (node (c.under address)) := by
  intro l
  obtain ⟨place, v⟩ := c
  cases v with
  | obj o =>
    change (node ⟨place ++ address, .obj o⟩).run l = Except.ok (handOver ⟨place ++ address, .obj o⟩ l)
    unfold handOver
    cases hid : l.idOf ⟨place ++ address, .obj o⟩ <;>
      simp only [node, StateT.run_bind, StateT.run_get, pure_bind, hid] <;> rfl
  | _ => rfl

def placed (address : List Nat) (k : NodeKind Cell) : List Cell :=
  k.inReadingOrder.map fun c => c.under address

theorem run_read (address : List Nat) (o : Json.Object) (l : Loader) :
    (read t address o).run l = (do
      let k ← Document.cells t o (Document.typeOf o)
      let handed := ((placed address k).mapM handOver).run l
      return (k.number handed.1, handed.2)) := by
  have h := Document.splits_kind (splits_node address) o (Document.typeOf o) t l
  change (read t address o).run l = _ at h
  rw [h]
  cases Document.cells t o (Document.typeOf o) with
  | error e => rfl
  | ok k =>
    change Except.ok ((k.traverse fun c => handOver (c.under address)).run l) = Except.ok _
    rw [NodeKind.run_traverse, placed, List.mapM_map]
    rfl

theorem run_handOver_of_none {cs : List Cell} {l : Loader} (h : ∀ c ∈ cs, l.idOf c = none) :
    ((cs.mapM handOver).run l).2 = { l with pending := cs.reverse ++ l.pending } := by
  induction cs generalizing l with
  | nil => rfl
  | cons c cs ih =>
    rw [List.forall_mem_cons] at h
    have hc : (handOver c).run l = (0, { l with pending := c :: l.pending }) := by
      change handOver c l = _
      simp only [handOver, h.1]
    rw [List.mapM_cons, NodeKind.run_bind_note, NodeKind.run_bind_note, hc]
    change ((cs.mapM handOver).run { l with pending := c :: l.pending }).2 = _
    rw [ih (l := { l with pending := c :: l.pending }) h.2]
    simp

theorem run_handOver_of_some {cs : List Cell} {ids : List NodeId} {l : Loader}
    (h : cs.map l.idOf = ids.map some) : (cs.mapM handOver).run l = (ids, l) := by
  induction cs generalizing ids with
  | nil =>
    cases ids with
    | nil => rfl
    | cons id ids => cases h
  | cons c cs ih =>
    cases ids with
    | nil => cases h
    | cons id ids =>
      obtain ⟨hid, hids⟩ := List.cons.inj h
      have hc : (handOver c).run l = (id, l) := by
        change handOver c l = _
        simp only [handOver, hid]
      rw [List.mapM_cons, NodeKind.run_bind_note, NodeKind.run_bind_note, hc]
      dsimp only
      rw [ih hids]
      rfl

theorem step_obj {l : Loader} {address : List Nat} {o : Json.Object} {rest : List Cell}
    (h : l.idOf ⟨address, .obj o⟩ = none) :
    State.step t ⟨l, ⟨address, .obj o⟩ :: rest⟩ = (do
      let span ← Document.nodeSpan t o
      let k ← Document.cells t o (Document.typeOf o)
      let handed := ((placed address k).mapM handOver).run l
      if handed.2.pending.isEmpty then
        return ⟨⟨handed.2.arena.push ⟨k.number handed.1, span⟩,
          (address, handed.2.arena.size) :: handed.2.converted, []⟩, rest⟩
      else
        return ⟨{ handed.2 with pending := [] },
          handed.2.pending ++ ⟨address, .obj o⟩ :: rest⟩) := by
  simp only [State.step, h, Option.isSome_none, Bool.false_eq_true, if_false, run_read, bind_assoc,
    pure_bind]

/-- The second time, an object gets the next number. -/
theorem step_eq_push {l : Loader} {address : List Nat} {o : Json.Object}
    {span : Span} {k : NodeKind Cell} {ids : List NodeId} (hpending : l.pending = [])
    (h : l.idOf ⟨address, .obj o⟩ = none) (hspan : Document.nodeSpan t o = .ok span)
    (hk : Document.cells t o (Document.typeOf o) = .ok k)
    (hids : (placed address k).map l.idOf = ids.map some) (rest : List Cell) :
    State.step t ⟨l, ⟨address, .obj o⟩ :: rest⟩ =
      .ok ⟨⟨l.arena.push ⟨k.number ids, span⟩, (address, l.arena.size) :: l.converted, []⟩, rest⟩ := by
  rw [step_obj h, hspan, hk]
  change (if ((_ : List NodeId × Loader).2.pending.isEmpty) then _ else _) = _
  rw [run_handOver_of_some hids, hpending]
  rfl

/-- The first time, its children are put above it. -/
theorem step_eq_queue {l : Loader} {address : List Nat} {o : Json.Object} {rest : List Cell}
    {span : Span} {k : NodeKind Cell} (hpending : l.pending = [])
    (h : l.idOf ⟨address, .obj o⟩ = none) (hspan : Document.nodeSpan t o = .ok span)
    (hk : Document.cells t o (Document.typeOf o) = .ok k)
    (hfree : ∀ c ∈ placed address k, l.idOf c = none) (hne : placed address k ≠ []) :
    State.step t ⟨l, ⟨address, .obj o⟩ :: rest⟩ =
      .ok ⟨l, (placed address k).reverse ++ ⟨address, .obj o⟩ :: rest⟩ := by
  rw [step_obj h, hspan, hk]
  change (if ((_ : List NodeId × Loader).2.pending.isEmpty) then _ else _) = _
  have hqueued := run_handOver_of_none hfree
  rw [hpending, List.append_nil] at hqueued
  rw [hqueued, if_neg (by simpa using hne)]
  obtain ⟨arena, converted, pending⟩ := l
  cases hpending
  rfl

/-! Runs. -/

/-- A loop that goes on while the stack has objects, with the number of its turns and its result. -/
inductive Runs (t : Text) : Nat → State → Except LoadError State → Prop
  | done {s : State} : s.stack = [] → Runs t 0 s (.ok s)
  | fail {s : State} {e : LoadError} : s.stack ≠ [] → s.step t = .error e → Runs t 1 s (.error e)
  | next {s s' : State} {n : Nat} {r : Except LoadError State} :
      s.stack ≠ [] → s.step t = .ok s' → Runs t n s' r → Runs t (n + 1) s r

theorem Runs.run_eq {n fuel : Nat} {s : State} {r : Except LoadError State} (h : Runs t n s r)
    (hfuel : n ≤ fuel) : s.run t fuel = r := by
  induction h generalizing fuel with
  | done hs =>
    cases fuel with
    | zero => rfl
    | succ fuel => simp [State.run, hs]
  | fail hs hstep =>
    cases fuel with
    | zero => omega
    | succ fuel => simp [State.run, hs, hstep, Except.bind]
  | next hs hstep _ ih =>
    cases fuel with
    | zero => omega
    | succ fuel =>
      simp only [State.run, List.isEmpty_iff, hs, if_false, hstep]
      exact ih (by omega)

/-- A state that the loop comes to in some turns, whatever it does from there. -/
def Reaches (t : Text) (turns : Nat) (s s' : State) : Prop :=
  ∀ n r, Runs t n s' r → Runs t (n + turns) s r

theorem Reaches.step {s s' : State} (hs : s.stack ≠ []) (h : s.step t = .ok s') :
    Reaches t 1 s s' :=
  fun _ _ hrest => .next hs h hrest

theorem Reaches.trans {m n : Nat} {s s' s'' : State} (h : Reaches t m s s')
    (h' : Reaches t n s' s'') : Reaches t (n + m) s s'' := by
  intro k r hrest
  rw [← Nat.add_assoc]
  exact h _ _ (h' _ _ hrest)

/-! The simulation. -/

def Fresh (l : Loader) (address : List Nat) : Prop := ∀ e ∈ l.converted, ¬address <:+ e.1

theorem idOf_eq_none {l : Loader} {c : Cell} (h : ∀ e ∈ l.converted, e.1 ≠ c.address) :
    l.idOf c = none := by
  unfold idOf
  rw [List.lookup_eq_none_iff]
  intro e he
  rw [bne_iff_ne]
  exact (h e he).symm

theorem Fresh.idOf {l : Loader} {c : Cell} (h : Fresh l c.address) : l.idOf c = none :=
  idOf_eq_none fun e he heq => h e he (heq ▸ List.suffix_refl _)

theorem Fresh.of_suffix {l : Loader} {address address' : List Nat} (h : Fresh l address)
    (hle : address <:+ address') : Fresh l address' :=
  fun e he hsuffix => h e he (hle.trans hsuffix)

/-- Cells get numbers, and nothing else does but inside them. -/
structure Numbers (l : Loader) (cs : List Cell) (ids : List NodeId)
    (added : List (List Nat × NodeId)) : Prop where
  inside : ∀ e ∈ added, ∃ c ∈ cs, c.address <:+ e.1
  given : (cs.map fun c => (added ++ l.converted).lookup c.address) = ids.map some

/-- The loop takes cells from the top of the stack, the last one first, and does what a computation
says: it fails, or it adds nodes and gives the cells their numbers. -/
structure Takes (t : Text) (l : Loader) (cs : List Cell) (turns : Nat)
    (x : Except LoadError (Array Node × List NodeId)) : Prop where
  error : ∀ {e}, x = .error e → ∀ rest, ∃ n ≤ turns, Runs t n ⟨l, cs.reverse ++ rest⟩ (.error e)
  ok : ∀ {arena ids}, x = .ok (arena, ids) → ∃ added, Numbers l cs ids added ∧
    ∀ rest, ∃ n ≤ turns,
      Reaches t n ⟨l, cs.reverse ++ rest⟩ ⟨⟨arena, added ++ l.converted, []⟩, rest⟩

def loadCell (t : Text) (arena : Array Node) (c : Cell) :
    Except LoadError (Array Node × List NodeId) :=
  (fun arena => (arena, [arena.size - 1])) <$> loadNode t arena c.value

theorem Numbers.fresh {l : Loader} {cs : List Cell} {ids : List NodeId} {arena : Array Node}
    {added : List (List Nat × NodeId)} {c : Cell} (h : Numbers l cs ids added)
    (hapart : ∀ c' ∈ cs, c.Apart c') (hfresh : Fresh l c.address) :
    Fresh ⟨arena, added ++ l.converted, []⟩ c.address := by
  intro e he
  rcases List.mem_append.1 he with he | he
  · obtain ⟨c', hc', hsuffix⟩ := h.inside e he
    exact (hapart c' hc').symm.not_both hsuffix
  · exact hfresh e he

theorem Numbers.cons {l : Loader} {cs : List Cell} {ids : List NodeId} {id : NodeId}
    {arena : Array Node} {added added' : List (List Nat × NodeId)} {c : Cell}
    (h : Numbers l cs ids added) (h' : Numbers ⟨arena, added ++ l.converted, []⟩ [c] [id] added')
    (hapart : ∀ c' ∈ cs, c.Apart c') : Numbers l (c :: cs) (id :: ids) (added' ++ added) := by
  have hother {e : List Nat × NodeId} (he : e ∈ added') : c.address <:+ e.1 := by
    obtain ⟨c', hc', hsuffix⟩ := h'.inside e he
    rwa [List.mem_singleton.1 hc'] at hsuffix
  refine ⟨fun e he => ?_, ?_⟩
  · rcases List.mem_append.1 he with he | he
    · exact ⟨c, by simp, hother he⟩
    · obtain ⟨c', hc', hsuffix⟩ := h.inside e he
      exact ⟨c', List.mem_cons_of_mem _ hc', hsuffix⟩
  · rw [List.append_assoc, List.map_cons, List.map_cons, ← h.given]
    congr 1
    · exact (List.cons.inj h'.given).1
    · -- The numbers of the others are found behind those that were added last.
      refine List.map_congr_left fun c' hc' => ?_
      rw [List.lookup_append, List.lookup_eq_none_iff.2, Option.none_or]
      intro e he
      rw [bne_iff_ne]
      exact fun heq => (hapart c' hc').1 (heq ▸ hother he)

theorem takes_error {l : Loader} {c : Cell} {e : LoadError} {turns : Nat} (hturns : 0 < turns)
    (h : ∀ rest, State.step t ⟨l, c :: rest⟩ = .error e) : Takes t l [c] turns (.error e) := by
  refine ⟨fun he rest => ?_, fun he => by cases he⟩
  cases he
  exact ⟨1, hturns, .fail (by simp) (h rest)⟩

theorem takes_nil {l : Loader} (hpending : l.pending = []) : Takes t l [] 0 (.ok (l.arena, [])) := by
  refine ⟨fun h => (by cases h), fun h => ?_⟩
  cases h
  refine ⟨[], ⟨by simp, rfl⟩, fun rest => ⟨0, Nat.zero_le _, ?_⟩⟩
  obtain ⟨arena, converted, pending⟩ := l
  cases hpending
  exact fun n r h => h

theorem Takes.mono {l : Loader} {cs : List Cell} {m n : Nat}
    {x : Except LoadError (Array Node × List NodeId)} (h : Takes t l cs m x) (hle : m ≤ n) :
    Takes t l cs n x := by
  constructor
  · intro e he rest
    obtain ⟨k, hk, hrun⟩ := h.error he rest
    exact ⟨k, hk.trans hle, hrun⟩
  · intro arena ids hx
    obtain ⟨added, hnumbers, hreach⟩ := h.ok hx
    refine ⟨added, hnumbers, fun rest => ?_⟩
    obtain ⟨k, hk, hreach⟩ := hreach rest
    exact ⟨k, hk.trans hle, hreach⟩

/-- The cells behind the first one are taken before it. -/
theorem Takes.cons {l : Loader} {c : Cell} {cs : List Cell} {m n : Nat}
    {x : Except LoadError (Array Node × List NodeId)} (hcs : Takes t l cs m x)
    (hc : ∀ l' : Loader, l'.pending = [] → Fresh l' c.address →
      Takes t l' [c] n (loadCell t l'.arena c))
    (hapart : ∀ c' ∈ cs, c.Apart c') (hfresh : Fresh l c.address) :
    Takes t l (c :: cs) (n + m) (do
      let (arena, ids) ← x
      let arena ← loadNode t arena c.value
      return (arena, (arena.size - 1) :: ids)) := by
  have hstack (rest : List Cell) : (c :: cs).reverse ++ rest = cs.reverse ++ c :: rest := by simp
  constructor
  · intro e he rest
    rw [hstack]
    rcases bind_eq_error.1 he with he | ⟨⟨arena, ids⟩, hload, he⟩
    · obtain ⟨k, hk, hrun⟩ := hcs.error he (c :: rest)
      exact ⟨k, by omega, hrun⟩
    · obtain ⟨added, hnumbers, hreach⟩ := hcs.ok hload
      obtain ⟨k, hk, hreach⟩ := hreach (c :: rest)
      have hc := hc ⟨arena, added ++ l.converted, []⟩ rfl (hnumbers.fresh hapart hfresh)
      rcases bind_eq_error.1 he with he | ⟨last, -, he⟩
      · obtain ⟨k', hk', hrun⟩ := hc.error (by rw [loadCell, he]; rfl) rest
        exact ⟨k' + k, by omega, hreach _ _ hrun⟩
      · cases he
  · intro arena' ids' h
    obtain ⟨⟨arena, ids⟩, hload, h⟩ := bind_eq_ok.1 h
    obtain ⟨last, hlast, h⟩ := bind_eq_ok.1 h
    cases h
    obtain ⟨added, hnumbers, hreach⟩ := hcs.ok hload
    have hc := hc ⟨arena, added ++ l.converted, []⟩ rfl (hnumbers.fresh hapart hfresh)
    obtain ⟨added', hnumbers', hreach'⟩ := hc.ok (by rw [loadCell, hlast]; rfl)
    refine ⟨added' ++ added, hnumbers.cons hnumbers' hapart, fun rest => ?_⟩
    obtain ⟨k, hk, hreach⟩ := hreach (c :: rest)
    obtain ⟨k', hk', hreach'⟩ := hreach' rest
    refine ⟨k' + k, by omega, ?_⟩
    rw [hstack, List.append_assoc]
    exact hreach.trans hreach'

theorem takes_children {cs : List Cell}
    (hcs : ∀ c ∈ cs, ∀ l : Loader, l.pending = [] → Fresh l c.address →
      Takes t l [c] (2 * c.value.count) (loadCell t l.arena c))
    (hapart : cs.Pairwise Cell.Apart) {l : Loader} (hpending : l.pending = [])
    (hfresh : ∀ c ∈ cs, Fresh l c.address) :
    Takes t l cs (2 * total (cs.map Cell.value)) (loadChildren t l.arena (cs.map Cell.value)) := by
  induction cs with
  | nil =>
    rw [List.map_nil, loadChildren]
    exact takes_nil hpending
  | cons c cs ih =>
    rw [List.forall_mem_cons] at hcs hfresh
    rw [List.pairwise_cons] at hapart
    rw [List.map_cons, loadChildren, Document.total_cons, Nat.mul_add]
    exact (ih hcs.2 hapart.2 hfresh.2).cons hcs.1 hapart.1 hfresh.1

theorem mem_placed {address : List Nat} {k : NodeKind Cell} {c : Cell} (h : c ∈ placed address k) :
    ∃ c' ∈ k.inReadingOrder, c = c'.under address := by
  obtain ⟨c', hc', rfl⟩ := List.mem_map.1 h
  exact ⟨c', hc', rfl⟩

theorem map_value_placed (address : List Nat) (k : NodeKind Cell) :
    (placed address k).map Cell.value = (k.map Cell.value).inReadingOrder := by
  rw [placed, List.map_map, NodeKind.inReadingOrder_map]
  rfl

theorem suffix_of_mem_placed {address : List Nat} {k : NodeKind Cell} {c : Cell}
    (h : c ∈ placed address k) : address <:+ c.address := by
  obtain ⟨c', -, rfl⟩ := mem_placed h
  exact List.suffix_append _ _

theorem ne_of_mem_placed {address : List Nat} {o : Json.Object} {ty : String} {k : NodeKind Cell}
    (hk : Document.cells t o ty = .ok k) {c : Cell} (h : c ∈ placed address k) :
    ¬c.address <:+ address := by
  obtain ⟨c', hc', rfl⟩ := mem_placed h
  intro hsuffix
  have hlength := hsuffix.length_le
  have hne := List.length_pos_iff.2 ((Document.pairwise_cells hk).2 c' hc')
  simp only [Cell.under, List.length_append] at hlength
  omega

/-- An object has no number as long as its children are converted. -/
theorem Numbers.idOf_parent {l : Loader} {address : List Nat} {o : Json.Object} {ty : String}
    {k : NodeKind Cell} {ids : List NodeId} {added : List (List Nat × NodeId)} {arena : Array Node}
    (h : Numbers l (placed address k) ids added) (hk : Document.cells t o ty = .ok k)
    (hfresh : Fresh l address) :
    idOf ⟨arena, added ++ l.converted, []⟩ ⟨address, .obj o⟩ = none := by
  refine idOf_eq_none fun e he heq => ?_
  change e.1 = address at heq
  rcases List.mem_append.1 he with he | he
  · obtain ⟨c, hc, hsuffix⟩ := h.inside e he
    exact ne_of_mem_placed hk hc (heq ▸ hsuffix)
  · exact hfresh e he (heq ▸ List.suffix_refl _)

theorem Numbers.parent {l : Loader} {address : List Nat} {v : Json} {k : NodeKind Cell}
    {ids : List NodeId} {added : List (List Nat × NodeId)}
    (h : Numbers l (placed address k) ids added) (id : NodeId) :
    Numbers l [⟨address, v⟩] [id] ((address, id) :: added) := by
  refine ⟨fun e he => ⟨⟨address, v⟩, by simp, ?_⟩, by simp⟩
  rcases List.mem_cons.1 he with rfl | he
  · exact List.suffix_refl _
  · obtain ⟨c, hc, hsuffix⟩ := h.inside e he
    exact (suffix_of_mem_placed hc).trans hsuffix

theorem reaches_placed {l : Loader} {address : List Nat} {o : Json.Object} {span : Span}
    {k : NodeKind Cell} (hpending : l.pending = []) (hfresh : Fresh l address)
    (hspan : Document.nodeSpan t o = .ok span)
    (hk : Document.cells t o (Document.typeOf o) = .ok k) (rest : List Cell) :
    ∃ n ≤ 1, Reaches t n ⟨l, ⟨address, .obj o⟩ :: rest⟩
      ⟨l, (placed address k).reverse ++ ⟨address, .obj o⟩ :: rest⟩ := by
  by_cases hne : placed address k = []
  · rw [hne]
    exact ⟨0, Nat.zero_le _, fun n r h => h⟩
  · have hnone : l.idOf ⟨address, .obj o⟩ = none := Fresh.idOf (c := ⟨address, .obj o⟩) hfresh
    have hfree (c : Cell) (hc : c ∈ placed address k) : l.idOf c = none :=
      (hfresh.of_suffix (suffix_of_mem_placed hc)).idOf
    exact ⟨1, Nat.le_refl _,
      Reaches.step (by simp) (step_eq_queue hpending hnone hspan hk hfree hne)⟩

/-- An object whose own fields are in order is taken when its children have been taken. -/
theorem takes_queued {l : Loader} {address : List Nat} {o : Json.Object} {span : Span}
    {k : NodeKind Cell} (hpending : l.pending = []) (hfresh : Fresh l address)
    (hspan : Document.nodeSpan t o = .ok span)
    (hk : Document.cells t o (Document.typeOf o) = .ok k) {turns : Nat}
    {x : Except LoadError (Array Node × List NodeId)} (hx : Takes t l (placed address k) turns x) :
    Takes t l [⟨address, .obj o⟩] (turns + 2)
      ((fun r => (r.1.push ⟨k.number r.2, span⟩, [r.1.size])) <$> x) := by
  constructor
  · intro e he rest
    obtain ⟨m, hm, hqueue⟩ := reaches_placed hpending hfresh hspan hk rest
    obtain ⟨n, hn, hrun⟩ := hx.error (map_eq_error.1 he) (⟨address, .obj o⟩ :: rest)
    exact ⟨n + m, by omega, hqueue _ _ hrun⟩
  · intro arena ids h
    obtain ⟨⟨mid, ids⟩, hload, heq⟩ := map_eq_ok.1 h
    cases heq
    obtain ⟨added, hnumbers, hreach⟩ := hx.ok hload
    refine ⟨(address, mid.size) :: added, hnumbers.parent mid.size, fun rest => ?_⟩
    obtain ⟨m, hm, hqueue⟩ := reaches_placed hpending hfresh hspan hk rest
    obtain ⟨n, hn, hreach⟩ := hreach (⟨address, .obj o⟩ :: rest)
    have hpush := step_eq_push (l := ⟨mid, added ++ l.converted, []⟩) rfl
      (hnumbers.idOf_parent hk hfresh) hspan hk hnumbers.given rest
    refine ⟨1 + (n + m), by omega, ?_⟩
    exact (hqueue.trans hreach).trans (Reaches.step (by simp) hpush)

theorem loadCell_obj {arena : Array Node} {address : List Nat} {o : Json.Object} {span : Span}
    {k : NodeKind Cell} (hspan : Document.nodeSpan t o = .ok span)
    (hk : Document.cells t o (Document.typeOf o) = .ok k) :
    loadCell t arena ⟨address, .obj o⟩ =
      (fun r => (r.1.push ⟨k.number r.2, span⟩, [r.1.size])) <$>
        loadChildren t arena ((placed address k).map Cell.value) := by
  rw [loadCell, loadNode_obj, hspan, Document.kind_eq_ok.2 ⟨k, hk, rfl⟩, map_value_placed]
  change (fun arena : Array Node => (arena, [arena.size - 1])) <$> (loadChildren t arena _ >>= _) = _
  cases loadChildren t arena (k.map Cell.value).inReadingOrder with
  | error e => rfl
  | ok r =>
    change Except.ok _ = Except.ok _
    simp [NodeKind.number_map]

theorem takes_obj {l : Loader} {address : List Nat} {o : Json.Object}
    (hpending : l.pending = []) (hfresh : Fresh l address)
    (hchildren : ∀ k, Document.cells t o (Document.typeOf o) = .ok k →
      Takes t l (placed address k) (2 * total ((placed address k).map Cell.value))
        (loadChildren t l.arena ((placed address k).map Cell.value))) :
    Takes t l [⟨address, .obj o⟩] (2 * (Json.obj o).count)
      (loadCell t l.arena ⟨address, .obj o⟩) := by
  have hpos := count_pos (.obj o)
  have hnone : l.idOf ⟨address, .obj o⟩ = none := Fresh.idOf (c := ⟨address, .obj o⟩) hfresh
  cases hspan : Document.nodeSpan t o with
  | error e =>
    have hload : loadCell t l.arena ⟨address, .obj o⟩ = .error e := by
      rw [loadCell, loadNode_obj, hspan]
      rfl
    rw [hload]
    refine takes_error (by omega) fun rest => ?_
    rw [step_obj hnone, hspan]
    rfl
  | ok span =>
    cases hk : Document.cells t o (Document.typeOf o) with
    | error e =>
      have hload : loadCell t l.arena ⟨address, .obj o⟩ = .error e := by
        rw [loadCell, loadNode_obj, hspan, show Document.kind t o _ = .error e from
          map_eq_error.2 hk]
        rfl
      rw [hload]
      refine takes_error (by omega) fun rest => ?_
      rw [step_obj hnone, hspan, hk]
      rfl
    | ok k =>
      rw [loadCell_obj hspan hk]
      refine (takes_queued hpending hfresh hspan hk (hchildren k hk)).mono ?_
      have hless := total_inReadingOrder_lt (Document.kind_eq_ok.2 ⟨k, hk, rfl⟩)
      rw [← map_value_placed address] at hless
      omega

theorem takes_value {l : Loader} {c : Cell} (hfresh : Fresh l c.address)
    (h : ∀ o, c.value ≠ .obj o) : Takes t l [c] (2 * c.value.count) (loadCell t l.arena c) := by
  have hpos := count_pos c.value
  have hload : loadCell t l.arena c = .error .notANode := by
    unfold loadCell loadNode
    split
    · rename_i o hvalue
      exact absurd hvalue (h o)
    · rfl
  rw [hload]
  refine takes_error (by omega) fun rest => ?_
  simp only [State.step, hfresh.idOf, Option.isSome_none, Bool.false_eq_true, if_false]

theorem takes_cell {c : Cell} {l : Loader} (hpending : l.pending = []) (hfresh : Fresh l c.address) :
    Takes t l [c] (2 * c.value.count) (loadCell t l.arena c) := by
  induction hcount : c.value.count using Nat.strongRecOn generalizing c l with
  | _ n ih =>
    rw [← hcount]
    obtain ⟨address, v⟩ := c
    cases v with
    | obj o =>
      refine takes_obj hpending hfresh fun k hk => ?_
      refine takes_children ?_ ?_ hpending ?_
      · intro c hc l hpending hfresh
        refine ih c.value.count ?_ hpending hfresh rfl
        have hmem := List.mem_map_of_mem (f := Cell.value) hc
        rw [map_value_placed] at hmem
        exact hcount ▸ count_lt_of_mem (Document.kind_eq_ok.2 ⟨k, hk, rfl⟩) hmem
      · exact List.pairwise_map.2 ((Document.pairwise_cells hk).1.imp fun h => h.under address)
      · exact fun c hc => hfresh.of_suffix (suffix_of_mem_placed hc)
    | _ => exact takes_value hfresh fun o h => by cases h

theorem runs_loadNode (t : Text) (o : Json.Object) :
    ∃ n ≤ 2 * (Json.obj o).count, ∃ r, Runs t n { stack := [⟨[], .obj o⟩] } r ∧
      r >>= State.result ⟨[], .obj o⟩ =
        (fun nodes => (nodes, nodes.size - 1)) <$> loadNode t #[] (.obj o) := by
  have htakes := takes_cell (t := t) (c := ⟨[], .obj o⟩) (l := {}) rfl fun e he => by cases he
  cases hload : loadNode t #[] (.obj o) with
  | error e =>
    obtain ⟨n, hn, hrun⟩ := htakes.error (by rw [loadCell, hload]; rfl) []
    exact ⟨n, hn, _, hrun, rfl⟩
  | ok nodes =>
    obtain ⟨added, hnumbers, hreach⟩ := htakes.ok (by rw [loadCell, hload]; rfl)
    obtain ⟨n, hn, hreach⟩ := hreach []
    refine ⟨0 + n, by rwa [Nat.zero_add], _, hreach 0 _ (.done rfl), ?_⟩
    have hroot : idOf ⟨nodes, added ++ [], []⟩ ⟨[], .obj o⟩ = some (nodes.size - 1) :=
      (List.cons.inj hnumbers.given).1
    change State.result _ ⟨⟨nodes, added ++ [], []⟩, []⟩ = _
    rw [State.result, hroot]
    rfl

theorem loadProgram_eq_result {n : Nat} {o : Json.Object} {r : Except LoadError State}
    (h : Document.typeOf o = "Program") (hn : n ≤ 2 * (Json.obj o).count)
    (hruns : Runs t n { stack := [⟨[], .obj o⟩] } r) :
    loadProgram t (.obj o) = r >>= State.result ⟨[], .obj o⟩ := by
  simp only [loadProgram, h, ne_eq, not_true_eq_false, if_false, hruns.run_eq hn]

theorem loadProgram_obj {o : Json.Object} (h : Document.typeOf o = "Program") :
    loadProgram t (.obj o) =
      (fun nodes => (nodes, nodes.size - 1)) <$> loadNode t #[] (.obj o) := by
  obtain ⟨n, hn, r, hruns, hresult⟩ := runs_loadNode t o
  rw [loadProgram_eq_result h hn hruns, hresult]

theorem loadProgram_eq_ok {doc : Json} {nodes : Array Node} {root : NodeId}
    (h : loadProgram t doc = .ok (nodes, root)) :
    ∃ o, doc = .obj o ∧ Document.typeOf o = "Program" ∧ root = nodes.size - 1 ∧
      loadNode t #[] doc = .ok nodes := by
  cases doc with
  | obj o =>
    by_cases hty : Document.typeOf o = "Program"
    · rw [loadProgram_obj hty] at h
      obtain ⟨nodes', hnodes, heq⟩ := map_eq_ok.1 h
      cases heq
      exact ⟨o, rfl, hty, rfl, hnodes⟩
    · simp [loadProgram, hty] at h
  | _ => cases h

theorem load_eq_ok {doc : Json} {nodes : Array Node} (h : load t doc = .ok nodes) :
    ∃ o, doc = .obj o ∧ Document.typeOf o = "Program" ∧ loadNode t #[] doc = .ok nodes := by
  obtain ⟨⟨nodes', root⟩, hprogram, rfl⟩ := map_eq_ok.1 h
  obtain ⟨o, hdoc, hty, -, hnodes⟩ := loadProgram_eq_ok hprogram
  exact ⟨o, hdoc, hty, hnodes⟩

theorem numbered_of_load {doc : Json} {nodes : Array Node} (h : load t doc = .ok nodes) :
    Numbered nodes := by
  obtain ⟨-, -, -, hnodes⟩ := load_eq_ok h
  exact numbered_of_loadNode hnodes

/-- The loop over the stack ends, and gives what the recursion gives: the first error, or the nodes
in the order in which they were added with the program as the last one. Every number in a node is that
of a node before it, so none stands for a child that had no number yet. -/
theorem load_eq_loadNode {o : Json.Object} (h : Document.typeOf o = "Program") :
    (∃ n ≤ 2 * (Json.obj o).count, ∃ r, Runs t n { stack := [⟨[], .obj o⟩] } r ∧
      loadProgram t (.obj o) = r >>= State.result ⟨[], .obj o⟩) ∧
    loadProgram t (.obj o) =
      (fun nodes => (nodes, nodes.size - 1)) <$> loadNode t #[] (.obj o) ∧
    ∀ nodes root, loadProgram t (.obj o) = .ok (nodes, root) → Numbered nodes := by
  obtain ⟨n, hn, r, hruns, -⟩ := runs_loadNode t o
  refine ⟨⟨n, hn, r, hruns, loadProgram_eq_result h hn hruns⟩, loadProgram_obj h, ?_⟩
  intro nodes root hnodes
  obtain ⟨-, -, -, -, hnodes⟩ := loadProgram_eq_ok hnodes
  exact numbered_of_loadNode hnodes

def pairText : Text := "({é:b})".toList

def pairDocument : Json.Object :=
  [("body", .arr [.obj [
      ("expression", .obj [
        ("properties", .arr [.obj [
          ("key", .obj [("name", .str "é"), ("range", .arr [.nat 2, .nat 3]),
            ("type", .str "Identifier")]),
          ("range", .arr [.nat 2, .nat 5]),
          ("type", .str "Property"),
          ("value", .obj [("name", .str "b"), ("range", .arr [.nat 4, .nat 5]),
            ("type", .str "Identifier")])]]),
        ("range", .arr [.nat 1, .nat 6]),
        ("type", .str "ObjectExpression")]),
      ("range", .arr [.nat 0, .nat 7]),
      ("type", .str "ExpressionStatement")]]),
    ("type", .str "Program")]

def pairNodes : Array Node := #[
  ⟨.identifier "é" none false, ⟨2, 4⟩⟩,
  ⟨.identifier "b" none false, ⟨5, 6⟩⟩,
  ⟨.property 1 (some 0) .init false false, ⟨2, 6⟩⟩,
  ⟨.objectExpression [2], ⟨1, 7⟩⟩,
  ⟨.expressionStatement 3 none, ⟨0, 8⟩⟩,
  ⟨.program [4] .script, ⟨0, 8⟩⟩]

theorem load_eq_loadNode_pair :
    Document.typeOf pairDocument = "Program" ∧
    (fun nodes => (nodes, nodes.size - 1)) <$> loadNode pairText #[] (.obj pairDocument) =
      .ok (pairNodes, 5) := by
  have hprogram : Document.typeOf pairDocument = "Program" := by decide
  refine ⟨hprogram, ?_⟩
  rw [← (load_eq_loadNode hprogram).2.1]
  decide +kernel

end Loader

namespace Source

theorem ofDocument_eq_ok {path : String} {text : Text} {doc : Json} {s : Source}
    (h : ofDocument path text doc = .ok s) :
    ∃ nodes tree, Loader.load text doc = .ok nodes ∧
      Tree.ofNodes nodes (nodes.size - 1) = .ok tree ∧
      s = ⟨path, text, tree, TokenIndex.ofList (Loader.tokens text doc)⟩ := by
  obtain ⟨⟨nodes, root⟩, hnodes, h⟩ := bind_eq_ok.1 h
  obtain ⟨-, -, -, rfl, -⟩ := Loader.loadProgram_eq_ok hnodes
  dsimp only at h
  split at h
  · cases h
  · rename_i tree htree
    cases h
    exact ⟨nodes, tree, map_eq_ok.2 ⟨_, hnodes, rfl⟩, htree, rfl⟩

theorem ofDocument_eq (path : String) {text : Text} {doc : Json} {nodes : Array Node} {tree : Tree}
    (hload : Loader.load text doc = .ok nodes)
    (htree : Tree.ofNodes nodes (nodes.size - 1) = .ok tree) :
    ofDocument path text doc =
      .ok ⟨path, text, tree, TokenIndex.ofList (Loader.tokens text doc)⟩ := by
  obtain ⟨⟨nodes, root⟩, hnodes, rfl⟩ := map_eq_ok.1 hload
  obtain ⟨-, -, -, rfl, -⟩ := Loader.loadProgram_eq_ok hnodes
  simp only [ofDocument, hnodes, bind, Except.bind, htree]

end Source

end ScriptLint
