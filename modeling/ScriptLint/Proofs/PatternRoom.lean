import Mathlib
import ScriptLint.Regex.Footprint

/-! How much room a pattern can take. Each part costs so much at most, wherever it is laid out: the
sharing of states, which depends on where they are, can only save some. So a pattern that costs
little is never refused. -/
namespace ScriptLint.Regex

namespace Layout

variable {f g : Layout → Layout} {m n : Nat}

/-- The room that is taken, with the one for the link that an open fork will get. -/
def reserved (l : Layout) : Nat := l.room + forkRoom * l.openFork.toNat

def Costs (f : Layout → Layout) (n : Nat) : Prop := ∀ l, (f l).reserved ≤ l.reserved + n

theorem Costs.mono (h : Costs f m) (hle : m ≤ n) : Costs f n := fun l =>
  (h l).trans (Nat.add_le_add_left hle _)

theorem Costs.comp (hf : Costs f m) (hg : Costs g n) : Costs (fun l => g (f l)) (m + n) := fun l =>
  calc
    (g (f l)).reserved ≤ (f l).reserved + n := hg (f l)
    _ ≤ l.reserved + m + n := Nat.add_le_add_right (hf l) n
    _ = l.reserved + (m + n) := Nat.add_assoc ..

theorem costs_addStates (n : Nat) : Costs (addStates n) (stateRoom * n) := by
  intro l
  simp only [reserved, room, addStates, Nat.mul_add]
  omega

theorem costs_addState : Costs addState stateRoom := costs_addStates 1

theorem costs_addRanges (n : Nat) : Costs (addRanges n) (stateRoom + rangeRoom * n) := by
  intro l
  simp only [reserved, room, addRanges, Nat.mul_add]
  omega

theorem costs_link (n : Nat) : Costs (link n) (forkRoom * n) := by
  intro l
  simp only [reserved, room, link]
  omega

theorem costs_close : Costs close 0 := by
  intro l
  unfold close
  split
  · rename_i hfork
    simp only [reserved, room, link, hfork, Bool.toNat_true, Bool.toNat_false]
    omega
  · exact Nat.le_refl _

theorem costs_endInFork : Costs endInFork forkRoom := by
  intro l
  simp only [reserved, room, endInFork, Bool.toNat_true]
  omega

theorem Costs.foldl {α : Type} {f : Layout → α → Layout} {cost : α → Nat}
    (h : ∀ a, Costs (fun l => f l a) (cost a)) (as : List α) :
    Costs (fun l => as.foldl f l) (as.map cost).sum := by
  induction as with
  | nil => exact fun l => Nat.le_refl _
  | cons a as ih =>
    rw [List.map_cons, List.sum_cons]
    exact (h a).comp ih

end Layout

/-! Sets of characters. States that are not complete have their room reserved. -/

open Layout

def OpenState.reserved (s : OpenState) : Nat :=
  stateRoom + rangeRoom * (s.links.length + s.pending.isSome.toNat)

theorem OpenState.length_resolve (s : OpenState) (target : Nat) :
    (s.resolve target).length = s.links.length + s.pending.isSome.toNat := by
  unfold resolve
  split
  · rename_i hpending
    rw [hpending]
    rfl
  · rename_i hpending
    rw [hpending]
    rfl

theorem OpenState.reserved_resolve (s : OpenState) (target : Nat) :
    OpenState.reserved ⟨s.resolve target, none⟩ = s.reserved := by
  rw [reserved, reserved, length_resolve]
  rfl

namespace ForwardLayout

def reserved (f : ForwardLayout) : Nat := f.layout.reserved + (f.path.map OpenState.reserved).sum

theorem path_intern (f : ForwardLayout) (links : List ByteLink) : (f.intern links).2.path = f.path := by
  unfold intern
  dsimp only
  split <;> rfl

theorem layout_intern_le (f : ForwardLayout) (s : OpenState) (target : Nat) :
    (f.intern (s.resolve target)).2.layout.reserved ≤ f.layout.reserved + s.reserved := by
  have hranges := costs_addRanges (s.resolve target).length f.layout
  unfold intern
  dsimp only
  split
  · exact Nat.le_add_right _ _
  · rwa [s.length_resolve] at hranges ⊢

theorem complete_le (n target : Nat) (f : ForwardLayout) :
    (f.complete target n).reserved ≤ f.reserved := by
  -- A state that gets complete takes at most what was reserved for it.
  induction n generalizing target f with
  | zero =>
    unfold complete
    split
    · exact Nat.le_refl _
    · rename_i s path hpath
      simp only [reserved, hpath, List.map_cons, OpenState.reserved_resolve, Nat.le_refl]
  | succ n ih =>
    cases hpath : f.path with
    | nil => simp only [complete, hpath, Nat.le_refl]
    | cons s path =>
      simp only [complete, hpath]
      refine (ih _ _).trans ?_
      have hlayout := layout_intern_le { f with path := path } s target
      simp only [reserved, path_intern, hpath, List.map_cons, List.sum_cons] at hlayout ⊢
      omega

theorem add_le (target : Nat) (f : ForwardLayout) (rs : List ByteRange) :
    (f.add target rs).reserved ≤ f.reserved + (stateRoom + rangeRoom) * rs.length := by
  unfold add
  dsimp only
  have hcomplete := complete_le (f.path.length - (sharedLength f.path.reverse rs + 1)) target f
  have hlength : (rs.drop (sharedLength f.path.reverse rs)).length ≤ rs.length := by
    rw [List.length_drop]
    exact Nat.sub_le ..
  split
  · rename_i s path r rest hpath hrest
    -- The last state on the way gets one more link, and behind it there is one state for each
    -- further byte.
    have hpushed : (((rest.map fun r => (⟨[], some r⟩ : OpenState)).reverse).map
        OpenState.reserved).sum = (stateRoom + rangeRoom) * rest.length := by
      have hone : (OpenState.reserved ∘ fun r => ⟨[], some r⟩) = fun _ => stateRoom + rangeRoom := rfl
      rw [List.map_reverse, List.sum_reverse, List.map_map, hone, List.map_const',
        List.sum_replicate_nat, Nat.mul_comm]
    have hpending : OpenState.reserved { s with pending := some r } ≤ s.reserved + rangeRoom := by
      simp only [OpenState.reserved, Option.isSome_some, Bool.toNat_true, Nat.mul_add]
      omega
    have hrs := Nat.mul_le_mul_left (stateRoom + rangeRoom) hlength
    rw [hrest, List.length_cons, Nat.mul_add] at hrs
    simp only [reserved, hpath, List.map_cons, List.sum_cons, List.map_append, List.sum_append] at *
    omega
  · exact hcomplete.trans (Nat.le_add_right ..)

theorem foldl_add_le (target : Nat) (f : ForwardLayout) (sequences : List (List ByteRange)) :
    (sequences.foldl (add target) f).reserved ≤
      f.reserved + (stateRoom + rangeRoom) * (sequences.map List.length).sum := by
  induction sequences generalizing f with
  | nil => exact Nat.le_refl _
  | cons rs sequences ih =>
    have hadd := add_le target f rs
    have hrest := ih (f.add target rs)
    rw [List.foldl_cons, List.map_cons, List.sum_cons, Nat.mul_add]
    omega

end ForwardLayout

namespace Layout

theorem costs_addForwards (sequences : List (List ByteRange)) :
    Costs (addForwards sequences)
      (2 * stateRoom + (stateRoom + rangeRoom) * (sequences.map List.length).sum) := by
  intro l
  unfold addForwards
  dsimp only
  have hstart := costs_addState l
  have hfold := ForwardLayout.foldl_add_le l.states ⟨l.addState, ∅, [⟨[], none⟩]⟩ sequences
  generalize sequences.foldl (ForwardLayout.add l.states) ⟨l.addState, ∅, [⟨[], none⟩]⟩ = f at *
  have hcomplete := ForwardLayout.complete_le (f.path.length - 1) l.states f
  generalize f.complete l.states (f.path.length - 1) = f' at *
  have hroot : (ForwardLayout.reserved ⟨l.addState, ∅, [⟨[], none⟩]⟩) =
      l.addState.reserved + stateRoom := rfl
  split
  · simp only [ForwardLayout.reserved] at *
    omega
  · rename_i root rest hpath
    have hintern := f'.layout_intern_le root l.states
    simp only [ForwardLayout.reserved, hpath, List.map_cons, List.sum_cons] at *
    omega

theorem addBackward_le (target : Nat) (known : Known (ByteRange × Nat)) (l : Layout)
    (rs : List ByteRange) :
    (addBackward target known l rs).1.reserved ≤
      l.reserved + (stateRoom * rs.length + forkRoom) := by
  induction rs generalizing target known l with
  | nil => exact costs_link 1 l
  | cons r rs ih =>
    rw [addBackward]
    split
    · refine (ih _ _ _).trans ?_
      rw [List.length_cons, Nat.mul_add]
      omega
    · have hstate := costs_addState l
      refine (ih _ _ _).trans ?_
      rw [List.length_cons, Nat.mul_add]
      omega

theorem costs_addBackwards (sequences : List (List ByteRange)) :
    Costs (addBackwards sequences)
      (2 * stateRoom + (sequences.map fun rs => stateRoom * rs.length + forkRoom).sum) := by
  intro l
  have hfold : ∀ p : Layout × Known (ByteRange × Nat),
      (sequences.foldl (fun p rs => addBackward (l.states + 1) p.2 p.1 rs) p).1.reserved ≤
        p.1.reserved + (sequences.map fun rs => stateRoom * rs.length + forkRoom).sum := by
    induction sequences with
    | nil => exact fun p => Nat.le_refl _
    | cons rs sequences ih =>
      intro p
      have hadd := addBackward_le (l.states + 1) p.2 p.1 rs
      have hrest := ih (addBackward (l.states + 1) p.2 p.1 rs)
      rw [List.foldl_cons, List.map_cons, List.sum_cons]
      omega
  have hstart := costs_addStates 2 l
  have hall := hfold (l.addStates 2, ∅)
  unfold addBackwards
  dsimp only at hall ⊢
  omega

def setCost (s : Unicode.CodeSet) : Nat :=
  2 * stateRoom + rangeRoom * s.ranges.length +
    ((byteSequences s).map fun rs => (stateRoom + rangeRoom) * rs.length + forkRoom).sum

theorem costs_addSet (backwards : Bool) (s : Unicode.CodeSet) :
    Costs (addSet backwards s) (setCost s) := by
  have hlengths (rss : List (List ByteRange)) :
      (stateRoom + rangeRoom) * (rss.map List.length).sum ≤
        (rss.map fun rs => (stateRoom + rangeRoom) * rs.length + forkRoom).sum ∧
      (rss.map fun rs => stateRoom * rs.length + forkRoom).sum ≤
        (rss.map fun rs => (stateRoom + rangeRoom) * rs.length + forkRoom).sum := by
    induction rss with
    | nil => exact ⟨Nat.le_refl _, Nat.le_refl _⟩
    | cons rs rss ih =>
      have hrs : stateRoom * rs.length ≤ (stateRoom + rangeRoom) * rs.length :=
        Nat.mul_le_mul_right _ (Nat.le_add_right ..)
      simp only [List.map_cons, List.sum_cons, Nat.mul_add] at *
      omega
  obtain ⟨hforwards, hbackwards⟩ := hlengths (byteSequences s)
  unfold setCost
  intro l
  fun_cases addSet backwards s l
  · exact (costs_addState.comp (costs_addRanges _)).mono (by omega) l
  · exact (costs_addBackwards _).mono (by omega) l
  · exact (costs_addForwards _).mono (by omega) l

/-! Repetitions, sequences and choices. -/

theorem Costs.times (h : Costs f n) (k : Nat) : Costs (times f k) (n * k) := by
  induction k with
  | zero => exact fun l => Nat.le_refl _
  | succ k ih =>
    intro l
    unfold Layout.times
    split
    · exact Nat.le_add_right ..
    · have hf := h l
      have hrest := ih (f l)
      rw [Nat.mul_add]
      omega

theorem Costs.exactly (h : Costs f n) (k : Nat) :
    Costs (fun l => l.exactly f k) (n * k + stateRoom) := by
  cases k with
  | zero => exact costs_addState.mono (Nat.le_add_left ..)
  | succ k =>
    have hrest := (costs_close.comp h).times k
    rw [Nat.zero_add] at hrest
    exact (h.comp hrest).mono (by rw [Nat.mul_add]; omega)

theorem Costs.optional (h : Costs f n) :
    Costs (fun l => l.optional f) (n + 2 * stateRoom + 2 * forkRoom) :=
  ((((costs_addState.comp h).comp costs_close).comp costs_addState).comp (costs_link 2)).mono
    (by omega)

theorem Costs.plus (h : Costs f n) : Costs (fun l => l.plus f) (n + stateRoom + 2 * forkRoom) :=
  ((((h.comp costs_close).comp costs_addState).comp (costs_link 1)).comp costs_endInFork).mono
    (by omega)

theorem Costs.star (h : Costs f n) (consumes : Bool) :
    Costs (fun l => l.star consumes f) (n + 3 * stateRoom + 4 * forkRoom) := by
  cases consumes with
  | true =>
    exact ((((costs_addState.comp h).comp costs_close).comp (costs_link 1)).comp
      costs_endInFork).mono (by omega)
  | false =>
    exact (((h.comp costs_close).comp (costs_addStates 3)).comp (costs_link 4)).mono (by omega)

theorem Costs.counted (h : Costs f n) (min : Nat) (max : Option Nat) (consumes : Bool) :
    Costs (Layout.counted min max consumes f) ((min + max.getD 0 + 1) * (n + 4 * stateRoom)) := by
  intro l
  fun_cases Layout.counted min max consumes f l with
  | case1 => exact h.optional.mono (by simp [stateRoom, forkRoom]; omega) l
  | case2 => exact (h.star consumes).mono (by simp [stateRoom, forkRoom]) l
  | case3 => exact h.plus.mono (by simp [stateRoom, forkRoom]; omega) l
  | case4 k =>
    refine (((h.exactly k).comp costs_close).comp h.plus).mono ?_ l
    simp only [Option.getD_none, Nat.succ_eq_add_one, Nat.add_mul, Nat.mul_add, Nat.mul_comm n k,
      stateRoom, forkRoom]
    omega
  | case5 min =>
    refine (h.exactly min).mono ?_ l
    simp only [Option.getD_some, Nat.add_mul, Nat.mul_add, Nat.mul_comm n min, stateRoom]
    omega
  | case6 min m =>
    have hrepeated := (((costs_addState.comp h).comp costs_close).comp (costs_link 2)).times (m - min)
    refine ((((h.exactly min).comp costs_close).comp costs_addState).comp hrepeated).mono ?_ l
    have hle := Nat.mul_le_mul_left (stateRoom + n + 0 + forkRoom * 2) (Nat.sub_le m min)
    simp only [Option.getD_some, Nat.add_mul, Nat.mul_add, Nat.mul_comm n min, Nat.mul_comm n m,
      stateRoom, forkRoom] at hle ⊢
    omega

theorem costs_sequence {fs : List (Layout → Layout)} {ns : List Nat} (h : List.Forall₂ Costs fs ns) :
    Costs (Layout.sequence fs) (ns.sum + stateRoom) := by
  intro l
  fun_induction Layout.sequence fs l generalizing ns with
  | case1 l => exact costs_addState.mono (Nat.le_add_left ..) l
  | case2 f l =>
    cases h with
    | cons hf hrest =>
      cases hrest
      exact hf.mono (by rw [List.sum_singleton]; omega) l
  | case3 f fs l hne ih =>
    cases h with
    | cons hf hrest =>
      have hclosed : (f l).close.reserved ≤ _ := (hf.comp costs_close) l
      have hfs := ih hrest
      rw [List.sum_cons]
      omega

theorem foldl_choices_le {fs : List (Layout → Layout)} {ns : List Nat} (h : List.Forall₂ Costs fs ns)
    (l : Layout) : (fs.foldl (fun l f => (f l).close.link 1) l).reserved ≤
      l.reserved + (ns.sum + forkRoom * fs.length) := by
  induction h generalizing l with
  | nil => exact Nat.le_refl _
  | @cons f n fs ns hf hfs ih =>
    have hchoice : ((f l).close.link 1).reserved ≤ _ := ((hf.comp costs_close).comp (costs_link 1)) l
    have hrest := ih ((f l).close.link 1)
    rw [List.foldl_cons, List.sum_cons, List.length_cons, Nat.mul_add]
    omega

theorem costs_choices {fs : List (Layout → Layout)} {ns : List Nat} (h : List.Forall₂ Costs fs ns) :
    Costs (Layout.choices fs) (ns.sum + 2 * stateRoom + forkRoom * (fs.length + 2)) := by
  intro l
  fun_cases Layout.choices fs l with
  | case1 f g fs =>
    cases h with
    | cons hf hrest =>
      cases hrest with
      | cons hg hfs =>
        have hfirst : (((g (f l).close).close.addStates 2).link 2).reserved ≤ _ :=
          (((((hf.comp costs_close).comp hg).comp costs_close).comp (costs_addStates 2)).comp
            (costs_link 2)) l
        refine (foldl_choices_le hfs _).trans ?_
        simp only [List.sum_cons, List.length_cons, Nat.mul_add]
        omega
  | case2 => exact (costs_sequence h).mono (by omega) l

end Layout

namespace WordNode

def cost (n : WordNode) : Nat :=
  let sizes := (n.branch.length :: n.closed).filter fun size => size != 0
  (sizes.map fun size => stateRoom + rangeRoom * size).sum + stateRoom +
    forkRoom * (sizes.length + n.closed.length)

theorem costs_layOut (n : WordNode) : Costs n.layOut n.cost := by
  have hsize (size : Nat) : Costs (fun l => if size = 1 then l.addState else l.addRanges size)
      (stateRoom + rangeRoom * size) := by
    split
    · exact costs_addState.mono (Nat.le_add_right ..)
    · exact costs_addRanges size
  have hsizes := Costs.foldl hsize ((n.branch.length :: n.closed).filter fun size => size != 0)
  unfold WordNode.layOut
  intro l
  split
  · exact Nat.le_add_right ..
  · dsimp only
    split
    · exact hsizes.mono (by unfold cost; dsimp only; omega) l
    · exact ((hsizes.comp costs_addState).comp (costs_link _)).mono (Nat.le_refl _) l

end WordNode

def WordTree.cost (t : WordTree) : Nat := stateRoom + (t.toList.map WordNode.cost).sum

theorem WordTree.costs_layOut (t : WordTree) : Costs t.layOut t.cost := by
  unfold WordTree.layOut
  simp only [← Array.foldl_toList]
  exact costs_addState.comp (Costs.foldl WordNode.costs_layOut t.toList)

/-! Patterns. -/

namespace Pattern

theorem layOuts_eq (backwards : Bool) (ps : List Pattern) (done : List (Layout → Layout)) :
    layOuts backwards done ps = (ps.map (layOut backwards)).reverse ++ done := by
  induction ps generalizing done with
  | nil => rw [layOuts]; rfl
  | cons p ps ih =>
    rw [layOuts, ih, List.map_cons, List.reverse_cons, List.append_assoc, List.singleton_append]

mutual

def cost (backwards : Bool) : Pattern → Nat
  | empty | look _ => stateRoom
  | literal w => stateRoom * (bytes backwards w).length
  | chars set => setCost set
  | group _ p => p.cost backwards + 2 * stateRoom
  | rep min max _ p => (min + max.getD 0 + 1) * (p.cost backwards + 4 * stateRoom)
  | seq ps => (costs backwards ps).sum + stateRoom
  | alt ps =>
    match ps.mapM word? with
    | some words => (WordTree.ofWords (words.map (bytes backwards))).cost
    | none => (costs backwards ps).sum + 2 * stateRoom + forkRoom * (ps.length + 2)

def costs (backwards : Bool) : List Pattern → List Nat
  | [] => []
  | p :: ps => p.cost backwards :: costs backwards ps

end

mutual

theorem costs_layOut (backwards : Bool) :
    (p : Pattern) → Costs (p.layOut backwards) (p.cost backwards)
  | empty => fun l => by
    rw [layOut, cost]
    exact costs_addState l
  | look _ => fun l => by
    rw [layOut, cost]
    exact costs_addState l
  | literal w => fun l => by
    rw [layOut, cost]
    exact costs_addStates _ l
  | chars set => fun l => by
    rw [layOut, cost]
    exact costs_addSet backwards set l
  | group _ p => fun l => by
    have hp := costs_layOut backwards p
    rw [layOut, cost]
    split
    · exact hp.mono (Nat.le_add_right ..) l
    · exact (((costs_addState.comp hp).comp costs_close).comp costs_addState).mono (by omega) l
  | rep min max _ p => fun l => by
    rw [layOut, cost]
    exact (costs_layOut backwards p).counted min max p.consumes l
  | seq ps => fun l => by
    have hps := costs_layOuts backwards ps
    rw [layOut, cost, layOuts_eq, List.append_nil]
    split
    · rw [← List.sum_reverse]
      exact costs_sequence (List.rel_reverse hps) l
    · rw [List.reverse_reverse]
      exact costs_sequence hps l
  | alt ps => fun l => by
    have hchoices := costs_choices (costs_layOuts backwards ps) l
    rw [List.length_map] at hchoices
    rw [layOut, cost]
    cases ps.mapM word? with
    | some words => exact WordTree.costs_layOut _ l
    | none =>
      rw [layOuts_eq, List.append_nil, List.reverse_reverse]
      exact hchoices

theorem costs_layOuts (backwards : Bool) :
    (ps : List Pattern) → List.Forall₂ Costs (ps.map (layOut backwards)) (costs backwards ps)
  | [] => by
    rw [costs]
    exact .nil
  | p :: ps => by
    rw [costs, List.map_cons]
    exact .cons (costs_layOut backwards p) (costs_layOuts backwards ps)

end

/-- Around a pattern there are what is passed over before a match, the group of the whole match, and
the end. -/
theorem reserved_footprint_le (backwards : Bool) (p : Pattern) :
    (p.footprint backwards).reserved ≤ p.cost backwards + 9 * stateRoom := by
  have hskip : Costs (fun l => l.star true fun l => l.addState.addRanges 1) (6 * stateRoom) :=
    (Costs.star (costs_addState.comp (costs_addRanges 1)) true).mono (by decide)
  have hgroup := costs_layOut backwards (.group 0 p)
  rw [cost] at hgroup
  have hrest := ((costs_close.comp hgroup).comp costs_close).comp costs_addState
  have hstart : start.reserved = 0 := rfl
  unfold footprint
  dsimp only
  generalize (if backwards = true then p.traits.closesText else p.traits.opensText) = anchored
  cases anchored with
  | true =>
    have hanchored := (costs_addState.comp hrest) start
    dsimp only at hanchored
    rw [if_pos rfl]
    omega
  | false =>
    have hfree := (hskip.comp hrest) start
    dsimp only at hfree
    rw [if_neg Bool.false_ne_true]
    omega

theorem fits_of_cost {p : Pattern} (h : ∀ backwards, p.cost backwards + 9 * stateRoom ≤ maxRoom) :
    p.fits = true := by
  have hroom (backwards : Bool) : (p.footprint backwards).isFull = false :=
    decide_eq_false (Nat.not_lt.2 ((Nat.le_add_right ..).trans
      ((reserved_footprint_le backwards p).trans (h backwards))))
  rw [fits, hroom, hroom]
  rfl

end Pattern

end ScriptLint.Regex
