import ScriptLint.Proofs.ReadMembers

/-! Where the children of a node stand. A cell lies inside another if its address ends in that one's;
of two children of a node neither lies inside the other. -/
namespace ScriptLint

open Json

namespace Cell

/-- Neither of two cells lies inside the other. -/
def Apart (c d : Cell) : Prop := ¬c.address <:+ d.address ∧ ¬d.address <:+ c.address

variable {c d : Cell}

theorem Apart.symm (h : c.Apart d) : d.Apart c := ⟨h.2, h.1⟩

theorem Apart.under (h : c.Apart d) (address : List Nat) :
    (c.under address).Apart (d.under address) := by
  have hcancel {l l' : List Nat} (hl : l ++ address <:+ l' ++ address) : l <:+ l' := by
    obtain ⟨front, hfront⟩ := hl
    rw [← List.append_assoc, List.append_cancel_right_eq] at hfront
    exact ⟨front, hfront⟩
  exact ⟨fun hl => h.1 (hcancel hl), fun hl => h.2 (hcancel hl)⟩

theorem Apart.not_both (h : c.Apart d) {address : List Nat} (hc : c.address <:+ address) :
    ¬d.address <:+ address := by
  intro hd
  rcases List.suffix_or_suffix_of_suffix hc hd with hle | hle
  · exact h.1 hle
  · exact h.2 hle

theorem apart_of_length (hlength : c.address.length = d.address.length)
    (hne : c.address ≠ d.address) : c.Apart d :=
  ⟨fun h => hne (h.eq_of_length hlength), fun h => hne (h.eq_of_length hlength.symm).symm⟩

def Through (c : Cell) (member : Nat) : Prop := [member] <:+ c.address

theorem Through.ne_nil {member : Nat} (h : c.Through member) : c.address ≠ [] := by
  intro hnil
  rw [Through, hnil] at h
  exact List.cons_ne_nil _ _ (List.suffix_nil.1 h)

theorem apart_of_through {i j : Nat} (hc : c.Through i) (hd : d.Through j) (hne : i ≠ j) :
    c.Apart d := by
  have hmember {address : List Nat} (hi : [i] <:+ address) : ¬[j] <:+ address := by
    intro hj
    rcases List.suffix_or_suffix_of_suffix hi hj with h | h
    · exact hne (List.singleton_inj.1 (h.eq_of_length rfl))
    · exact hne (List.singleton_inj.1 (h.eq_of_length rfl)).symm
  exact ⟨fun h => hmember (hc.trans h) hd, fun h => hmember hc (hd.trans h)⟩

end Cell

theorem pairwise_zipIdx_ne {α : Type} (l : List α) :
    l.zipIdx.Pairwise fun a b => a.2 ≠ b.2 := by
  have h : (l.zipIdx.map Prod.snd).Nodup := by
    rw [List.zipIdx_map_snd]
    exact List.nodup_range'
  exact List.pairwise_map.1 h

namespace Document

theorem through_cellsUnder {o : Object} {name : String} {c : Cell} (hc : c ∈ cellsUnder o name) :
    c.Through (o.findIdx fun f => name == f.1) := by
  unfold cellsUnder at hc
  cases hget : o.get? name with
  | none => simp [hget] at hc
  | some v =>
    rw [hget, Option.elim_some] at hc
    unfold objectCells at hc
    split at hc
    · rw [List.mem_singleton.1 hc]
      exact List.suffix_refl _
    · obtain ⟨⟨w, i⟩, -, hw⟩ := List.mem_filterMap.1 hc
      obtain ⟨m, -, rfl⟩ := Option.map_eq_some_iff.1 hw
      exact List.suffix_cons i _
    · cases hc

theorem pairwise_cellsUnder (o : Object) (name : String) :
    (cellsUnder o name).Pairwise Cell.Apart := by
  unfold cellsUnder
  cases o.get? name with
  | none => exact .nil
  | some v =>
    rw [Option.elim_some]
    unfold objectCells
    split
    · exact List.pairwise_singleton _ _
    · rename_i vs
      refine List.pairwise_filterMap.2 ((pairwise_zipIdx_ne vs).imp ?_)
      rintro ⟨v, i⟩ ⟨w, j⟩ hne c hc d hd
      obtain ⟨m, -, rfl⟩ := Option.map_eq_some_iff.1 hc
      obtain ⟨m', -, rfl⟩ := Option.map_eq_some_iff.1 hd
      refine Cell.apart_of_length rfl fun h => hne ?_
      exact (List.cons.inj h).1
    · exact .nil

theorem findIdx_ne {o : Object} {name name' : String} (h : (o.get? name).isSome)
    (hne : name ≠ name') :
    (o.findIdx fun f => name == f.1) ≠ o.findIdx fun f => name' == f.1 := by
  intro heq
  have hlt : (o.findIdx fun f => name == f.1) < o.length := by
    obtain ⟨f, hf, hname⟩ := List.lookup_isSome_iff.1 h
    exact List.findIdx_lt_length_of_exists ⟨f, hf, hname⟩
  have hname := List.findIdx_getElem (w := hlt)
  have hname' := List.findIdx_getElem (w := heq ▸ hlt)
  simp only [← heq, beq_iff_eq] at hname hname'
  exact hne (hname.trans hname'.symm)

theorem through_typedAt {i : Nat} {v : Json} {c : Cell} (hc : c ∈ typedAt i v) : c.Through i := by
  unfold typedAt at hc
  split at hc
  · obtain ⟨⟨w, j⟩, -, rfl⟩ := List.mem_map.1 hc
    exact List.suffix_cons j _
  · split at hc
    · rw [List.mem_singleton.1 hc]
      exact List.suffix_refl _
    · cases hc

theorem pairwise_typedAt (i : Nat) (v : Json) : (typedAt i v).Pairwise Cell.Apart := by
  unfold typedAt
  split
  · refine List.pairwise_map.2 (((pairwise_zipIdx_ne _).filter _).imp ?_)
    rintro ⟨v, j⟩ ⟨w, j'⟩ hne
    exact Cell.apart_of_length rfl fun h => hne (List.cons.inj h).1
  · split
    · exact List.pairwise_singleton _ _
    · exact .nil

theorem pairwise_typedCells (o : Object) : (typedCells o).Pairwise Cell.Apart := by
  refine List.pairwise_flatMap.2 ⟨fun e _ => pairwise_typedAt e.2 e.1.2, ?_⟩
  refine ((pairwise_zipIdx_ne o).filter _).imp ?_
  intro e e' hne c hc d hd
  exact Cell.apart_of_through (through_typedAt hc) (through_typedAt hd) hne

theorem pairwise_cells {t : Text} {o : Object} {ty : String} {k : NodeKind Cell}
    (h : cells t o ty = .ok k) :
    k.inReadingOrder.Pairwise Cell.Apart ∧ ∀ c ∈ k.inReadingOrder, c.address ≠ [] := by
  cases hty : childFields ty with
  | none =>
    rw [cells_of_unknown h hty]
    refine ⟨pairwise_typedCells o, fun c hc => ?_⟩
    obtain ⟨e, -, hc⟩ := List.mem_flatMap.1 hc
    exact (through_typedAt hc).ne_nil
  | some names =>
    rw [cells_of_known h hty]
    have hnodup := ((childFields_eq_some hty).1.filter
      fun name => repeatedField? t o ty ≠ some name)
    constructor
    · refine List.pairwise_flatMap.2 ⟨fun name _ => pairwise_cellsUnder o name, ?_⟩
      refine List.Pairwise.imp ?_ hnodup
      intro name name' hne c hc d hd
      refine Cell.apart_of_through (through_cellsUnder hc) (through_cellsUnder hd) ?_
      refine findIdx_ne ?_ hne
      unfold cellsUnder at hc
      cases hget : o.get? name with
      | none => simp [hget] at hc
      | some v => rfl
    · intro c hc
      obtain ⟨name, -, hc⟩ := List.mem_flatMap.1 hc
      exact (through_cellsUnder hc).ne_nil

end Document

end ScriptLint
