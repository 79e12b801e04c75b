import ScriptLint.Proofs.ReadMembers

/-! The children of a node are separate parts of its document: together they hold fewer values than
the document does. -/
namespace ScriptLint

open Json

namespace Document

def total (docs : List Json) : Nat := (docs.map Json.count).sum

@[simp] theorem total_nil : total [] = 0 := rfl

@[simp] theorem total_cons (v : Json) (docs : List Json) :
    total (v :: docs) = v.count + total docs := by
  simp [total]

@[simp] theorem total_append (docs docs' : List Json) :
    total (docs ++ docs') = total docs + total docs' := by
  simp [total]

theorem total_filter_le (p : Json → Bool) (docs : List Json) :
    total (docs.filter p) ≤ total docs := by
  induction docs with
  | nil => simp
  | cons v docs ih =>
    rw [List.filter_cons]
    split <;> simp only [total_cons] <;> omega

theorem countAll_eq_total (docs : List Json) : Json.count.countAll docs = total docs := by
  induction docs with
  | nil => rfl
  | cons v docs ih => rw [Json.count.countAll, ih, total_cons]

def sizeAt (o : Object) (name : String) : Nat := total (o.get? name).toList

theorem sizeAt_cons (key : String) (v : Json) (o : Object) (name : String) :
    sizeAt ((key, v) :: o) name = if name = key then v.count else sizeAt o name := by
  unfold sizeAt Object.get?
  rw [List.lookup_cons]
  by_cases h : name = key
  · simp [h]
  · rw [if_neg h, beq_eq_false_iff_ne.2 h]

theorem sum_sizeAt_le (o : Object) (names : List String) (h : names.Nodup) :
    (names.map (sizeAt o)).sum ≤ Json.count.countFields o := by
  induction o generalizing names with
  | nil =>
    have : names.map (sizeAt []) = names.map fun _ => 0 := rfl
    rw [this]
    simp
  | cons f o ih =>
    obtain ⟨key, v⟩ := f
    rw [Json.count.countFields]
    have hother (names : List String) (hkey : key ∉ names) :
        names.map (sizeAt ((key, v) :: o)) = names.map (sizeAt o) := by
      refine List.map_congr_left fun name hname => ?_
      rw [sizeAt_cons, if_neg (ne_of_mem_of_not_mem hname hkey)]
    -- The first member of a name hides later ones.
    by_cases hkey : key ∈ names
    · have hperm := List.perm_cons_erase hkey
      have hnodup := hperm.nodup_iff.1 h
      rw [(hperm.map _).sum_nat, List.map_cons, List.sum_cons, sizeAt_cons, if_pos rfl,
        hother _ (List.nodup_cons.1 hnodup).1]
      have := ih _ (List.nodup_cons.1 hnodup).2
      dsimp only
      omega
    · rw [hother names hkey]
      have := ih names h
      omega

theorem total_objectsUnder_le (o : Object) (name : String) :
    total ((objectsUnder o name).map .obj) ≤ sizeAt o name := by
  have hlisted (vs : List Json) : total ((vs.filterMap Json.obj?).map .obj) ≤ total vs := by
    induction vs with
    | nil => simp
    | cons v vs ih =>
      cases hv : v.obj? with
      | none =>
        rw [List.filterMap_cons_none hv, total_cons]
        omega
      | some m =>
        have hobject : v = .obj m := by cases v <;> simp_all [Json.obj?]
        rw [List.filterMap_cons_some hv, List.map_cons, total_cons, total_cons, hobject]
        omega
  unfold objectsUnder sizeAt
  cases o.get? name with
  | none => simp
  | some v =>
    cases v with
    | obj m => simp [objects]
    | arr vs =>
      have hle := hlisted vs
      simp only [Option.elim_some, objects, Option.toList_some, total_cons, total_nil, Json.count,
        countAll_eq_total]
      omega
    | _ => simp [objects]

theorem total_flatMap_objectsUnder_le (o : Object) (names : List String) :
    total ((names.flatMap (objectsUnder o)).map .obj) ≤ (names.map (sizeAt o)).sum := by
  induction names with
  | nil => simp
  | cons name names ih =>
    have hle := total_objectsUnder_le o name
    rw [List.flatMap_cons, List.map_append, total_append, List.map_cons, List.sum_cons]
    omega

theorem total_typedMembers_le (o : Object) : total (typedMembers o) ≤ Json.count.countFields o := by
  unfold typedMembers
  induction o with
  | nil => simp
  | cons f o ih =>
    rw [Json.count.countFields, List.filter_cons]
    split
    · rw [List.flatMap_cons, total_append]
      refine Nat.add_le_add ?_ ih
      split
      · rename_i vs hvs
        rw [hvs, Json.count, countAll_eq_total]
        have := total_filter_le isTyped vs
        omega
      · split <;> simp
    · omega

theorem total_inReadingOrder_lt {t : Text} {o : Object} {ty : String} {k : NodeKind Json}
    (h : kind t o ty = .ok k) : total k.inReadingOrder < (Json.obj o).count := by
  rw [Json.count]
  cases hty : childFields ty with
  | none =>
    rw [children_of_unknown h hty]
    have := total_typedMembers_le o
    omega
  | some names =>
    rw [children_of_known h hty]
    have hobjects := total_flatMap_objectsUnder_le o
      (names.filter fun name => repeatedField? t o ty ≠ some name)
    have hnames := sum_sizeAt_le o _ ((childFields_eq_some hty).1.filter
      fun name => repeatedField? t o ty ≠ some name)
    omega

end Document

end ScriptLint
