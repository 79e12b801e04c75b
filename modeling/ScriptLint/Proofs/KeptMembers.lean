import ScriptLint.Proofs.ReadMembers

/-! Which objects with a type an object keeps. Types that are not known keep all of them, so an
object loses a member exactly if its type is known and does not name it. -/
namespace ScriptLint.Document

open Json

def typedUnder (o : Object) (name : String) : List Object :=
  (objectsUnder o name).filter fun m => (text? m "type").isSome

/-- Members that need not be kept: those that say nothing about children, and the one that repeats
another. -/
def Excepted (t : Text) (o : Object) (name : String) : Prop :=
  name ∈ skippedFields ∨ repeatedField? t o (typeOf o) = some name

instance (t : Text) (o : Object) (name : String) : Decidable (Excepted t o name) :=
  inferInstanceAs (Decidable (_ ∨ _))

/-- Whichever members are taken, the typed objects under them are different ones of the children. -/
def Keeps (t : Text) (o : Object) (children : List Object) : Prop :=
  ∀ names : List String, names.Nodup → (∀ name ∈ names, ¬Excepted t o name) →
    (names.flatMap (typedUnder o)).Subperm children

theorem typedUnder_sublist (o : Object) (name : String) :
    (typedUnder o name).Sublist (objectsUnder o name) :=
  List.filter_sublist

theorem typedUnder_cons (key : String) (v : Json) (o : Object) (name : String) :
    typedUnder ((key, v) :: o) name =
      if name = key then (objects v).filter fun m => (text? m "type").isSome
      else typedUnder o name := by
  unfold typedUnder objectsUnder Object.get?
  rw [List.lookup_cons]
  by_cases h : name = key
  · simp [h]
  · rw [if_neg h, beq_eq_false_iff_ne.2 h]

theorem has_of_text? {m : Object} (h : (text? m "type").isSome) : Object.has m "type" := by
  unfold text? at h
  unfold Object.has
  cases hget : m.get? "type" with
  | none => simp [hget] at h
  | some v => rfl

theorem typedMembers_cons (key : String) (v : Json) (o : Object) :
    (typedMembers ((key, v) :: o)).filterMap Json.obj? =
      (if key ∈ skippedFields then [] else (objects v).filter fun m => Object.has m "type") ++
        (typedMembers o).filterMap Json.obj? := by
  have hlisted (vs : List Json) : (vs.filter isTyped).filterMap Json.obj? =
      (vs.filterMap Json.obj?).filter fun m => Object.has m "type" := by
    induction vs with
    | nil => rfl
    | cons w vs ih =>
      cases w with
      | obj m =>
        by_cases hm : Object.has m "type" <;> simp [isTyped, Json.obj?, hm, ih]
      | _ => exact ih
  unfold typedMembers
  by_cases hkey : key ∈ skippedFields
  · simp [hkey]
  · rw [List.filter_cons_of_pos (by simpa using hkey), List.flatMap_cons, List.filterMap_append,
      if_neg hkey]
    congr 1
    cases v with
    | arr vs => exact hlisted vs
    | obj m => by_cases hm : Object.has m "type" <;> simp [isTyped, objects, Json.obj?, hm]
    | _ => rfl

theorem flatMap_typedUnder_subperm (o : Object) {names : List String} (hnodup : names.Nodup)
    (hnames : ∀ name ∈ names, name ∉ skippedFields) :
    (names.flatMap (typedUnder o)).Subperm ((typedMembers o).filterMap Json.obj?) := by
  induction o generalizing names with
  | nil =>
    have hnone : names.flatMap (typedUnder []) = [] := List.flatMap_eq_nil_iff.2 fun _ _ => rfl
    rw [hnone]
    exact List.nil_subperm
  | cons f o ih =>
    obtain ⟨key, v⟩ := f
    rw [typedMembers_cons]
    have hother {names : List String} (hkey : key ∉ names) :
        names.flatMap (typedUnder ((key, v) :: o)) = names.flatMap (typedUnder o) := by
      refine List.flatMap_congr fun name hname => ?_
      rw [typedUnder_cons, if_neg (ne_of_mem_of_not_mem hname hkey)]
    -- The first member of a name hides later ones.
    by_cases hkey : key ∈ names
    · have hperm := List.perm_cons_erase hkey
      obtain ⟨hfresh, hrest⟩ := List.nodup_cons.1 (hperm.nodup_iff.1 hnodup)
      refine (hperm.flatMap_right _).subperm.trans ?_
      rw [List.flatMap_cons, hother hfresh, if_neg (hnames key hkey), typedUnder_cons, if_pos rfl]
      refine List.Subperm.append (List.Sublist.subperm ?_) (ih hrest fun name hname => ?_)
      · exact List.monotone_filter_right _ fun m hm => has_of_text? hm
      · exact hnames name (List.mem_of_mem_erase hname)
    · rw [hother hkey]
      exact (ih hnodup hnames).trans (List.sublist_append_right _ _).subperm

theorem flatMap_subperm {α β : Type} {f g : α → List β} {l l' : List α} (hl : l.Subperm l')
    (hfg : ∀ a, (f a).Sublist (g a)) : (l.flatMap f).Subperm (l'.flatMap g) := by
  obtain ⟨mid, hperm, hsub⟩ := hl
  refine ((hperm.symm.flatMap_right f).subperm).trans (List.Sublist.subperm ?_)
  exact (List.Sublist.flatMap_right mid fun a _ => hfg a).trans (hsub.flatMap g)

theorem flatMap_filter_of_nil {α β : Type} {f : α → List β} {p : α → Bool} {l : List α}
    (h : ∀ a ∈ l, ¬p a → f a = []) : (l.filter p).flatMap f = l.flatMap f := by
  induction l with
  | nil => rfl
  | cons a l ih =>
    rw [List.forall_mem_cons] at h
    rw [List.filter_cons, List.flatMap_cons, ← ih h.2]
    split
    · rfl
    · rename_i hp
      rw [h.1 hp, List.nil_append]

theorem typedUnder_eq_nil_of_subperm {o : Object} {names : List String} {name : String}
    (h : ((name :: names).flatMap (typedUnder o)).Subperm (names.flatMap (objectsUnder o))) :
    typedUnder o name = [] := by
  have hcount := h.countP_le fun m => (text? m "type").isSome
  have htyped (names : List String) :
      (names.flatMap (typedUnder o)).countP (fun m => (text? m "type").isSome) =
        (names.flatMap (typedUnder o)).length := by
    rw [List.countP_eq_length]
    intro m hm
    obtain ⟨name, -, hm⟩ := List.mem_flatMap.1 hm
    exact (List.mem_filter.1 hm).2
  have hread : (names.flatMap (objectsUnder o)).countP (fun m => (text? m "type").isSome) =
      (names.flatMap (typedUnder o)).length := by
    rw [List.countP_eq_length_filter, List.filter_flatMap]
    rfl
  rw [htyped, hread, List.flatMap_cons, List.length_append] at hcount
  exact List.length_eq_zero_iff.1 (by omega)

def NamesTyped (t : Text) (o : Object) : Prop :=
  ∀ names, childFields (typeOf o) = some names →
    ∀ name, ¬Excepted t o name → typedUnder o name ≠ [] → name ∈ names

/-- All members are kept exactly if the type, where it is known, names them. -/
theorem keeps_iff {t : Text} {o : Object} {k : NodeKind Json} {children : List Object}
    (h : kind t o (typeOf o) = .ok k) (hchildren : k.inReadingOrder = children.map .obj) :
    Keeps t o children ↔ NamesTyped t o := by
  unfold NamesTyped
  cases hty : childFields (typeOf o) with
  | none =>
    refine iff_of_true (fun names hnodup hnames => ?_) (fun _ hnone => by cases hnone)
    have hmembers : children = (typedMembers o).filterMap Json.obj? := by
      rw [← children_of_unknown h hty, hchildren, List.filterMap_map]
      exact (List.filterMap_some).symm
    rw [hmembers]
    exact flatMap_typedUnder_subperm o hnodup fun name hname hskip =>
      hnames name hname (.inl hskip)
  | some names =>
    obtain ⟨hnodup, hkept⟩ := childFields_eq_some hty
    have hread := children_of_known h hty
    rw [hchildren, List.map_inj_right fun _ _ h => Json.obj.inj h] at hread
    rw [hread]
    simp only [Option.some.injEq, forall_eq']
    constructor
    · intro hkeeps name hname htyped
      by_contra hunread
      refine htyped (typedUnder_eq_nil_of_subperm (hkeeps _ (List.nodup_cons.2 ⟨?_, ?_⟩) ?_))
      · exact fun hmem => hunread (List.mem_of_mem_filter hmem)
      · exact hnodup.filter _
      · intro name' hname'
        rcases List.mem_cons.1 hname' with rfl | hname'
        · exact hname
        · obtain ⟨hmem, hapart⟩ := List.mem_filter.1 hname'
          rintro (hskip | hrepeated)
          · exact hkept name' hmem hskip
          · exact absurd hrepeated (by simpa using hapart)
    · intro hall taken htaken hkeep
      -- Members that are not read hold nothing typed.
      have hempty (name : String) (hname : name ∈ taken) (hunread : name ∉ names) :
          typedUnder o name = [] := by
        by_contra htyped
        exact hunread (hall name (hkeep name hname) htyped)
      rw [← flatMap_filter_of_nil (p := (· ∈ names)) (by simpa using hempty)]
      refine flatMap_subperm (List.subperm_of_subset (htaken.filter _) fun name hname => ?_)
        (typedUnder_sublist o)
      obtain ⟨hname, hmem⟩ := List.mem_filter.1 hname
      refine List.mem_filter.2 ⟨by simpa using hmem, ?_⟩
      simpa using fun hrepeated => hkeep name hname (.inr hrepeated)

end ScriptLint.Document
