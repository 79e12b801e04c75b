import ScriptLint.Proofs.CombinedFixes

/-! Which edits make a patch, and what the patch does to a text. Edits go together if no two of them
conflict, in whatever order they are listed. A patch is applied edit by edit from its end; each edit
is judged on the text rewritten so far, and the verdict is the one on the old text. -/
namespace ScriptLint

namespace Edit

theorem span_eq_of_le {a b : Edit} (hab : a.le b = true) (hba : b.le a = true) :
    a.span = b.span := by
  obtain ⟨⟨start, stop⟩, _⟩ := a
  obtain ⟨⟨start', stop'⟩, _⟩ := b
  simp only [le, Bool.or_eq_true, Bool.and_eq_true, decide_eq_true_eq, beq_iff_eq] at hab hba
  simp only [Span.mk.injEq]
  omega

/-- The checks that an edit has to pass come out alike on two texts. -/
structure ChecksAgree (e : Edit) (t u : Text) : Prop where
  bounds : u.size < e.span.stop ↔ t.size < e.span.stop
  start : u.isBoundary e.span.start = t.isBoundary e.span.start
  stop : u.isBoundary e.span.stop = t.isBoundary e.span.stop

end Edit

namespace Patch

/-! Making a patch. -/

theorem pairwise_iff_getElem? {es : List Edit} :
    (es.Pairwise fun a b => a.conflictsWith b = false) ↔
      ∀ (i j : Nat) (a b : Edit), es[i]? = some a → es[j]? = some b → i ≠ j →
        a.conflictsWith b = false := by
  rw [List.pairwise_iff_getElem]
  constructor
  · intro h i j a b ha hb hij
    obtain ⟨hi, rfl⟩ := List.getElem?_eq_some_iff.1 ha
    obtain ⟨hj, rfl⟩ := List.getElem?_eq_some_iff.1 hb
    rcases Nat.lt_or_gt_of_ne hij with hlt | hgt
    · exact h i j hi hj hlt
    · exact Edit.conflictsWith_symm (h j i hj hi hgt)
  · intro h i j hi hj hij
    exact h i j _ _ (List.getElem?_eq_getElem hi) (List.getElem?_eq_getElem hj) (Nat.ne_of_lt hij)

theorem map_span_mergeSort {es es' : List Edit} (hperm : es'.Perm es) :
    (es'.mergeSort Edit.le).map Edit.span = (es.mergeSort Edit.le).map Edit.span := by
  have hsorted (l : List Edit) : ((l.mergeSort Edit.le).map Edit.span).Pairwise fun a b =>
      (⟨a, ""⟩ : Edit).le ⟨b, ""⟩ = true :=
    List.pairwise_map.2 (pairwise_mergeSort l)
  refine List.Perm.eq_of_pairwise ?_ (hsorted es') (hsorted es) ?_
  · intro a b _ _ hab hba
    exact Edit.span_eq_of_le hab hba
  · exact (((List.mergeSort_perm es' _).trans hperm).trans (List.mergeSort_perm es _).symm).map _

theorem firstConflict_congr {es es' : List Edit} (h : es'.map Edit.span = es.map Edit.span) :
    (firstConflict es').map (fun c => (c.1.span, c.2.span)) =
      (firstConflict es).map fun c => (c.1.span, c.2.span) := by
  induction es generalizing es' with
  | nil =>
    rw [List.map_eq_nil_iff.1 h]
  | cons a es ih =>
    obtain ⟨a', es', rfl, ha, hes⟩ := List.map_eq_cons_iff.1 h
    cases es with
    | nil =>
      rw [List.map_eq_nil_iff.1 hes]
      rfl
    | cons b es =>
      obtain ⟨b', es', rfl, hb, hes'⟩ := List.map_eq_cons_iff.1 hes
      have hconflict : a'.conflictsWith b' = a.conflictsWith b := by
        rw [Edit.conflictsWith, Edit.conflictsWith, ha, hb]
      rw [firstConflict, firstConflict, hconflict]
      split
      · simp [ha, hb]
      · exact ih hes

theorem ofEdits_perm {es es' : List Edit} (hperm : es'.Perm es)
    (hspan : ∀ e ∈ es, e.span.start ≤ e.span.stop) : ofEdits es' = ofEdits es := by
  have hconflicts := firstConflict_congr (map_span_mergeSort hperm)
  have hempty : es'.isEmpty = es.isEmpty := by
    rw [Bool.eq_iff_iff, List.isEmpty_iff, List.isEmpty_iff]
    exact ⟨fun h => (h ▸ hperm).nil_eq.symm, fun h => (h ▸ hperm).eq_nil⟩
  cases hp : ofEdits es with
  | ok p =>
    have hspan' : ∀ e ∈ es', e.span.start ≤ e.span.stop := fun e he => hspan e (hperm.mem_iff.1 he)
    obtain ⟨hne, hpairwise, rfl⟩ := (ofEdits_eq_ok_iff hspan).1 hp
    have hcompatible := (hperm.pairwise_iff Edit.conflictsWith_symm).2 hpairwise
    have hp' := (ofEdits_eq_ok_iff hspan').2
      ⟨fun h => hne (h ▸ hperm).nil_eq.symm, hcompatible, rfl⟩
    -- No two edits of either patch start at one place, so both list them in the same order.
    have hsame : es'.mergeSort Edit.le = es.mergeSort Edit.le := by
      refine List.Perm.eq_of_pairwise ?_ (consistent_of_ofEdits hp' hspan').follows
        (consistent_of_ofEdits hp hspan).follows ((perm_of_ofEdits hp').trans
          (hperm.trans (perm_of_ofEdits hp).symm))
      intro a b _ _ hab hba
      exact absurd (Nat.lt_trans hab.1 hba.1) (Nat.lt_irrefl _)
    rw [hp', hsame]
  | error err =>
    unfold ofEdits at hp ⊢
    rw [hempty]
    split at hp
    · rename_i hnil
      rw [if_pos hnil]
      exact hp
    · rename_i hne
      rw [if_neg hne]
      dsimp only at hp ⊢
      cases hfirst : firstConflict (es.mergeSort Edit.le) with
      | none =>
        rw [hfirst] at hp
        cases hp
      | some c =>
        rw [hfirst] at hp hconflicts
        obtain ⟨c', hfirst', hspans⟩ := Option.map_eq_some_iff.1 hconflicts
        obtain ⟨ha, hb⟩ := Prod.mk.inj hspans
        rw [hfirst']
        dsimp only at hp ⊢
        rw [ha, hb]
        exact hp

/-- Edits make a patch if and only if there are some and no two of them conflict. The patch has them
in the order of the text, one behind the other, and does not depend on how they were listed. -/
theorem ofEdits_isOk_iff {es : List Edit} (hspan : ∀ e ∈ es, e.span.start ≤ e.span.stop) :
    ((∃ p, ofEdits es = .ok p) ↔ es ≠ [] ∧
      ∀ (i j : Nat) (a b : Edit), es[i]? = some a → es[j]? = some b → i ≠ j →
        a.conflictsWith b = false) ∧
    (∀ p, ofEdits es = .ok p → p.edits.Perm es ∧
      (p.edits.Pairwise fun a b => a.span.start < b.span.start) ∧
      p.edits.Pairwise fun a b => a.span.stop ≤ b.span.start) ∧
    ∀ es', es'.Perm es → ofEdits es' = ofEdits es := by
  refine ⟨?_, ?_, fun es' hperm => ofEdits_perm hperm hspan⟩
  · simp only [ofEdits_eq_ok_iff hspan, pairwise_iff_getElem?]
    constructor
    · rintro ⟨_, hne, hcompatible, -⟩
      exact ⟨hne, hcompatible⟩
    · rintro ⟨hne, hcompatible⟩
      exact ⟨_, hne, hcompatible, rfl⟩
  · intro p hp
    have hfollows := (consistent_of_ofEdits hp hspan).follows
    exact ⟨perm_of_ofEdits hp, hfollows.imp And.left, hfollows.imp And.right⟩

theorem ofEdits_isOk_touching :
    let es : List Edit := [⟨⟨4, 6⟩, "b"⟩, ⟨⟨0, 2⟩, "a"⟩, ⟨⟨2, 2⟩, "é"⟩]
    (∀ e ∈ es, e.span.start ≤ e.span.stop) ∧
    ofEdits es = .ok ⟨[⟨⟨0, 2⟩, "a"⟩, ⟨⟨2, 2⟩, "é"⟩, ⟨⟨4, 6⟩, "b"⟩]⟩ ∧
    ofEdits es.reverse = ofEdits es ∧
    ∀ (i j : Nat) (a b : Edit), es[i]? = some a → es[j]? = some b → i ≠ j →
      a.conflictsWith b = false := by
  intro es
  have hspan : ∀ e ∈ es, e.span.start ≤ e.span.stop := by decide
  have hok : ofEdits es = .ok ⟨[⟨⟨0, 2⟩, "a"⟩, ⟨⟨2, 2⟩, "é"⟩, ⟨⟨4, 6⟩, "b"⟩]⟩ := by cbv
  obtain ⟨hiff, -, hperm⟩ := ofEdits_isOk_iff hspan
  exact ⟨hspan, hok, hperm _ (List.reverse_perm es), (hiff.1 ⟨_, hok⟩).2⟩

/-! Applying a patch. -/

theorem isBoundary_append_congr {u v w : Text} {n : Nat} (hle : n ≤ u.size) :
    (u ++ v).isBoundary n = (u ++ w).isBoundary n := by
  have hpart (x : Text) : (u ++ x).isBoundary n = true ↔ u.isBoundary n = true := by
    refine ⟨fun h => isBoundary_of_append h hle, fun h => ?_⟩
    obtain ⟨y, z, rfl, rfl⟩ := Text.isBoundary_iff.1 h
    exact Text.isBoundary_iff.2 ⟨y, z ++ x, by rw [List.append_assoc], rfl⟩
  rw [Bool.eq_iff_iff, hpart v, hpart w]

theorem applyEdit_eq_error_iff {size : Nat} {e : Edit} {t : Text} {err : PatchError} :
    applyEdit size e t = .error err ↔
      t.size < e.span.stop ∧ err = .outOfBounds e.span size ∨
      ¬ t.size < e.span.stop ∧ t.isBoundary e.span.start = false ∧
        err = .splitsCharacter e.span.start ∨
      ¬ t.size < e.span.stop ∧ t.isBoundary e.span.start = true ∧
        t.isBoundary e.span.stop = false ∧ err = .splitsCharacter e.span.stop := by
  unfold applyEdit Text.take? Text.drop? Text.isBoundary
  by_cases hbounds : t.size < e.span.stop
  · simp [hbounds, eq_comm (b := err)]
  · cases t.splitAt? e.span.start <;> cases t.splitAt? e.span.stop <;>
      simp [hbounds, eq_comm (b := err)]

theorem applyEdit_error_congr {e : Edit} {t u : Text} (h : e.ChecksAgree t u) (size : Nat)
    (err : PatchError) :
    applyEdit size e u = .error err ↔ applyEdit size e t = .error err := by
  rw [applyEdit_eq_error_iff, applyEdit_eq_error_iff, h.bounds, h.start, h.stop]

theorem checksAgree_of_applyEdits {e : Edit} {es : List Edit} {t u : Text}
    (hspan : ∀ e' ∈ e :: es, e'.span.start ≤ e'.span.stop)
    (hfollows : (e :: es).Pairwise Edit.Follows) (h : applyEdits t.size es t = .ok u) :
    e.ChecksAgree t u := by
  cases es with
  | nil =>
    cases h
    exact ⟨Iff.rfl, rfl, rfl⟩
  | cons e' es =>
    have hplaced := placed_of_applyEdits (fun e'' he'' => hspan e'' (List.mem_cons_of_mem _ he''))
      hfollows.tail h
    have hnext := (hplaced e' (by simp)).start
    have hinOrder : InOrder t 0 (e' :: es) :=
      Consistent.inOrder_of_placed hfollows.tail hplaced fun _ _ => Nat.zero_le _
    rw [applyEdits_eq_ok hinOrder t.isBoundary_zero, t.slice_self t.isBoundary_zero,
      List.nil_append, spliced, List.append_assoc, Except.ok.injEq] at h
    have hold : t = t.slice 0 e'.span.start ++ t.slice e'.span.start t.size := by
      rw [Text.slice_append_slice t.isBoundary_zero hnext t.isBoundary_size (Nat.zero_le _)
        (Text.le_size_of_isBoundary hnext), Text.slice_zero_size]
    have hsize := Text.size_slice_zero hnext
    have hle := hspan e (by simp)
    have hbehind : e.span.stop ≤ e'.span.start := (List.rel_of_pairwise_cons hfollows (by simp)).2
    have hagree (n : Nat) (hn : n ≤ e'.span.start) : u.isBoundary n = t.isBoundary n := by
      have hcongr := isBoundary_append_congr (u := t.slice 0 e'.span.start)
        (v := e'.replacement.toList ++ spliced t e'.span.stop es)
        (w := t.slice e'.span.start t.size) (hsize ▸ hn)
      rwa [h, ← hold] at hcongr
    refine ⟨?_, hagree _ (by omega), hagree _ hbehind⟩
    have hu : e'.span.start ≤ u.size := by
      rw [← h, Text.size_append, hsize]
      omega
    have ht := Text.le_size_of_isBoundary hnext
    omega

/-- A patch applies if and only if its edits are stretches of the text, and puts all replacements in
at once. An edit is accepted or refused on the text in which the edits behind it have been carried
out as it would be on the old one. -/
theorem Built.apply_eq_ok_iff {p : Patch} (hp : p.Built) (t : Text) :
    (∀ r, p.apply t = .ok r ↔
      (∀ e ∈ p.edits, e.span.stop ≤ t.size ∧ t.isBoundary e.span.start = true ∧
        t.isBoundary e.span.stop = true) ∧ r = spliced t 0 p.edits) ∧
    ∀ before e after u, p.edits = before ++ e :: after → applyEdits t.size after t = .ok u →
      e.ChecksAgree t u ∧
      ∀ err, applyEdit t.size e u = .error err ↔ applyEdit t.size e t = .error err := by
  have hconsistent := hp.consistent
  constructor
  · intro r
    constructor
    · intro h
      have hplaced := hconsistent.placed_of_apply h
      rw [hconsistent.apply_eq_ok hplaced, Except.ok.injEq] at h
      refine ⟨fun e he => ?_, h.symm⟩
      have hstop := (hplaced e he).stop
      exact ⟨Text.le_size_of_isBoundary hstop, (hplaced e he).start, hstop⟩
    · rintro ⟨hfits, rfl⟩
      refine hconsistent.apply_eq_ok fun e he => ?_
      exact ⟨hconsistent.span_le e he, (hfits e he).2.1, (hfits e he).2.2⟩
  · intro before e after u hedits h
    have hspan : ∀ e' ∈ e :: after, e'.span.start ≤ e'.span.stop := fun e' he' =>
      hconsistent.span_le e' (by rw [hedits]; exact List.mem_append_right _ he')
    have hfollows := hconsistent.follows
    rw [hedits] at hfollows
    have hagree := checksAgree_of_applyEdits hspan (List.pairwise_append.1 hfollows).2.1 h
    exact ⟨hagree, applyEdit_error_congr hagree t.size⟩

theorem Built.apply_eq_ok_iff_touching :
    let p : Patch := ⟨[⟨⟨0, 2⟩, "xyz"⟩, ⟨⟨2, 3⟩, "é"⟩]⟩
    p.Built ∧ p.apply "éab".toList = .ok "xyzéb".toList ∧
    spliced "éab".toList 0 p.edits = "xyzéb".toList ∧
    (⟨⟨0, 2⟩, "xyz"⟩ : Edit).ChecksAgree "éab".toList "ééb".toList := by
  intro p
  have hbuilt : p.Built :=
    .merge (p := .single ⟨⟨2, 3⟩, "é"⟩) (q := .single ⟨⟨0, 2⟩, "xyz"⟩) (.single (by decide))
      (.single (by decide)) (by cbv)
  have hspliced : spliced "éab".toList 0 p.edits = "xyzéb".toList := by decide
  obtain ⟨hok, hchecks⟩ := hbuilt.apply_eq_ok_iff "éab".toList
  refine ⟨hbuilt, (hok _).2 ⟨by decide, hspliced.symm⟩, hspliced, ?_⟩
  exact (hchecks [] _ [⟨⟨2, 3⟩, "é"⟩] _ rfl (by cbv)).1

end Patch

end ScriptLint
