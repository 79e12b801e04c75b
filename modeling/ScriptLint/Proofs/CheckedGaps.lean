import ScriptLint.Proofs.GreedyFixes
import ScriptLint.Proofs.RuleFindings
import ScriptLint.Proofs.ShiftedPlaces

/-! Fixes in gaps that are apart. A rule that looks at gaps of the text, each with one edit at most and
no two of them touching, has all its fixes accepted by one pass, and what the pass makes of a gap
depends on the edit of this gap only. -/
namespace ScriptLint

theorem Rule.run_of_noOptions {info : RuleInfo} {schema : Json}
    {check : Unit → FileSystem → SourceFile → List Finding} {options : Option Json}
    (h : ((Rule.of info schema () noOptions? check).withOptions options).isSome = true)
    (files : FileSystem) (file : SourceFile) (asked : FileCache) :
    (Rule.of info schema () noOptions? check).run options files file asked =
      (check () files file).map (file.diagnose info.id) := by
  obtain ⟨run, hrun⟩ := Option.isSome_iff_exists.1 h
  obtain ⟨o, rfl⟩ := exists_of_withOptions hrun
  rw [Rule.run, findings, hrun]
  rfl

namespace Patch

theorem cover_single {e : Edit} (h : e.span.start ≤ e.span.stop) : (single e).cover = e.span := by
  simp only [cover, single, List.head?_cons, List.getLast?_singleton, Option.map_some,
    Option.getD_some, Nat.max_eq_left h]

theorem intersects_single {a b : Edit} (ha : a.span.start ≤ a.span.stop)
    (hb : b.span.start ≤ b.span.stop) :
    (single a).intersects (single b) = a.conflictsWith b := by
  rw [intersects, cover_single ha, cover_single hb]
  rfl

end Patch

namespace FixPass

theorem select_eq_of_apart {ds : List Diagnostic} {ps : List Patch} {index : Nat} {s : Selection}
    (hsafe : ds.map Diagnostic.safePatch? = ps.map some)
    (hapart : (s.accepted.map Prod.snd ++ ps).Pairwise fun p q => p.intersects q = false) :
    select index ds s =
      ⟨s.accepted ++ (List.range' index ds.length).zip ps, s.conflicting⟩ := by
  induction ds generalizing index ps s with
  | nil => simp [select]
  | cons d ds ih =>
    obtain ⟨p, ps, rfl, hp, hps⟩ := List.map_eq_cons_iff.1 hsafe.symm
    have hfree : (s.accepted.any fun a => a.2.intersects p) = false := by
      rw [List.any_eq_false]
      intro a ha
      rw [List.pairwise_append] at hapart
      simp [hapart.2.2 a.2 (List.mem_map_of_mem ha) p (by simp)]
    have hconsider : s.consider index d = ⟨s.accepted ++ [(index, p)], s.conflicting⟩ := by
      rw [Selection.consider, ← hp]
      dsimp only
      rw [hfree]
      rfl
    rw [select, hconsider, ih hps.symm (by simpa using hapart)]
    simp [List.range'_succ]

theorem run_eq_of_apart {text : Text} {ds : List Diagnostic} {edits : List Edit}
    (hsafe : ds.map Diagnostic.safePatch? = edits.map fun e => some (Patch.single e))
    (hplaced : ∀ e ∈ edits, e.span.Placed text)
    (hapart : edits.Pairwise fun a b => a.conflictsWith b = false) :
    run text ds = .ok ⟨Text.replaceAll edits 0 text, List.range ds.length, 0⟩ := by
  have hsingle : ∀ p ∈ edits.map Patch.single, p.Consistent := by
    intro p hp
    obtain ⟨e, he, rfl⟩ := List.mem_map.1 hp
    exact Patch.consistent_single (hplaced e he).le
  have hintersects : (edits.map Patch.single).Pairwise fun p q => p.intersects q = false := by
    refine List.pairwise_map.2 (hapart.imp_of_mem fun {a b} ha hb hab => ?_)
    rw [Patch.intersects_single (hplaced a ha).le (hplaced b hb).le, hab]
  have hmeet : (edits.map Patch.single).Pairwise fun p q => p.meet q = false := by
    refine List.pairwise_map.2 (hapart.imp_of_mem fun {a b} ha hb hab => ?_)
    refine ((hsingle _ (List.mem_map_of_mem ha)).conflict_iff (hsingle _ (List.mem_map_of_mem hb))
      ?_).1 (by simpa [Patch.single] using hab)
    rw [Patch.intersects_single (hplaced a ha).le (hplaced b hb).le, hab]
  have hselect : select 0 ds .empty =
      ⟨(List.range' 0 ds.length).zip (edits.map Patch.single), 0⟩ := by
    have hsafe' : ds.map Diagnostic.safePatch? = (edits.map Patch.single).map some :=
      hsafe.trans (List.map_map (f := Patch.single) (g := some) (l := edits)).symm
    refine (select_eq_of_apart hsafe' (by simpa [Selection.empty] using hintersects)).trans ?_
    simp [Selection.empty]
  have hlength : ds.length = (edits.map Patch.single).length := by
    simpa using congrArg List.length hsafe
  have hchosen : chosen ds = edits.map Patch.single := by
    rw [chosen, hselect, List.map_snd_zip]
    rw [List.length_range', hlength]
  obtain ⟨combined, hcombine⟩ := (combine_isOk_iff hsingle hintersects).2 hmeet
  obtain ⟨fixed, hfixed⟩ : ∃ fixed, applied text combined = .ok fixed := by
    cases combined with
    | none => exact ⟨text, rfl⟩
    | some r =>
      refine ⟨_, apply_of_combine hsingle ?_ hcombine⟩
      intro p hp e he
      obtain ⟨e', he', rfl⟩ := List.mem_map.1 hp
      rw [List.mem_singleton.1 he]
      exact hplaced e' he'
  have hedits : (edits.map Patch.single).flatMap Patch.edits = edits := by
    rw [List.flatMap_map]
    exact List.flatMap_singleton' edits
  have htext := eq_replaceAll_of_applied hsingle hcombine hfixed
  rw [hedits] at htext
  refine run_eq_ok_iff.2 ⟨?_, ?_, combined, by rw [hchosen, hcombine], htext ▸ hfixed⟩
  · rw [hselect, List.map_fst_zip, List.range_eq_range']
    rw [List.length_range', hlength]
  · rw [hselect]

end FixPass

/-! Gaps of a text. -/

variable {ι : Type}

/-- Gaps that do not touch, and the edits inside them. -/
structure ApartGaps (text : Text) (gap : ι → Span) (edit? : ι → Option Edit) (l : List ι) : Prop where
  placed : ∀ i ∈ l, (gap i).Placed text
  apart : l.Pairwise fun i j => (gap i).stop < (gap j).start ∨ (gap j).stop < (gap i).start
  inside : ∀ i ∈ l, ∀ e, edit? i = some e → e.span.Placed text ∧ (gap i).contains e.span = true

namespace ApartGaps

variable {text : Text} {gap : ι → Span} {edit? : ι → Option Edit} {l : List ι}
  (h : ApartGaps text gap edit? l)
include h

theorem edits_placed : ∀ e ∈ l.filterMap edit?, e.span.Placed text := by
  intro e he
  obtain ⟨i, hi, he⟩ := List.mem_filterMap.1 he
  exact (h.inside i hi e he).1

theorem edits_apart : (l.filterMap edit?).Pairwise fun a b => a.conflictsWith b = false := by
  refine List.pairwise_filterMap.2 (h.apart.imp_of_mem ?_)
  intro i j hi hj hij a ha b hb
  obtain ⟨hplaced, hin⟩ := h.inside i hi a ha
  obtain ⟨hplaced', hin'⟩ := h.inside j hj b hb
  simp only [Span.contains, Bool.and_eq_true, decide_eq_true_eq] at hin hin'
  have := hplaced.le
  have := hplaced'.le
  rw [Edit.conflictsWith_eq_false_iff hplaced.le hplaced'.le]
  simp only [Edit.Follows]
  omega

theorem outside_of_apart {i j : ι} (hj : j ∈ l) {e : Edit} (he : edit? j = some e)
    (hij : (gap i).stop < (gap j).start ∨ (gap j).stop < (gap i).start) :
    e.span.stop < (gap i).start ∨ (gap i).stop < e.span.start := by
  obtain ⟨hplaced, hin⟩ := h.inside j hj e he
  simp only [Span.contains, Bool.and_eq_true, decide_eq_true_eq] at hin
  omega

theorem keepClear {i : ι} (hi : i ∈ l) : Text.KeepClear (l.filterMap edit?) (gap i) := by
  intro e he
  obtain ⟨j, hj, he⟩ := List.mem_filterMap.1 he
  by_cases hij : i = j
  · subst hij
    exact .inr (.inr (h.inside i hi e he).2)
  · have hsymm : Std.Symm fun i j : ι =>
        (gap i).stop < (gap j).start ∨ (gap j).stop < (gap i).start := ⟨fun _ _ => Or.symm⟩
    rcases h.outside_of_apart hj he (h.apart.forall hi hj hij) with hbefore | hbehind
    · exact .inl hbefore
    · exact .inr (.inl hbehind)

theorem filter_contains {i : ι} (hi : i ∈ l) :
    (l.filterMap edit?).filter (fun e => (gap i).contains e.span) = (edit? i).toList := by
  obtain ⟨l₁, l₂, rfl⟩ := List.append_of_mem hi
  have hapart := h.apart
  rw [List.pairwise_append, List.pairwise_cons] at hapart
  have hnone {part : List ι} (hsub : part ⊆ l₁ ++ i :: l₂)
      (hpart : ∀ j ∈ part, (gap i).stop < (gap j).start ∨ (gap j).stop < (gap i).start) :
      (part.filterMap edit?).filter (fun e => (gap i).contains e.span) = [] := by
    rw [List.filter_eq_nil_iff]
    intro e he
    obtain ⟨j, hj, he⟩ := List.mem_filterMap.1 he
    have hout := h.outside_of_apart (hsub hj) he (hpart j hj)
    have := (h.inside j (hsub hj) e he).1.le
    simp only [Span.contains, Bool.and_eq_true, decide_eq_true_eq]
    omega
  have hself : (edit? i).toList.filter (fun e => (gap i).contains e.span) = (edit? i).toList := by
    rw [List.filter_eq_self]
    intro e he
    exact (h.inside i hi e (Option.mem_toList.1 he)).2
  rw [List.filterMap_append, List.filter_append,
    hnone (List.subset_append_left _ _) fun j hj => (hapart.2.2 j hj i (by simp)).symm,
    List.nil_append, ← List.singleton_append, List.filterMap_append, List.filter_append,
    hnone (by simp) fun j hj => hapart.2.1.1 j hj, List.append_nil]
  have hone : [i].filterMap edit? = (edit? i).toList := by
    cases hedit : edit? i <;> simp [hedit]
  rw [hone, hself]

/-- What stands in a gap after all edits is what its own edit makes of it. -/
theorem exists_between {i : ι} (hi : i ∈ l) {edits : List Edit}
    (hedits : edits.Perm (l.filterMap edit?)) {u m w : Text} (htext : text = u ++ m ++ w)
    (hstart : (gap i).start = u.size) (hstop : (gap i).stop = (u ++ m).size) :
    ∃ x z, Text.replaceAll edits 0 text =
        x ++ Text.replaceAll (edit? i).toList u.size m ++ z ∧
      x.size = Edit.movedStop edits u.size ∧
      (x ++ Text.replaceAll (edit? i).toList u.size m).size =
        Edit.movedStart edits (u ++ m).size := by
  have hgap : gap i = ⟨u.size, (u ++ m).size⟩ := by rw [← hstart, ← hstop]
  have hapart := (hedits.pairwise_iff Edit.conflictsWith_symm).2 h.edits_apart
  have hplaced : ∀ e ∈ edits, e.span.Placed (u ++ m ++ w) :=
    fun e he => htext ▸ h.edits_placed e (hedits.mem_iff.1 he)
  obtain ⟨x, m', z, heq, hx, hm', rfl⟩ := Text.exists_replaceAll_between u m w hplaced hapart
    (fun e he => hgap ▸ h.keepClear hi e (hedits.mem_iff.1 he))
  have hown : edits.filter (fun e => Span.contains ⟨u.size, (u ++ m).size⟩ e.span) =
      (edit? i).toList := by
    have hperm := hedits.filter fun e => Span.contains ⟨u.size, (u ++ m).size⟩ e.span
    rw [← hgap, h.filter_contains hi] at hperm
    rw [← hgap]
    cases hedit : edit? i with
    | none => simpa [hedit] using hperm
    | some e => simpa [hedit] using hperm
  rw [hown] at heq hm'
  exact ⟨x, z, htext ▸ heq, hx, hm'⟩

theorem filter_replaceAll {edits : List Edit} (hedits : edits.Perm (l.filterMap edit?))
    (p : Char → Bool) (hes : ∀ i ∈ l, ∀ e, edit? i = some e →
      (text.slice e.span.start e.span.stop).filter p = [] ∧ e.replacement.toList.filter p = []) :
    (Text.replaceAll edits 0 text).filter p = text.filter p := by
  refine Text.filter_replaceAll (fun e he => h.edits_placed e (hedits.mem_iff.1 he))
    ((hedits.pairwise_iff Edit.conflictsWith_symm).2 h.edits_apart) p fun e he => ?_
  obtain ⟨i, hi, he⟩ := List.mem_filterMap.1 (hedits.mem_iff.1 he)
  exact hes i hi e he

end ApartGaps

namespace FixPass

def safeEdits (ds : List Diagnostic) : List Edit :=
  (ds.filterMap Diagnostic.safePatch?).flatMap Patch.edits

/-- All diagnostics have safe fixes, and these do not collide. -/
structure NoneCollides (ds : List Diagnostic) : Prop where
  safe : ∀ d ∈ ds, d.isFixable = true
  apart : (ds.filterMap Diagnostic.safePatch?).Pairwise fun p q => p.intersects q = false

theorem map_safePatch?_eq {ds : List Diagnostic}
    (h : ∀ d ∈ ds, ∃ e, d.safePatch? = some (.single e)) :
    ds.map Diagnostic.safePatch? = (safeEdits ds).map fun e => some (Patch.single e) := by
  induction ds with
  | nil => rfl
  | cons d ds ih =>
    obtain ⟨⟨e, he⟩, h⟩ := List.forall_mem_cons.1 h
    have hedits : safeEdits (d :: ds) = e :: safeEdits ds := by
      rw [safeEdits, List.filterMap_cons_some he]
      rfl
    rw [List.map_cons, ih h, hedits, List.map_cons, he]

/-- One pass over the diagnostics of gaps that are apart accepts all fixes. -/
theorem settles_of_apartGaps {text : Text} {gap : ι → Span} {edit? : ι → Option Edit} {l : List ι}
    (h : ApartGaps text gap edit? l) {ds : List Diagnostic}
    (hds : (ds.map Diagnostic.safePatch?).Perm
      ((l.filterMap edit?).map fun e => some (Patch.single e))) :
    NoneCollides ds ∧ (safeEdits ds).Perm (l.filterMap edit?) ∧
      run text ds =
        .ok ⟨Text.replaceAll (safeEdits ds) 0 text, List.range ds.length, 0⟩ := by
  have hsingle : ∀ d ∈ ds, ∃ e, d.safePatch? = some (.single e) := by
    intro d hd
    obtain ⟨e, -, he⟩ := List.mem_map.1 (hds.mem_iff.1 (List.mem_map_of_mem hd))
    exact ⟨e, he.symm⟩
  have hmap := map_safePatch?_eq hsingle
  have hperm : (safeEdits ds).Perm (l.filterMap edit?) := by
    have hmapped := hmap ▸ hds
    have hback (es : List Edit) : (es.map fun e => some (Patch.single e)).flatMap
        (fun p => (p.map Patch.edits).getD []) = es := by
      rw [List.flatMap_map]
      exact List.flatMap_singleton' es
    have := hmapped.flatMap_right fun p => (p.map Patch.edits).getD []
    rwa [hback, hback] at this
  have hplaced : ∀ e ∈ safeEdits ds, e.span.Placed text :=
    fun e he => h.edits_placed e (hperm.mem_iff.1 he)
  have hapart := (hperm.pairwise_iff Edit.conflictsWith_symm).2 h.edits_apart
  refine ⟨⟨?_, ?_⟩, hperm, run_eq_of_apart hmap hplaced hapart⟩
  · intro d hd
    obtain ⟨e, he⟩ := hsingle d hd
    rw [Diagnostic.isFixable, he]
    rfl
  · have hpatches : ds.filterMap Diagnostic.safePatch? = (safeEdits ds).map Patch.single := by
      have := congrArg (List.filterMap id) hmap
      rw [List.filterMap_map, List.filterMap_map] at this
      simpa [Function.comp_def] using this
    rw [hpatches]
    refine List.pairwise_map.2 (hapart.imp_of_mem fun {a b} ha hb hab => ?_)
    rw [Patch.intersects_single (hplaced a ha).le (hplaced b hb).le, hab]

end FixPass

end ScriptLint
