import ScriptLint.Proofs.CombinedFixes
import ScriptLint.Proofs.SimultaneousEdits

/-! What a pass of fixes does: it accepts safe fixes greedily in the order of their diagnostics, and
carries out all edits of the accepted patches at once. -/
namespace ScriptLint.FixPass

open Patch

def safeAt? (diagnostics : List Diagnostic) (i : Nat) : Option Patch :=
  diagnostics[i]?.bind Diagnostic.safePatch?

theorem lt_length_of_safeAt? {diagnostics : List Diagnostic} {i : Nat} {p : Patch}
    (h : safeAt? diagnostics i = some p) : i < diagnostics.length := by
  obtain ⟨d, hd, -⟩ := Option.bind_eq_some_iff.1 h
  exact (List.getElem?_eq_some_iff.1 hd).1

theorem safeAt?_append_of_lt {diagnostics : List Diagnostic} (d : Diagnostic) {i : Nat}
    (h : i < diagnostics.length) : safeAt? (diagnostics ++ [d]) i = safeAt? diagnostics i := by
  rw [safeAt?, List.getElem?_append_left h, safeAt?]

theorem safeAt?_append_length (diagnostics : List Diagnostic) (d : Diagnostic) :
    safeAt? (diagnostics ++ [d]) diagnostics.length = d.safePatch? := by
  rw [safeAt?, List.getElem?_concat_length, Option.bind_some]

/-! Acceptance, diagnostic by diagnostic. -/

structure Greedy (diagnostics : List Diagnostic) (s : Selection) : Prop where
  increasing : s.accepted.Pairwise fun a b => a.1 < b.1
  mem_iff : ∀ i p, (i, p) ∈ s.accepted ↔ safeAt? diagnostics i = some p ∧
    ∀ a ∈ s.accepted, a.1 < i → a.2.intersects p = false
  counted : s.accepted.length + s.conflicting = diagnostics.countP Diagnostic.isFixable

namespace Greedy

variable {diagnostics : List Diagnostic} {s : Selection}

theorem safe (h : Greedy diagnostics s) {a : Nat × Patch} (ha : a ∈ s.accepted) :
    safeAt? diagnostics a.1 = some a.2 :=
  ((h.mem_iff a.1 a.2).1 ha).1

theorem lt_length (h : Greedy diagnostics s) {a : Nat × Patch} (ha : a ∈ s.accepted) :
    a.1 < diagnostics.length :=
  lt_length_of_safeAt? (h.safe ha)

/-- Earlier indices are judged as before if the accepted patches below them are the same. -/
theorem mem_iff_of_lt (h : Greedy diagnostics s) (d : Diagnostic) {accepted : List (Nat × Patch)}
    {i : Nat} (hi : i < diagnostics.length)
    (hsame : ∀ a : Nat × Patch, a.1 < diagnostics.length → (a ∈ accepted ↔ a ∈ s.accepted))
    (p : Patch) :
    (i, p) ∈ accepted ↔ safeAt? (diagnostics ++ [d]) i = some p ∧
      ∀ a ∈ accepted, a.1 < i → a.2.intersects p = false := by
  rw [hsame (i, p) hi, h.mem_iff, safeAt?_append_of_lt d hi]
  apply and_congr_right
  intro _
  constructor
  · intro hall a ha hlt
    exact hall a ((hsame a (by omega)).1 ha) hlt
  · intro hall a ha hlt
    exact hall a ((hsame a (by omega)).2 ha) hlt

theorem mem_iff_of_ge (d : Diagnostic) {accepted : List (Nat × Patch)} {i : Nat}
    (hi : ¬ i < diagnostics.length) (hlt : ∀ a ∈ accepted, a.1 < diagnostics.length + 1)
    (hlast : ∀ p, (diagnostics.length, p) ∈ accepted ↔ d.safePatch? = some p ∧
      ∀ a ∈ accepted, a.1 < diagnostics.length → a.2.intersects p = false) (p : Patch) :
    (i, p) ∈ accepted ↔ safeAt? (diagnostics ++ [d]) i = some p ∧
      ∀ a ∈ accepted, a.1 < i → a.2.intersects p = false := by
  by_cases heq : i = diagnostics.length
  · rw [heq, hlast, safeAt?_append_length]
  · have hnone : safeAt? (diagnostics ++ [d]) i = none := by
      rw [safeAt?, List.getElem?_eq_none (by simp; omega), Option.bind_none]
    constructor
    · intro hmem
      have := hlt _ hmem
      omega
    · rintro ⟨hsome, -⟩
      rw [hnone] at hsome
      cases hsome

theorem length_notMem (h : Greedy diagnostics s) (p : Patch) :
    (diagnostics.length, p) ∉ s.accepted :=
  fun hmem => absurd (h.lt_length hmem) (Nat.lt_irrefl _)

theorem pass (h : Greedy diagnostics s) {d : Diagnostic}
    (hcollides : ∀ p, d.safePatch? = some p → ∃ a ∈ s.accepted, a.2.intersects p = true)
    {conflicting : Nat} (hcounted : s.accepted.length + conflicting =
      (diagnostics ++ [d]).countP Diagnostic.isFixable) :
    Greedy (diagnostics ++ [d]) ⟨s.accepted, conflicting⟩ := by
  refine ⟨h.increasing, ?_, hcounted⟩
  intro i
  by_cases hi : i < diagnostics.length
  · exact h.mem_iff_of_lt d hi fun _ _ => Iff.rfl
  · apply mem_iff_of_ge d hi fun a ha => Nat.lt_succ_of_lt (h.lt_length ha)
    intro p
    refine iff_of_false (h.length_notMem p) ?_
    -- What collides with the last diagnostic has a smaller index.
    rintro ⟨hsafe, hall⟩
    obtain ⟨a, ha, hint⟩ := hcollides p hsafe
    rw [hall a ha (h.lt_length ha)] at hint
    cases hint

theorem accept (h : Greedy diagnostics s) {d : Diagnostic} {patch : Patch}
    (hsafe : d.safePatch? = some patch)
    (hapart : ∀ a ∈ s.accepted, a.2.intersects patch = false) :
    Greedy (diagnostics ++ [d])
      ⟨s.accepted ++ [(diagnostics.length, patch)], s.conflicting⟩ := by
  refine ⟨List.pairwise_append.2 ⟨h.increasing, by simp, ?_⟩, ?_, ?_⟩
  · simpa using fun a p ha => h.lt_length (a := (a, p)) ha
  · intro i
    by_cases hi : i < diagnostics.length
    · apply h.mem_iff_of_lt d hi
      intro a ha
      have hne : a ≠ (diagnostics.length, patch) := by
        rintro rfl
        exact absurd ha (Nat.lt_irrefl _)
      simp [hne]
    · apply mem_iff_of_ge d hi
      · intro a ha
        rcases List.mem_append.1 ha with ha | ha
        · exact Nat.lt_succ_of_lt (h.lt_length ha)
        · rw [List.mem_singleton.1 ha]
          exact Nat.lt_succ_self _
      · intro p
        simp only [List.mem_append, h.length_notMem, List.mem_singleton, Prod.mk.injEq, true_and,
          false_or, hsafe, Option.some.injEq, eq_comm (a := p)]
        constructor
        · rintro rfl
          refine ⟨rfl, ?_⟩
          rintro a (ha | rfl) hlt
          · exact hapart a ha
          · exact absurd hlt (Nat.lt_irrefl _)
        · exact And.left
  · have := h.counted
    simp [List.countP_append, Diagnostic.isFixable, hsafe]
    omega

theorem consider (h : Greedy diagnostics s) (d : Diagnostic) :
    Greedy (diagnostics ++ [d]) (s.consider diagnostics.length d) := by
  have hcounted := h.counted
  unfold Selection.consider
  cases hsafe : d.safePatch? with
  | none =>
    apply h.pass (by simp [hsafe])
    simp [List.countP_append, Diagnostic.isFixable, hsafe, hcounted]
  | some patch =>
    dsimp only
    cases hany : s.accepted.any fun a => a.2.intersects patch with
    | true =>
      rw [if_pos rfl]
      apply h.pass
      · rintro p hp
        cases hsafe.symm.trans hp
        exact List.any_eq_true.1 hany
      · simp [List.countP_append, Diagnostic.isFixable, hsafe]
        omega
    | false =>
      rw [if_neg Bool.false_ne_true]
      exact h.accept hsafe fun a ha => Bool.eq_false_iff.2 (List.any_eq_false.1 hany a ha)

theorem select (h : Greedy diagnostics s) (rest : List Diagnostic) :
    Greedy (diagnostics ++ rest) (FixPass.select diagnostics.length rest s) := by
  induction rest generalizing diagnostics s with
  | nil => simpa [FixPass.select] using h
  | cons d rest ih => simpa [FixPass.select] using ih (h.consider d)

end Greedy

theorem greedy_select (diagnostics : List Diagnostic) :
    Greedy diagnostics (select 0 diagnostics .empty) := by
  have hempty : Greedy [] .empty := ⟨.nil, by simp [Selection.empty, safeAt?], rfl⟩
  exact hempty.select diagnostics

theorem filterMap_safeAt?_select (diagnostics : List Diagnostic) :
    ((select 0 diagnostics .empty).accepted.map Prod.fst).filterMap (safeAt? diagnostics) =
      chosen diagnostics := by
  have h := greedy_select diagnostics
  rw [List.filterMap_map, chosen, ← List.filterMap_eq_map']
  exact List.filterMap_congr fun a ha => h.safe ha

/-! Only the safe patches matter. -/

def takeUp (sofar : List Patch × Nat) (patch : Patch) : List Patch × Nat :=
  if sofar.1.any fun p => p.intersects patch then (sofar.1, sofar.2 + 1)
  else (sofar.1 ++ [patch], sofar.2)

theorem select_eq_foldl (index : Nat) (diagnostics : List Diagnostic) (s : Selection) :
    ((select index diagnostics s).accepted.map Prod.snd, (select index diagnostics s).conflicting) =
      (diagnostics.filterMap Diagnostic.safePatch?).foldl takeUp
        (s.accepted.map Prod.snd, s.conflicting) := by
  induction diagnostics generalizing index s with
  | nil => rfl
  | cons d diagnostics ih =>
    rw [select, ih]
    unfold Selection.consider
    cases hsafe : d.safePatch? with
    | none => rw [List.filterMap_cons_none hsafe]
    | some patch =>
      have hany : ((s.accepted.map Prod.snd).any fun p => p.intersects patch) =
          s.accepted.any fun a => a.2.intersects patch := List.any_map
      rw [List.filterMap_cons_some hsafe, List.foldl_cons, takeUp, hany]
      congr 1
      dsimp only
      split <;> simp

theorem filterMap_safePatch?_filter (diagnostics : List Diagnostic) :
    (diagnostics.filter Diagnostic.isFixable).filterMap Diagnostic.safePatch? =
      diagnostics.filterMap Diagnostic.safePatch? := by
  induction diagnostics with
  | nil => rfl
  | cons d diagnostics ih =>
    cases hsafe : d.safePatch? with
    | none => simp [Diagnostic.isFixable, hsafe, ← ih]
    | some patch => simp [Diagnostic.isFixable, hsafe, ← ih]

theorem chosen_eq_of_filter_eq {diagnostics others : List Diagnostic}
    (h : others.filter Diagnostic.isFixable = diagnostics.filter Diagnostic.isFixable) :
    chosen others = chosen diagnostics ∧
      (select 0 others .empty).conflicting = (select 0 diagnostics .empty).conflicting := by
  have hsame := congrArg (List.filterMap Diagnostic.safePatch?) h
  rw [filterMap_safePatch?_filter, filterMap_safePatch?_filter] at hsame
  have hfold := select_eq_foldl 0 others .empty
  rw [hsame, ← select_eq_foldl 0 diagnostics .empty] at hfold
  exact Prod.mk.inj hfold

/-! Merging in any order. -/

def applied (text : Text) : Option Patch → Except PatchError Text
  | none => .ok text
  | some patch => patch.apply text

theorem combine_perm {ps qs : List Patch} (hps : ∀ p ∈ ps, p.Consistent) (hperm : qs.Perm ps)
    {combined : Option Patch} (h : combine ps = .ok combined) : combine qs = .ok combined := by
  have hqs : ∀ q ∈ qs, q.Consistent := fun q hq => hps q (hperm.subset hq)
  have hedits := hperm.flatMap_right Patch.edits
  match ps, qs with
  | [], [] => exact h
  | [], q :: qs => exact absurd hperm.length_eq (by simp)
  | p :: ps, [] => exact absurd hperm.length_eq (by simp)
  | p :: ps, q :: qs =>
    obtain ⟨r, hr, rfl⟩ := map_eq_ok.1 h
    have hp := hps p (by simp)
    have hq := hqs q (by simp)
    have hps' : ∀ p' ∈ ps, p'.Consistent := fun p' hp' => hps p' (List.mem_cons_of_mem _ hp')
    have hqs' : ∀ q' ∈ qs, q'.Consistent := fun q' hq' => hqs q' (List.mem_cons_of_mem _ hq')
    obtain ⟨r', hr'⟩ : ∃ r', qs.foldlM Patch.merge q = .ok r' := by
      apply (foldlM_merge_isOk_iff hq hqs').2
      exact (hedits.pairwise_iff Edit.conflictsWith_symm).2
        ((foldlM_merge_isOk_iff hp hps').1 ⟨r, hr⟩)
    obtain ⟨hconsistent, hall⟩ := foldlM_merge hp hps' hr
    obtain ⟨hconsistent', hall'⟩ := foldlM_merge hq hqs' hr'
    -- Both merges list the same edits in the order of their starts.
    have hsame : r'.edits = r.edits := by
      refine List.Perm.eq_of_pairwise ?_ hconsistent'.follows hconsistent.follows
        (hall'.trans (hedits.trans hall.symm))
      intro a b _ _ hab hba
      exact absurd (Nat.lt_trans hab.1 hba.1) (Nat.lt_irrefl _)
    have hpatch : r' = r := by
      cases r
      cases r'
      exact congrArg Patch.mk hsame
    rw [combine, hr', hpatch]
    rfl

theorem eq_replaceAll_of_applied {ps : List Patch} (hps : ∀ p ∈ ps, p.Consistent)
    {combined : Option Patch} {text fixed : Text} (h : combine ps = .ok combined)
    (happlied : applied text combined = .ok fixed) :
    fixed = Text.replaceAll (ps.flatMap Patch.edits) 0 text := by
  cases ps with
  | nil =>
    cases h
    cases happlied
    simp
  | cons p ps =>
    obtain ⟨r, hr, rfl⟩ := map_eq_ok.1 h
    obtain ⟨hconsistent, hall⟩ := foldlM_merge (hps p (by simp))
      (fun q hq => hps q (List.mem_cons_of_mem _ hq)) hr
    rw [hconsistent.eq_replaceAll happlied]
    exact Text.replaceAll_perm hall hconsistent.starts_ne 0 text

theorem run_eq_ok_iff {text : Text} {diagnostics : List Diagnostic} {outcome : FixOutcome} :
    run text diagnostics = .ok outcome ↔
      outcome.accepted = (select 0 diagnostics .empty).accepted.map Prod.fst ∧
      outcome.conflicting = (select 0 diagnostics .empty).conflicting ∧
      ∃ combined, combine (chosen diagnostics) = .ok combined ∧
        applied text combined = .ok outcome.text := by
  obtain ⟨fixed, accepted, conflicting⟩ := outcome
  unfold run
  dsimp only
  rw [show (select 0 diagnostics .empty).accepted.map Prod.snd = chosen diagnostics from rfl]
  cases hcombine : combine (chosen diagnostics) with
  | error e => simp
  | ok combined =>
    cases combined with
    | none =>
      have hnone : (select 0 diagnostics .empty).accepted = [] := by
        have hchosen : chosen diagnostics = [] := by
          cases hchosen : chosen diagnostics with
          | nil => rfl
          | cons p ps =>
            rw [hchosen] at hcombine
            obtain ⟨r, -, hr⟩ := map_eq_ok.1 hcombine
            cases hr
        exact List.map_eq_nil_iff.1 hchosen
      simp only [hnone, applied, Except.ok.injEq, FixOutcome.mk.injEq, List.map_nil,
        exists_eq_left']
      grind
    | some patch =>
      cases happly : patch.apply text with
      | error e => simp [applied, happly]
      | ok r =>
        simp only [applied, happly, Except.ok.injEq, FixOutcome.mk.injEq, exists_eq_left']
        grind

theorem text_of_run (text : Text) (diagnostics : List Diagnostic) :
    (run text diagnostics).toOption.map FixOutcome.text =
      (combine (chosen diagnostics)).toOption.bind fun combined =>
        (applied text combined).toOption := by
  unfold run
  dsimp only
  rw [show (select 0 diagnostics .empty).accepted.map Prod.snd = chosen diagnostics from rfl]
  cases combine (chosen diagnostics) with
  | error e => rfl
  | ok combined =>
    cases combined with
    | none => rfl
    | some patch =>
      cases happly : patch.apply text <;> simp [applied, happly, Except.toOption]

/-- What a pass writes depends on the safe fixes only. -/
theorem text_of_run_congr {diagnostics others : List Diagnostic}
    (h : others.filter Diagnostic.isFixable = diagnostics.filter Diagnostic.isFixable) (text : Text) :
    (run text others).toOption.map FixOutcome.text =
      (run text diagnostics).toOption.map FixOutcome.text := by
  rw [text_of_run, text_of_run, (chosen_eq_of_filter_eq h).1]
/-! The whole pass. -/

def acceptedPatches (diagnostics : List Diagnostic) (outcome : FixOutcome) : List Patch :=
  outcome.accepted.filterMap (safeAt? diagnostics)

structure IsPass (text : Text) (diagnostics : List Diagnostic) (outcome : FixOutcome) : Prop where
  increasing : outcome.accepted.Pairwise (· < ·)
  greedy : ∀ i, i ∈ outcome.accepted ↔ ∃ p, safeAt? diagnostics i = some p ∧
    ∀ j ∈ outcome.accepted, j < i → ∀ q, safeAt? diagnostics j = some q → q.intersects p = false
  counted : outcome.accepted.length + outcome.conflicting =
    diagnostics.countP Diagnostic.isFixable
  some_accepted : (∃ d ∈ diagnostics, d.isFixable = true) → outcome.accepted ≠ []
  text_eq : outcome.text =
    Text.replaceAll ((acceptedPatches diagnostics outcome).flatMap Patch.edits) 0 text
  any_order : ∀ ps, ps.Perm (acceptedPatches diagnostics outcome) →
    ∃ combined, combine ps = .ok combined ∧ applied text combined = .ok outcome.text
  /-- Diagnostics without a safe fix may come and go. -/
  only_safe : ∀ others : List Diagnostic,
    others.filter Diagnostic.isFixable = diagnostics.filter Diagnostic.isFixable →
    ∃ outcome', run text others = .ok outcome' ∧ outcome'.text = outcome.text ∧
      outcome'.accepted.length = outcome.accepted.length ∧
      outcome'.conflicting = outcome.conflicting

theorem isPass_of_run {text : Text} {diagnostics : List Diagnostic} {outcome : FixOutcome}
    (hbuilt : ∀ d ∈ diagnostics, ∀ p, d.safePatch? = some p → p.Built)
    (h : run text diagnostics = .ok outcome) : IsPass text diagnostics outcome := by
  obtain ⟨haccepted, hconflicting, combined, hcombine, happlied⟩ := run_eq_ok_iff.1 h
  have hgreedy := greedy_select diagnostics
  have hconsistent : ∀ p ∈ chosen diagnostics, p.Consistent := by
    intro p hp
    obtain ⟨d, hd, hsafe⟩ := (accepted_chosen diagnostics).safe p hp
    exact (hbuilt d hd p hsafe).consistent
  have hpatches : acceptedPatches diagnostics outcome = chosen diagnostics := by
    rw [acceptedPatches, haccepted, filterMap_safeAt?_select]
  have hmem (i : Nat) : i ∈ outcome.accepted ↔ ∃ p, safeAt? diagnostics i = some p ∧
      ∀ j ∈ outcome.accepted, j < i → ∀ q, safeAt? diagnostics j = some q →
        q.intersects p = false := by
    have hin (j : Nat) : j ∈ outcome.accepted ↔
        ∃ q, (j, q) ∈ (select 0 diagnostics .empty).accepted := by
      simp [haccepted]
    simp only [hin, hgreedy.mem_iff i]
    apply exists_congr
    intro p
    apply and_congr_right
    intro _
    constructor
    · rintro hall j ⟨q', hj⟩ hlt q hq
      have hsame := hgreedy.safe hj
      rw [hq, Option.some.injEq] at hsame
      subst hsame
      exact hall _ hj hlt
    · intro hall a ha hlt
      exact hall a.1 ⟨a.2, ha⟩ hlt a.2 (hgreedy.safe ha)
  refine ⟨?_, hmem, ?_, ?_, ?_, ?_, ?_⟩
  · rw [haccepted, List.pairwise_map]
    exact hgreedy.increasing
  · rw [haccepted, hconflicting, List.length_map]
    exact hgreedy.counted
  · rintro ⟨d, hd, hfixable⟩ hnone
    obtain ⟨i, hi⟩ := List.getElem?_of_mem hd
    obtain ⟨p, hp⟩ := Option.isSome_iff_exists.1 hfixable
    have hin := (hmem i).2 ⟨p, by rw [safeAt?, hi, Option.bind_some, hp], by simp [hnone]⟩
    rw [hnone] at hin
    cases hin
  · rw [hpatches]
    exact eq_replaceAll_of_applied hconsistent hcombine happlied
  · intro ps hperm
    rw [hpatches] at hperm
    exact ⟨combined, combine_perm hconsistent hperm hcombine, happlied⟩
  · intro others hothers
    obtain ⟨hchosen, hcount⟩ := chosen_eq_of_filter_eq hothers
    refine ⟨⟨outcome.text, _, _⟩, run_eq_ok_iff.2 ⟨rfl, rfl, combined, ?_, happlied⟩, rfl, ?_, ?_⟩
    · rw [hchosen, hcombine]
    · have hlength := congrArg List.length hchosen
      rw [chosen, chosen, List.length_map, List.length_map] at hlength
      rw [haccepted, List.length_map, List.length_map, hlength]
    · exact hcount.trans hconflicting.symm

theorem isPass_of_run_four :
    let ds := [fixing (.single ⟨⟨0, 3⟩, "x"⟩),
      ⟨"test", ⟨0, 0⟩, 1, 1, "", some (.suggestion (.single ⟨⟨4, 5⟩, "y"⟩) "")⟩,
      fixing (.single ⟨⟨1, 2⟩, "q"⟩), fixing ⟨[⟨⟨3, 3⟩, "é"⟩, ⟨⟨5, 6⟩, ""⟩]⟩]
    (∀ d ∈ ds, ∀ p, d.safePatch? = some p → p.Built) ∧
    run "abcdef".toList ds = .ok ⟨"xéde".toList, [0, 3], 1⟩ ∧
    IsPass "abcdef".toList ds ⟨"xéde".toList, [0, 3], 1⟩ := by
  intro ds
  have hlast : ofEdits [⟨⟨3, 3⟩, "é"⟩, ⟨⟨5, 6⟩, ""⟩] =
      .ok ⟨[⟨⟨3, 3⟩, "é"⟩, ⟨⟨5, 6⟩, ""⟩]⟩ := by cbv
  have hbuilt : ∀ d ∈ ds, ∀ p, d.safePatch? = some p → p.Built := by
    intro d hd p hp
    simp only [ds, List.mem_cons, List.not_mem_nil, or_false] at hd
    rcases hd with rfl | rfl | rfl | rfl
    · cases hp
      exact .single (by decide)
    · cases hp
    · cases hp
      exact .single (by decide)
    · cases hp
      exact .ofEdits (by decide) hlast
  have hrun : run "abcdef".toList ds = .ok ⟨"xéde".toList, [0, 3], 1⟩ := by cbv
  exact ⟨hbuilt, hrun, isPass_of_run hbuilt hrun⟩

end ScriptLint.FixPass
