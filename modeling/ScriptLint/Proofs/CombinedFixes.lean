import ScriptLint.FixPass
import ScriptLint.Proofs.ConsistentPatches
import ScriptLint.Proofs.TreeLinks

/-! When the fixes of a pass can be applied together. Fixes are accepted by their covers, but merged
edit by edit; the two agree except where one patch ends with an insertion at the very place where
another one begins. -/
namespace ScriptLint

namespace Patch

/-- Patches that the operations on patches can make. The ends of a span that an edit replaces are
always in order. -/
inductive Built : Patch → Prop
  | ofEdits {es : List Edit} {p : Patch} (hspan : ∀ e ∈ es, e.span.start ≤ e.span.stop)
      (h : Patch.ofEdits es = .ok p) : Built p
  | single {e : Edit} (hspan : e.span.start ≤ e.span.stop) : Built (.single e)
  | merge {p q r : Patch} (hp : Built p) (hq : Built q) (h : p.merge q = .ok r) : Built r

def insertsAt (p : Patch) (offset : Nat) : Bool := p.edits.any fun e => e.span == .empty offset

/-- Whether one of two patches inserts where the other one begins. -/
def meet (p q : Patch) : Bool := p.insertsAt q.cover.start || q.insertsAt p.cover.start

theorem Consistent.span_le_append {p q : Patch} (hp : p.Consistent) (hq : q.Consistent) :
    ∀ e ∈ p.edits ++ q.edits, e.span.start ≤ e.span.stop := by
  intro e he
  rcases List.mem_append.1 he with he | he
  · exact hp.span_le e he
  · exact hq.span_le e he

theorem Consistent.merge {p q r : Patch} (hp : p.Consistent) (hq : q.Consistent)
    (h : p.merge q = .ok r) : r.Consistent :=
  consistent_of_ofEdits h (hp.span_le_append hq)

theorem Built.consistent {p : Patch} (h : p.Built) : p.Consistent := by
  induction h with
  | ofEdits hspan h => exact consistent_of_ofEdits h hspan
  | single hspan => exact consistent_single hspan
  | merge _ _ h ihp ihq => exact ihp.merge ihq h

theorem insertsAt_eq_true {p : Patch} {offset : Nat} :
    p.insertsAt offset = true ↔
      ∃ e ∈ p.edits, e.span.start = offset ∧ e.span.stop = offset := by
  simp only [insertsAt, List.any_eq_true, beq_iff_eq, Span.empty]
  refine exists_congr fun e => and_congr_right fun _ => ?_
  obtain ⟨⟨start, stop⟩, _⟩ := e
  simp

namespace Consistent

variable {p q : Patch}

theorem exists_start (h : p.Consistent) : ∃ e ∈ p.edits, e.span.start = p.cover.start := by
  obtain ⟨e, es, hes⟩ := List.exists_cons_of_ne_nil h.nonempty
  exact ⟨e, by simp [hes], by simp [cover, hes]⟩

theorem cover_contains (h : p.Consistent) {e : Edit} (he : e ∈ p.edits) :
    p.cover.start ≤ e.span.start ∧ e.span.start ≤ e.span.stop ∧ e.span.stop ≤ p.cover.stop := by
  refine ⟨?_, h.span_le e he, ?_⟩
  · obtain ⟨first, es, hes⟩ := List.exists_cons_of_ne_nil h.nonempty
    have hfollows := h.follows
    simp only [cover, hes, List.head?_cons, Option.map_some, Option.getD_some]
    rw [hes] at hfollows he
    rcases List.mem_cons.1 he with rfl | he
    · exact Nat.le_refl _
    · exact Nat.le_of_lt (List.rel_of_pairwise_cons hfollows he).1
  · obtain ⟨es, last, hes⟩ := (List.eq_nil_or_concat' p.edits).resolve_left h.nonempty
    have hlast := h.span_le last (by simp [hes])
    have hfollows := h.follows
    have hcover : last.span.stop ≤ p.cover.stop := by
      simp only [cover, hes, List.getLast?_append, List.getLast?_singleton, Option.some_or,
        Option.map_some, Option.getD_some]
      exact Nat.le_max_left _ _
    rw [hes, List.pairwise_append] at hfollows
    rw [hes] at he
    rcases List.mem_append.1 he with he | he
    · have := (hfollows.2.2 e he last (by simp)).2
      omega
    · rw [List.mem_singleton.1 he]
      exact hcover

/-- A patch that begins behind another one can only clash with an insertion at its own start. -/
theorem conflict_iff_of_lt (hp : p.Consistent) (hq : q.Consistent)
    (hintersects : p.intersects q = false) (hlt : p.cover.start < q.cover.start) :
    (∀ a ∈ p.edits, ∀ b ∈ q.edits, a.conflictsWith b = false) ↔ p.meet q = false := by
  obtain ⟨first, hfirst, hstart⟩ := hq.exists_start
  have hcover := hq.cover_contains hfirst
  have hapart : p.cover.stop ≤ q.cover.start := by
    simp only [intersects, Bool.or_eq_false_iff, Bool.and_eq_false_iff,
      decide_eq_false_iff_not] at hintersects
    omega
  constructor
  · intro h
    rw [meet, Bool.or_eq_false_iff]
    refine ⟨Bool.eq_false_iff.2 fun hinserts => ?_, Bool.eq_false_iff.2 fun hinserts => ?_⟩
    · obtain ⟨a, ha, hat, -⟩ := insertsAt_eq_true.1 hinserts
      have hconflict := h a ha first hfirst
      simp [Edit.conflictsWith, hat, hstart] at hconflict
    · obtain ⟨b, hb, hat, -⟩ := insertsAt_eq_true.1 hinserts
      have := hq.cover_contains hb
      omega
  · intro h a ha b hb
    rw [meet, Bool.or_eq_false_iff] at h
    have hacover := hp.cover_contains ha
    have hbcover := hq.cover_contains hb
    rw [Edit.conflictsWith_eq_false_iff hacover.2.1 hbcover.2.1]
    refine .inl ⟨?_, by omega⟩
    by_contra hge
    have hinserts : p.insertsAt q.cover.start = true :=
      insertsAt_eq_true.2 ⟨a, ha, by omega, by omega⟩
    rw [h.1] at hinserts
    cases hinserts

theorem conflict_iff (hp : p.Consistent) (hq : q.Consistent)
    (hintersects : p.intersects q = false) :
    (∀ a ∈ p.edits, ∀ b ∈ q.edits, a.conflictsWith b = false) ↔ p.meet q = false := by
  rcases Nat.lt_trichotomy p.cover.start q.cover.start with hlt | heq | hlt
  · exact hp.conflict_iff_of_lt hq hintersects hlt
  · simp [intersects, heq] at hintersects
  · have hswap : q.intersects p = false := by
      simpa only [intersects, Bool.or_eq_false_iff, Bool.and_eq_false_iff, beq_eq_false_iff_ne,
        decide_eq_false_iff_not, ne_comm, or_comm] using hintersects
    have hiff := hq.conflict_iff_of_lt hp hswap hlt
    rw [show p.meet q = q.meet p by rw [meet, meet, Bool.or_comm], ← hiff]
    constructor
    · intro h b hb a ha
      rw [Edit.conflictsWith_comm]
      exact h a ha b hb
    · intro h a ha b hb
      rw [Edit.conflictsWith_comm]
      exact h b hb a ha

theorem pairwise_conflictsWith (h : p.Consistent) :
    p.edits.Pairwise fun a b => a.conflictsWith b = false := by
  refine h.follows.imp_of_mem ?_
  intro a b ha hb hab
  exact (Edit.conflictsWith_eq_false_iff (h.span_le a ha) (h.span_le b hb)).2 (.inl hab)

theorem merge_isOk_iff (hp : p.Consistent) (hq : q.Consistent) :
    (∃ r, p.merge q = .ok r) ↔
      (p.edits ++ q.edits).Pairwise fun a b => a.conflictsWith b = false := by
  simp only [Patch.merge, ofEdits_eq_ok_iff (hp.span_le_append hq)]
  simp [hp.nonempty]

end Consistent

end Patch

namespace FixPass

open Patch

/-- Merging from left to right succeeds if all edits together do not conflict, and then keeps all of
them. -/
theorem foldlM_merge_isOk_iff {p : Patch} {ps : List Patch} (hp : p.Consistent)
    (hps : ∀ q ∈ ps, q.Consistent) :
    (∃ r, ps.foldlM Patch.merge p = .ok r) ↔
      ((p :: ps).flatMap Patch.edits).Pairwise fun a b => a.conflictsWith b = false := by
  induction ps generalizing p with
  | nil =>
    simp only [List.flatMap_cons, List.flatMap_nil, List.append_nil, hp.pairwise_conflictsWith,
      iff_true]
    exact ⟨p, rfl⟩
  | cons q ps ih =>
    have hq := hps q (by simp)
    have hrest : ∀ q' ∈ ps, q'.Consistent := fun q' hq' => hps q' (List.mem_cons_of_mem _ hq')
    rw [List.foldlM_cons]
    constructor
    · rintro ⟨r, h⟩
      obtain ⟨m, hm, h⟩ := bind_eq_ok.1 h
      have hall := (ih (hp.merge hq hm) hrest).1 ⟨r, h⟩
      -- Merging sorts, and whether edits conflict does not depend on their order.
      refine (List.Perm.pairwise_iff Edit.conflictsWith_symm ?_).1 hall
      simpa [List.append_assoc] using (perm_of_ofEdits hm).append_right (ps.flatMap Patch.edits)
    · intro h
      have hboth : (p.edits ++ q.edits).Pairwise fun a b => a.conflictsWith b = false := by
        simp only [List.flatMap_cons, ← List.append_assoc] at h
        exact (List.pairwise_append.1 h).1
      obtain ⟨m, hm⟩ := (hp.merge_isOk_iff hq).2 hboth
      have hall : ((m :: ps).flatMap Patch.edits).Pairwise fun a b => a.conflictsWith b = false := by
        refine (List.Perm.pairwise_iff Edit.conflictsWith_symm ?_).2 h
        simpa [List.append_assoc] using (perm_of_ofEdits hm).append_right (ps.flatMap Patch.edits)
      obtain ⟨r, hr⟩ := (ih (hp.merge hq hm) hrest).2 hall
      exact ⟨r, bind_eq_ok.2 ⟨m, hm, hr⟩⟩

theorem foldlM_merge {p r : Patch} {ps : List Patch} (hp : p.Consistent)
    (hps : ∀ q ∈ ps, q.Consistent) (h : ps.foldlM Patch.merge p = .ok r) :
    r.Consistent ∧ r.edits.Perm ((p :: ps).flatMap Patch.edits) := by
  induction ps generalizing p with
  | nil =>
    cases h
    exact ⟨hp, by simp⟩
  | cons q ps ih =>
    rw [List.foldlM_cons] at h
    obtain ⟨m, hm, h⟩ := bind_eq_ok.1 h
    obtain ⟨hr, hperm⟩ := ih (hp.merge (hps q (by simp)) hm)
      (fun q' hq' => hps q' (List.mem_cons_of_mem _ hq')) h
    refine ⟨hr, hperm.trans ?_⟩
    simpa [List.append_assoc] using (perm_of_ofEdits hm).append_right (ps.flatMap Patch.edits)

/-! Acceptance. -/

/-- Patches that were accepted so far: safe ones of the diagnostics, no two of which intersect. -/
structure Accepted (diagnostics : List Diagnostic) (patches : List Patch) : Prop where
  safe : ∀ p ∈ patches, ∃ d ∈ diagnostics, d.safePatch? = some p
  apart : patches.Pairwise fun p q => p.intersects q = false

theorem Accepted.consider {diagnostics : List Diagnostic} {s : Selection}
    (h : Accepted diagnostics (s.accepted.map Prod.snd)) (index : Nat) {d : Diagnostic}
    (hd : d ∈ diagnostics) :
    Accepted diagnostics ((s.consider index d).accepted.map Prod.snd) := by
  unfold Selection.consider
  split
  · exact h
  · rename_i patch hpatch
    split
    · exact h
    · rename_i hany
      rw [List.any_eq_true] at hany
      simp only [List.map_append, List.map_cons, List.map_nil]
      refine ⟨?_, List.pairwise_append.2 ⟨h.apart, by simp, ?_⟩⟩
      · intro p hp
        rcases List.mem_append.1 hp with hp | hp
        · exact h.safe p hp
        · exact ⟨d, hd, by rw [hpatch, List.mem_singleton.1 hp]⟩
      · intro p hp q hq
        obtain ⟨a, ha, rfl⟩ := List.mem_map.1 hp
        rw [List.mem_singleton.1 hq]
        exact Bool.eq_false_iff.2 fun hint => hany ⟨a, ha, hint⟩

theorem accepted_select {diagnostics rest : List Diagnostic} (hrest : rest ⊆ diagnostics)
    (index : Nat) {s : Selection} (h : Accepted diagnostics (s.accepted.map Prod.snd)) :
    Accepted diagnostics ((select index rest s).accepted.map Prod.snd) := by
  induction rest generalizing index s with
  | nil => exact h
  | cons d rest ih =>
    obtain ⟨hd, hrest⟩ := List.cons_subset.1 hrest
    exact ih hrest (index + 1) (h.consider index hd)

def chosen (diagnostics : List Diagnostic) : List Patch :=
  (select 0 diagnostics .empty).accepted.map Prod.snd

theorem accepted_chosen (diagnostics : List Diagnostic) :
    Accepted diagnostics (chosen diagnostics) :=
  accepted_select (List.Subset.refl _) 0 ⟨by simp [Selection.empty], by simp [Selection.empty]⟩

/-- Patches with covers apart combine exactly if no two of them meet. -/
theorem combine_isOk_iff {ps : List Patch} (hps : ∀ p ∈ ps, p.Consistent)
    (hapart : ps.Pairwise fun p q => p.intersects q = false) :
    (∃ combined, combine ps = .ok combined) ↔ ps.Pairwise fun p q => p.meet q = false := by
  have hedits : ((ps.flatMap Patch.edits).Pairwise fun a b => a.conflictsWith b = false) ↔
      ps.Pairwise fun p q => p.meet q = false := by
    rw [List.pairwise_flatMap]
    constructor
    · rintro ⟨-, hcross⟩
      refine (hcross.and hapart).imp_of_mem ?_
      rintro p q hp hq ⟨hpq, hint⟩
      exact ((hps p hp).conflict_iff (hps q hq) hint).1 hpq
    · intro hmeet
      refine ⟨fun p hp => (hps p hp).pairwise_conflictsWith, (hmeet.and hapart).imp_of_mem ?_⟩
      rintro p q hp hq ⟨hpq, hint⟩
      exact ((hps p hp).conflict_iff (hps q hq) hint).2 hpq
  rw [← hedits]
  cases ps with
  | nil => simp [combine]
  | cons p ps =>
    rw [← foldlM_merge_isOk_iff (hps p (by simp)) fun q hq => hps q (List.mem_cons_of_mem _ hq)]
    constructor
    · rintro ⟨combined, h⟩
      obtain ⟨r, hr, -⟩ := map_eq_ok.1 h
      exact ⟨r, hr⟩
    · rintro ⟨r, hr⟩
      exact ⟨some r, map_eq_ok.2 ⟨r, hr, rfl⟩⟩

theorem apply_of_combine {text : Text} {ps : List Patch} (hps : ∀ p ∈ ps, p.Consistent)
    (hplaced : ∀ p ∈ ps, ∀ e ∈ p.edits, e.span.Placed text) {r : Patch}
    (h : combine ps = .ok (some r)) : r.apply text = .ok (spliced text 0 r.edits) := by
  cases ps with
  | nil => cases h
  | cons p ps =>
    obtain ⟨r', hr, heq⟩ := map_eq_ok.1 h
    cases heq
    obtain ⟨hconsistent, hperm⟩ := foldlM_merge (hps p (by simp))
      (fun q hq => hps q (List.mem_cons_of_mem _ hq)) hr
    refine hconsistent.apply_eq_ok fun e he => ?_
    obtain ⟨q, hq, he⟩ := List.mem_flatMap.1 (hperm.mem_iff.1 he)
    exact hplaced q hq e he

/-- A pass succeeds exactly if no accepted patch inserts where another one begins. It never fails
when it comes to apply what it has combined. -/
theorem run_isOk_iff {text : Text} {diagnostics : List Diagnostic}
    (hbuilt : ∀ d ∈ diagnostics, ∀ p, d.safePatch? = some p →
      p.Built ∧ ∃ fixed, p.apply text = .ok fixed) :
    ((∃ outcome, run text diagnostics = .ok outcome) ↔
      (chosen diagnostics).Pairwise fun p q => p.meet q = false) ∧
    ∀ cause, run text diagnostics ≠ .error (.apply cause) := by
  obtain ⟨hsafe, hapart⟩ := accepted_chosen diagnostics
  have hconsistent : ∀ p ∈ chosen diagnostics, p.Consistent := by
    intro p hp
    obtain ⟨d, hd, hpatch⟩ := hsafe p hp
    exact (hbuilt d hd p hpatch).1.consistent
  have hplaced : ∀ p ∈ chosen diagnostics, ∀ e ∈ p.edits, e.span.Placed text := by
    intro p hp
    obtain ⟨d, hd, hpatch⟩ := hsafe p hp
    obtain ⟨-, fixed, happly⟩ := hbuilt d hd p hpatch
    exact (hconsistent p hp).placed_of_apply happly
  have hcombine := combine_isOk_iff hconsistent hapart
  rw [← hcombine]
  unfold run
  dsimp only
  rw [show (select 0 diagnostics .empty).accepted.map Prod.snd = chosen diagnostics from rfl]
  cases hresult : combine (chosen diagnostics) with
  | error e => simp
  | ok combined =>
    cases combined with
    | none => simp
    | some patch =>
      simp [apply_of_combine hconsistent hplaced hresult]

def fixing (patch : Patch) : Diagnostic := ⟨"test", ⟨0, 0⟩, 1, 1, "", some (.safe patch "")⟩

theorem run_isOk_touching :
    let ds := [fixing (.single ⟨⟨0, 3⟩, "x"⟩), fixing (.single ⟨⟨3, 4⟩, "z"⟩)]
    (∀ d ∈ ds, ∀ p, d.safePatch? = some p → p.Built ∧ ∃ fixed, p.apply "abcdef".toList = .ok fixed) ∧
    ∃ outcome, run "abcdef".toList ds = .ok outcome := by
  intro ds
  have hbuilt : ∀ d ∈ ds, ∀ p, d.safePatch? = some p →
      p.Built ∧ ∃ fixed, p.apply "abcdef".toList = .ok fixed := by
    intro d hd p hp
    simp only [ds, List.mem_cons, List.not_mem_nil, or_false] at hd
    rcases hd with rfl | rfl
    · cases hp
      exact ⟨.single (by decide), "xdef".toList, by decide⟩
    · cases hp
      exact ⟨.single (by decide), "abczef".toList, by decide⟩
  exact ⟨hbuilt, (run_isOk_iff hbuilt).1.2 (by decide)⟩

/-- The first patch ends with an insertion where the second one begins. Their covers do not collide,
so both are accepted, but they cannot be merged. -/
theorem run_insertion_error :
    let first : Patch := ⟨[⟨⟨0, 1⟩, "x"⟩, ⟨⟨3, 3⟩, "y"⟩]⟩
    let second : Patch := .single ⟨⟨3, 4⟩, "z"⟩
    first.Built ∧ second.Built ∧ first.apply "abcdef".toList = .ok "xbcydef".toList ∧
      second.apply "abcdef".toList = .ok "abczef".toList ∧ first.intersects second = false ∧
      run "abcdef".toList [fixing first, fixing second] = .error (.combine (.overlap ⟨3, 3⟩ ⟨3, 4⟩)) := by
  intro first second
  have hfirst : ofEdits first.edits = .ok first := by cbv
  exact ⟨.ofEdits (by decide) hfirst, .single (by decide), by decide, by decide,
    by decide, by cbv⟩

end FixPass

end ScriptLint
