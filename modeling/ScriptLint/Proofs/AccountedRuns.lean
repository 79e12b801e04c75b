import ScriptLint.Proofs.GreedyFixes
import ScriptLint.Proofs.RepeatedFiles

/-! Runs of fixes with documents beside the files. Whatever becomes of the single files, the run goes
through all of them, and every diagnostic that the rules produce is either mended or reported. -/
namespace ScriptLint

/-! One pass: accepted and remaining diagnostics. -/

namespace FixPass

variable {text : Text} {diagnostics : List Diagnostic} {outcome : FixOutcome}

theorem nodup_accepted (h : run text diagnostics = .ok outcome) : outcome.accepted.Nodup := by
  rw [(run_eq_ok_iff.1 h).1]
  exact List.pairwise_map.2 ((greedy_select diagnostics).increasing.imp Nat.ne_of_lt)

theorem lt_length_of_mem_accepted (h : run text diagnostics = .ok outcome) {i : Nat}
    (hi : i ∈ outcome.accepted) : i < diagnostics.length := by
  rw [(run_eq_ok_iff.1 h).1] at hi
  obtain ⟨a, ha, rfl⟩ := List.mem_map.1 hi
  exact (greedy_select diagnostics).lt_length ha

end FixPass

namespace Session

theorem length_without {accepted : List Nat} {ds : List Diagnostic} (hnodup : accepted.Nodup)
    (hlt : ∀ i ∈ accepted, i < ds.length) :
    (without accepted ds).length + accepted.length = ds.length := by
  have hkept : (without accepted ds).length =
      (List.range ds.length).countP fun i => !accepted.contains i := by
    rw [without, List.length_map, ← List.countP_eq_length_filter, List.range_eq_range',
      ← List.zipIdx_map_snd, List.countP_map]
    rfl
  have htaken : accepted.Perm ((List.range ds.length).filter fun i => accepted.contains i) := by
    refine (List.perm_ext_iff_of_nodup hnodup (List.nodup_range.filter _)).2 fun i => ?_
    simp only [List.mem_filter, List.mem_range, List.contains_iff_mem]
    exact ⟨fun hi => ⟨hlt i hi, hi⟩, And.right⟩
  have hsplit := List.length_eq_countP_add_countP (fun i => accepted.contains i)
    (l := List.range ds.length)
  rw [List.length_range] at hsplit
  rw [hkept, htaken.length_eq, ← List.countP_eq_length_filter]
  simp only [Bool.not_eq_true, Bool.decide_eq_false] at hsplit
  omega

theorem without_nil (ds : List Diagnostic) : without [] ds = ds := by
  have hall : ds.zipIdx.filter (fun d => !List.contains [] d.2) = ds.zipIdx := by simp
  rw [without, hall, List.zipIdx_map_fst]

/-! Visits to files. -/

/-- What a run does with one file: the files before and after, what the rules find in the file, and at
which places of that list the fixes are accepted. -/
structure Visit where
  path : Path
  before : Workspace
  after : Workspace
  found : List Diagnostic
  accepted : List Nat

def Visit.lines (v : Visit) : List String :=
  (without v.accepted v.found).map fun d => d.render v.path.toString

def found (s : Session) (w : Workspace) (path : Path) : List Diagnostic :=
  ((w.disk.readText path).toOption.map fun text => s.diagnosticsOf w path text.toList).getD []

/-- The files when the rules have run over one of them as it is on the disk. -/
def afterFound (s : Session) (w : Workspace) (path : Path) : Workspace :=
  ((w.disk.readText path).toOption.map fun text => s.afterRulesOf w path text.toList).getD w

/-- What a pass makes of a file as it is on a disk; `none` if the file cannot be read or loaded, or if
its fixes do not apply. -/
def outcome? (s : Session) (w : Workspace) (path : Path) : Option FixOutcome := do
  let text ← (w.disk.readText path).toOption
  let file ← s.load? w.disk path text.toList
  (FixPass.run text.toList (s.diagnostics w file)).toOption

structure Visit.Faithful (s : Session) (v : Visit) : Prop where
  found_eq : v.found = s.found v.before v.path
  accepted_eq : v.accepted = ((s.outcome? v.before v.path).map FixOutcome.accepted).getD []
  /-- A file without an outcome keeps its contents. -/
  kept : s.outcome? v.before v.path = none → v.after.disk = v.before.disk
  /-- A file is written if a fix was accepted and the text has changed. -/
  written_iff : v.after.disk ≠ v.before.disk ↔ ∃ text outcome,
    v.before.disk.readText v.path = .ok text ∧ s.outcome? v.before v.path = some outcome ∧
    outcome.accepted ≠ [] ∧ outcome.text ≠ text.toList
  holds : ∀ outcome, s.outcome? v.before v.path = some outcome →
    v.after.disk.readText v.path = .ok (String.ofList outcome.text)
  /-- Nothing else on the disk changes. -/
  others : v.after.disk.working = v.before.disk.working ∧
    v.after.disk.directories = v.before.disk.directories ∧
    ∀ l, v.before.disk.locate v.path ≠ .ok l → v.after.disk.fileAt? l = v.before.disk.fileAt? l
  /-- What the rules have asked is remembered, but contents only until the file is written. -/
  asked : (v.after.disk = v.before.disk →
      v.after.asked = (s.afterFound v.before v.path).asked) ∧
    (v.after.disk ≠ v.before.disk →
      v.after.asked = (s.afterFound v.before v.path).asked.forgetContents)

/-- Visits one after the other, each to the files as the one before it has left them. -/
inductive Chain : Workspace → List Visit → Workspace → Prop
  | nil (w : Workspace) : Chain w [] w
  | cons {v : Visit} {vs : List Visit} {w : Workspace} (h : Chain v.after vs w) :
      Chain v.before (v :: vs) w

theorem Chain.uncons {v : Visit} {vs : List Visit} {w last : Workspace}
    (h : Chain w (v :: vs) last) : v.before = w ∧ Chain v.after vs last := by
  cases h with
  | cons h => exact ⟨rfl, h⟩

variable {s : Session} {w : Workspace} {path : Path}

theorem outcome?_of_load? {text : String} {file : SourceFile}
    (htext : w.disk.readText path = .ok text) (hfile : s.load? w.disk path text.toList = some file) :
    s.outcome? w path = (FixPass.run text.toList (s.diagnostics w file)).toOption := by
  simp [outcome?, htext, hfile, Except.toOption]

theorem outcome?_eq_some {outcome : FixOutcome} (h : s.outcome? w path = some outcome) :
    ∃ text, w.disk.readText path = .ok text ∧
      FixPass.run text.toList (s.found w path) = .ok outcome := by
  simp only [outcome?, Option.bind_eq_bind, Option.bind_eq_some_iff, toOption_eq_some] at h
  obtain ⟨text, htext, file, hfile, hrun⟩ := h
  refine ⟨text, htext, ?_⟩
  rw [found, htext]
  simpa [Except.toOption, diagnosticsOf, hfile] using hrun

theorem Visit.Faithful.length_without {v : Visit} (h : v.Faithful s) :
    (without v.accepted v.found).length + v.accepted.length = v.found.length := by
  cases houtcome : s.outcome? v.before v.path with
  | none =>
    rw [h.accepted_eq, houtcome, Option.map_none, Option.getD_none, without_nil]
    rfl
  | some outcome =>
    obtain ⟨text, -, hrun⟩ := outcome?_eq_some houtcome
    rw [← h.found_eq] at hrun
    rw [h.accepted_eq, houtcome, Option.map_some, Option.getD_some]
    exact Session.length_without (FixPass.nodup_accepted hrun)
      fun i hi => FixPass.lt_length_of_mem_accepted hrun hi

theorem disk_afterFound : (s.afterFound w path).disk = w.disk := by
  unfold afterFound
  cases (w.disk.readText path).toOption with
  | none => rfl
  | some text => exact disk_afterRulesOf _

/-- The files after a visit. -/
def visited (s : Session) (w : Workspace) (path : Path) : Workspace :=
  match w.disk.readText path, s.outcome? w path with
  | .ok text, some outcome =>
    if outcome.text = text.toList then s.afterFound w path
    else (s.afterFound w path).write path outcome.text
  | _, _ => s.afterFound w path

theorem visited_of_none (h : s.outcome? w path = none) :
    s.visited w path = s.afterFound w path := by
  unfold visited
  rw [h]
  split
  · rename_i heq
    cases heq
  · rfl

theorem visited_of_some {text : String} {outcome : FixOutcome}
    (htext : w.disk.readText path = .ok text) (h : s.outcome? w path = some outcome) :
    s.visited w path = if outcome.text = text.toList then s.afterFound w path
      else (s.afterFound w path).write path outcome.text := by
  rw [visited, htext, h]

def visitOf (s : Session) (w : Workspace) (path : Path) : Visit where
  path := path
  before := w
  after := s.visited w path
  found := s.found w path
  accepted := ((s.outcome? w path).map FixOutcome.accepted).getD []

theorem write_ne {disk : Disk} {text : String} (h : disk.readText path = .ok text) {t : Text}
    (ht : t ≠ text.toList) : disk.write path t ≠ disk := by
  intro hsame
  have hread := Disk.readText_write h t
  rw [hsame, h, Except.ok.injEq] at hread
  exact ht (by rw [hread, String.toList_ofList])

/-- A visit that leaves the disk as it is. -/
theorem faithful_of_disk_eq (hafter : s.visited w path = s.afterFound w path)
    (hsame : ∀ text outcome, w.disk.readText path = .ok text → s.outcome? w path = some outcome →
      outcome.text = text.toList) : (s.visitOf w path).Faithful s := by
  have hdisk : (s.visitOf w path).after.disk = w.disk := by
    rw [visitOf, hafter, disk_afterFound]
  refine ⟨rfl, rfl, fun _ => hdisk, ?_, ?_, ?_, ?_, fun hne => absurd hdisk hne⟩
  · refine iff_of_false (fun hne => hne hdisk) ?_
    rintro ⟨text, outcome, htext, houtcome, -, hne⟩
    exact hne (hsame text outcome htext houtcome)
  · intro outcome houtcome
    obtain ⟨text, htext, -⟩ := outcome?_eq_some houtcome
    rw [hdisk, hsame text outcome htext houtcome, String.ofList_toList]
    exact htext
  · rw [hdisk]
    exact ⟨rfl, rfl, fun _ _ => rfl⟩
  · intro _
    rw [visitOf, hafter]

/-- A visit that writes the file. -/
theorem faithful_of_write {text : String} {outcome : FixOutcome}
    (htext : w.disk.readText path = .ok text) (houtcome : s.outcome? w path = some outcome)
    (hne : outcome.text ≠ text.toList) : (s.visitOf w path).Faithful s := by
  have hafter : (s.visitOf w path).after = (s.afterFound w path).write path outcome.text := by
    rw [visitOf, visited_of_some htext houtcome, if_neg hne]
  have hdisk : (s.visitOf w path).after.disk = w.disk.write path outcome.text := by
    rw [hafter, Workspace.write, disk_afterFound]
  have hchanged : (s.visitOf w path).after.disk ≠ w.disk := by
    rw [hdisk]
    exact write_ne htext hne
  obtain ⟨text', htext', hrun⟩ := outcome?_eq_some houtcome
  cases htext.symm.trans htext'
  refine ⟨rfl, rfl, ?_, ?_, ?_, ?_, fun hsame => absurd hsame hchanged, ?_⟩
  · intro hnone
    cases houtcome.symm.trans hnone
  · refine iff_of_true hchanged ⟨text, outcome, htext, houtcome, fun hnone => hne ?_, hne⟩
    exact text_of_accepted_eq_nil hrun (by rw [hnone]; rfl)
  · intro outcome' houtcome'
    cases houtcome.symm.trans houtcome'
    rw [hdisk]
    exact Disk.readText_write htext outcome.text
  · rw [hdisk]
    exact ⟨Disk.working_write _ _ _, Disk.directories_write _ _ _,
      fun l hl => Disk.fileAt?_write_of_ne hl _⟩
  · intro _
    rw [hafter]
    rfl

theorem faithful_visitOf (s : Session) (w : Workspace) (path : Path) :
    (s.visitOf w path).Faithful s := by
  cases houtcome : s.outcome? w path with
  | none =>
    refine faithful_of_disk_eq (visited_of_none houtcome) fun _ _ _ hsome => ?_
    cases houtcome.symm.trans hsome
  | some outcome =>
    obtain ⟨text, htext, -⟩ := outcome?_eq_some houtcome
    by_cases hsame : outcome.text = text.toList
    · refine faithful_of_disk_eq ?_ fun text' outcome' htext' houtcome' => ?_
      · rw [visited_of_some htext houtcome, if_pos hsame]
      · cases htext.symm.trans htext'
        cases houtcome.symm.trans houtcome'
        exact hsame
    · exact faithful_of_write htext houtcome hsame

def note (summary : Summary) (v : Visit) : Summary :=
  let summary := summary.record v.path (without v.accepted v.found)
  { summary with appliedFixes := summary.appliedFixes + v.accepted.length }

/-- Without a parser a file is visited once, and whatever ends the visit, what is reported is all that
was found less what was accepted. -/
theorem fixFile_eq (hs : s.parser = []) (w : Workspace) (summary : Summary) (path : Path) :
    s.fixFile w summary path = (s.visited w path, note summary (s.visitOf w path)) := by
  unfold fixFile visitOf visited found afterFound outcome?
  cases htext : w.disk.readText path with
  | error e =>
    simp [Except.toOption, note, Summary.record, without_nil]
  | ok text =>
    dsimp only
    rw [show maxPasses = 7 + 1 from rfl, fixPasses]
    dsimp only
    cases hload : s.load? w.disk path text.toList with
    | none => simp [Except.toOption, note, hload, diagnosticsOf, afterRulesOf, without_nil]
    | some file =>
      dsimp only
      cases hrun : FixPass.run text.toList (s.diagnostics w file) with
      | error e =>
        simp [Except.toOption, note, hload, hrun, diagnosticsOf, afterRulesOf, without_nil]
      | ok outcome =>
        cases hnone : outcome.accepted.isEmpty with
        | true =>
          have hsame := text_of_accepted_eq_nil hrun hnone
          rw [List.isEmpty_iff] at hnone
          simp [Except.toOption, note, hload, hrun, hnone, hsame, diagnosticsOf, afterRulesOf,
            without_nil]
        | false =>
          simp [Except.toOption, note, hs, hload, hrun, hnone, diagnosticsOf, afterRulesOf]

theorem exists_chain (hs : s.parser = []) (files : List Path) (w : Workspace) (summary : Summary) :
    ∃ visits : List Visit, visits.map Visit.path = files ∧ (∀ v ∈ visits, v.Faithful s) ∧
      Chain w visits (s.fixFiles w summary files).1 ∧
      (s.fixFiles w summary files).2 = visits.foldl note summary := by
  induction files generalizing w summary with
  | nil => exact ⟨[], rfl, by simp, .nil w, rfl⟩
  | cons path files ih =>
    obtain ⟨visits, hpaths, hfaithful, hchain, hsummary⟩ :=
      ih (s.visited w path) (note summary (s.visitOf w path))
    have hfirst : s.fixFiles w summary (path :: files) =
        s.fixFiles (s.visited w path) (note summary (s.visitOf w path)) files := by
      rw [fixFiles, List.foldl_cons]
      dsimp only
      rw [fixFile_eq hs]
      rfl
    rw [hfirst]
    exact ⟨s.visitOf w path :: visits, by rw [List.map_cons, hpaths]; rfl,
      List.forall_mem_cons.2 ⟨faithful_visitOf s w path, hfaithful⟩,
      Chain.cons (v := s.visitOf w path) hchain, hsummary⟩

theorem foldl_note {visits : List Visit} (h : ∀ v ∈ visits, v.Faithful s) (summary : Summary) :
    let noted := visits.foldl note summary
    noted.files = summary.files ∧
      noted.appliedFixes = summary.appliedFixes + (visits.map fun v => v.accepted.length).sum ∧
      noted.violations + noted.appliedFixes = summary.violations + summary.appliedFixes +
        (visits.map fun v => v.found.length).sum ∧
      noted.lines = summary.lines ++ visits.flatMap Visit.lines := by
  induction visits generalizing summary with
  | nil => simp
  | cons v visits ih =>
    obtain ⟨hv, hvisits⟩ := List.forall_mem_cons.1 h
    obtain ⟨hfiles, happlied, hcount, hlines⟩ := ih hvisits (note summary v)
    have hlength := hv.length_without
    dsimp only
    rw [List.foldl_cons, hfiles, happlied, hlines, List.map_cons, List.sum_cons, List.map_cons,
      List.sum_cons, List.flatMap_cons]
    rw [happlied] at hcount
    simp only [note, Summary.record, Visit.lines, List.append_assoc] at hcount ⊢
    refine ⟨trivial, ?_, ?_, trivial⟩ <;> omega

/-- Without a parser a run of fixes accounts for everything. It visits all files, each as the visits
before have left them; every diagnostic is counted as mended or as a violation; the lines are those of
the diagnostics that are not mended, file by file and in the order of evaluation. -/
theorem fix_accounts (hs : s.parser = []) (disk : Disk) (requested : List Path) :
    ∃ (visits : List Visit) (last : Workspace),
      visits.map Visit.path = filesOf disk requested ∧ Chain ⟨disk, .empty⟩ visits last ∧
      (s.fix disk requested).1 = last.disk ∧ (∀ v ∈ visits, v.Faithful s) ∧
      (s.fix disk requested).2.files = visits.length ∧
      (s.fix disk requested).2.appliedFixes = (visits.map fun v => v.accepted.length).sum ∧
      (s.fix disk requested).2.violations + (s.fix disk requested).2.appliedFixes =
        (visits.map fun v => v.found.length).sum ∧
      (s.fix disk requested).2.lines = visits.flatMap Visit.lines := by
  obtain ⟨visits, hpaths, hfaithful, hchain, hsummary⟩ := exists_chain hs (filesOf disk requested)
    ⟨disk, .empty⟩ ⟨(filesOf disk requested).length, 0, 0, 0, []⟩
  obtain ⟨hfiles, happlied, hcount, hlines⟩ :=
    foldl_note hfaithful ⟨(filesOf disk requested).length, 0, 0, 0, []⟩
  rw [← hsummary] at hfiles happlied hcount hlines
  have hlength : (filesOf disk requested).length = visits.length := by
    rw [← hpaths, List.length_map]
  exact ⟨visits, _, hpaths, hchain, rfl, hfaithful, hfiles.trans hlength,
    happlied.trans (Nat.zero_add _), hcount.trans (Nat.zero_add _),
    hlines.trans (List.nil_append _)⟩

/-! A block and a statement on neighbouring lines, and a file that does not exist. -/

theorem found_stackedDisk :
    paddingSession.found ⟨stackedDisk 0, .empty⟩ (.ofString "a.js") = [stackedDiagnostic] := by
  simp [found, readText_stackedDisk, diagnosticsOf, load?_stackedDisk_zero,
    diagnostics_stackedDisk_zero, Except.toOption]

theorem outcome?_stackedDisk :
    paddingSession.outcome? ⟨stackedDisk 0, .empty⟩ (.ofString "a.js") =
      some ⟨stackedText 1, [0], 0⟩ := by
  have hload := load?_stackedDisk_zero
  rw [← String.toList_ofList (l := stackedText 0)] at hload
  rw [outcome?_of_load? (w := ⟨stackedDisk 0, .empty⟩) (readText_stackedDisk 0) hload,
    String.toList_ofList, diagnostics_stackedDisk_zero, run_stacked_zero]
  rfl

theorem fix_accounts_stacked :
    paddingSession.parser = [] ∧
      (paddingSession.fix (stackedDisk 0) [.ofString "b.js", .ofString "a.js"]).2.files = 2 ∧
      (paddingSession.fix (stackedDisk 0) [.ofString "b.js", .ofString "a.js"]).2.appliedFixes =
        1 ∧
      (paddingSession.fix (stackedDisk 0) [.ofString "b.js", .ofString "a.js"]).2.violations = 0 := by
  obtain ⟨visits, last, hpaths, hchain, -, hfaithful, hfiles, happlied, hcount, -⟩ :=
    fix_accounts (s := paddingSession) rfl (stackedDisk 0) [.ofString "b.js", .ofString "a.js"]
  have hfilesOf : filesOf (stackedDisk 0) [.ofString "b.js", .ofString "a.js"] =
      [.ofString "b.js", .ofString "a.js"] := by
    decide
  have hmissing : paddingSession.outcome? ⟨stackedDisk 0, .empty⟩ (.ofString "b.js") = none := by
    rfl
  have hnothing : paddingSession.found ⟨stackedDisk 0, .empty⟩ (.ofString "b.js") = [] := by
    rfl
  rw [hfilesOf] at hpaths
  obtain ⟨v, rest, rfl, hv, hrest⟩ := List.map_eq_cons_iff.1 hpaths
  obtain ⟨w, rest, rfl, hw, hnil⟩ := List.map_eq_cons_iff.1 hrest
  rw [List.map_eq_nil_iff] at hnil
  subst hnil
  obtain ⟨hbefore, hchain⟩ := hchain.uncons
  have hfirst := hfaithful v (by simp)
  have hsecond := hfaithful w (by simp)
  have hkept : v.after.disk = stackedDisk 0 := by
    rw [hfirst.kept (by rw [hbefore, hv, hmissing]), hbefore]
  have hasked : v.after.asked = .empty := by
    rw [hfirst.asked.1 (by rw [hkept, hbefore]), hbefore, hv]
    rfl
  have hunchanged : w.before = ⟨stackedDisk 0, .empty⟩ := by
    rw [hchain.uncons.1, ← hkept, ← hasked]
  have hvisits : v.accepted = [] ∧ v.found = [] ∧ w.accepted = [0] ∧
      w.found = [stackedDiagnostic] := by
    rw [hfirst.accepted_eq, hfirst.found_eq, hsecond.accepted_eq, hsecond.found_eq, hbefore,
      hunchanged, hv, hw, hmissing, hnothing, outcome?_stackedDisk, found_stackedDisk]
    simp
  simp only [hvisits, List.map_cons, List.map_nil, List.sum_cons, List.sum_nil, List.length_cons,
    List.length_nil] at hfiles happlied hcount
  exact ⟨rfl, hfiles, happlied, by omega⟩

end Session

end ScriptLint
