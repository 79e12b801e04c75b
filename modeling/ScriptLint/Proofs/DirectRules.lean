import ScriptLint.Proofs.GreedyFixes
import ScriptLint.Proofs.SourceOrder

/-! Fixes and what has been asked before. All rules but one ask the files themselves, if they ask, and
that one only makes suggestions. What is remembered changes what is reported, then, but not which fixes
are offered as safe, and a pass of fixes writes the same. -/
namespace ScriptLint

namespace TypeExports

variable {options : Option Json} {files : FileSystem} {file : SourceFile} {asked : FileCache}
  {d : Diagnostic}

theorem exists_of_checkSpecifier {t : Tree} {d : TypeDefinition} {package : String} {isAlone : Bool}
    {id : NodeId} {x : Finding} (hx : checkSpecifier t d package isAlone id = some x) :
    ∃ place, x.span = t.span place ∧ ∀ fix, x.fix = some fix → ∃ replacement description,
      fix = .suggestion (.single ⟨t.span place, replacement⟩) description := by
  unfold checkSpecifier at hx
  split at hx
  · split at hx
    · cases hx
    · cases hx
      refine ⟨id, rfl, fun fix hfix => ?_⟩
      split at hfix
      · obtain ⟨name, -, rfl⟩ := Option.map_eq_some_iff.1 hfix
        exact ⟨_, _, rfl⟩
      · cases hfix
  · simp only [Option.bind_eq_bind, Option.bind_eq_some_iff] at hx
    obtain ⟨name, -, hx⟩ := hx
    split at hx
    · cases hx
    · cases hx
      exact ⟨_, rfl, by simp⟩
  · cases hx

/-- What is reported is a node, and a fix is a suggestion to replace this node. -/
theorem exists_of_mem_run (hd : d ∈ rule.run options files file asked) :
    ∃ place, d.span = file.tree.span place ∧ ∀ fix, d.fix = some fix → ∃ replacement description,
      fix = .suggestion (.single ⟨file.tree.span place, replacement⟩) description := by
  obtain ⟨run, hrun, x, hx, rfl⟩ := Rule.exists_of_mem_run hd
  obtain ⟨o, rfl⟩ := Rule.exists_of_withOptions hrun
  obtain ⟨definition, package, isAlone, specifier, hx⟩ := exists_of_mem_check hx
  exact exists_of_checkSpecifier hx

theorem isFixable_of_mem_run (hd : d ∈ rule.run options files file asked) : d.isFixable = false := by
  obtain ⟨place, -, hfix⟩ := exists_of_mem_run hd
  cases h : d.fix with
  | none => simp [Diagnostic.isFixable, Diagnostic.safePatch?, h]
  | some fix =>
    obtain ⟨replacement, description, rfl⟩ := hfix fix h
    simp [Diagnostic.isFixable, Diagnostic.safePatch?, h, Fix.suggestion]

theorem isOrdered_of_mem_run (h : ∀ id, (file.tree.span id).isOrdered = true)
    (hd : d ∈ rule.run options files file asked) : d.isOrdered = true := by
  obtain ⟨place, hspan, hfix⟩ := exists_of_mem_run hd
  rw [Diagnostic.isOrdered, Bool.and_eq_true]
  refine ⟨by rw [hspan, h], ?_⟩
  cases hd : d.fix with
  | none => rfl
  | some fix =>
    obtain ⟨replacement, description, rfl⟩ := hfix fix hd
    simp [Fix.suggestion, Patch.single, h]

end TypeExports

namespace Rule

/-- A rule that finds the same whatever has been asked before, and leaves nothing to remember. -/
def IsDirect (r : Rule) : Prop :=
  ∀ options files file, ∃ found, ∀ asked, (r.findings options files file).run asked = (found, asked)

theorem isDirect_of {O : Type} {info : RuleInfo} {schema : Json} {default : O}
    {decode : Json → Option O} {check : O → FileSystem → SourceFile → List Finding} :
    (Rule.of info schema default decode check).IsDirect := by
  intro options files file
  cases hoptions : (Rule.of info schema default decode check).withOptions options with
  | none =>
    refine ⟨[], fun asked => ?_⟩
    rw [findings, hoptions]
    rfl
  | some run =>
    obtain ⟨o, rfl⟩ := exists_of_withOptions hoptions
    refine ⟨(check o files file).map (file.diagnose info.id), fun asked => ?_⟩
    rw [findings, hoptions]
    rfl

theorem IsDirect.exists_attempt {r : Rule} (h : r.IsDirect) (options : Option Json)
    (files : FileSystem) (file : SourceFile) :
    ∃ found, ∀ asked, (r.attempt options files file).run asked = (found, asked) := by
  obtain ⟨found, hfound⟩ := h options files file
  refine ⟨if found.all Diagnostic.isOrdered then some found else none, fun asked => ?_⟩
  rw [attempt, StateT.run_bind, hfound]
  rfl

theorem isDirect_or {r : Rule} (hr : r ∈ all) : r.IsDirect ∨ r = TypeExports.rule := by
  simp only [all, List.mem_cons, List.not_mem_nil, or_false] at hr
  rcases hr with rfl | rfl | rfl | rfl | rfl | rfl | rfl | rfl | rfl | rfl | rfl | rfl | rfl
  all_goals first
    | exact .inl isDirect_of
    | exact .inr rfl

end Rule

variable {rules : List ActiveRule} {files : FileSystem} {file : SourceFile}

theorem ActiveRule.filter_diagnostics {a : ActiveRule} (ha : a.rule ∈ Rule.all)
    (asked asked' : FileCache) :
    ((a.diagnostics files file).run asked).1.filter Diagnostic.isFixable =
      ((a.diagnostics files file).run asked').1.filter Diagnostic.isFixable := by
  rcases Rule.isDirect_or ha with hdirect | hrule
  · obtain ⟨found, hfound⟩ := hdirect.exists_attempt a.options files file
    rw [fst_run_diagnostics, fst_run_diagnostics, hfound, hfound]
  · have hnone (asked : FileCache) :
        ((a.diagnostics files file).run asked).1.filter Diagnostic.isFixable = [] := by
      refine List.filter_eq_nil_iff.2 fun d hd => ?_
      have hd := mem_run_of_mem_diagnostics hd
      rw [hrule] at hd
      simp [TypeExports.isFixable_of_mem_run hd]
    rw [hnone, hnone]

theorem filter_reports (hrules : ∀ a ∈ rules, a.rule ∈ Rule.all) (asked asked' : FileCache) :
    ((reports rules files file).run asked).1.flatten.filter Diagnostic.isFixable =
      ((reports rules files file).run asked').1.flatten.filter Diagnostic.isFixable := by
  induction rules generalizing asked asked' with
  | nil => rfl
  | cons a rules ih =>
    obtain ⟨ha, hrules⟩ := List.forall_mem_cons.1 hrules
    rw [run_reports_cons, run_reports_cons, List.flatten_cons, List.flatten_cons,
      List.filter_append, List.filter_append, ActiveRule.filter_diagnostics ha asked asked']
    exact congrArg _ (ih hrules _ _)

theorem filter_evaluate (hrules : ∀ a ∈ rules, a.rule ∈ Rule.all) (asked asked' : FileCache) :
    (evaluate rules files file asked).filter Diagnostic.isFixable =
      (evaluate rules files file asked').filter Diagnostic.isFixable := by
  rw [evaluate, evaluate, filter_mergeSort_comm Diagnostic.trans_le Diagnostic.total_le,
    filter_mergeSort_comm Diagnostic.trans_le Diagnostic.total_le, filter_reports hrules]

end ScriptLint
