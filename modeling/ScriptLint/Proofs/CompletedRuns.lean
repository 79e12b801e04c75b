import ScriptLint.Proofs.DirectRules
import ScriptLint.Proofs.OfferedFixes

/-! Rules that get to their end. Of the ranges that a rule builds in a loaded source, only those that it
reports or edits can end before they start, so whether it gets to its end is seen from what it would
report. It always does in a source as parsers describe it, and where it does not, the other rules
report what they would report without it. -/
namespace ScriptLint

variable {path : String} {text document : Text} {s : Source}

theorem SourceFile.le_of_builds_of_load (hload : Source.load path text document = .ok s) {span : Span}
    (hspan : (SourceFile.ofSource s).Builds span) : span.start ≤ span.stop := by
  obtain ⟨doc, -, hdoc⟩ := Source.exists_ofDocument_of_load hload
  exact (Source.marked_of_ofDocument hdoc).le_of_builds (Source.wellLinked_of_ofDocument hdoc) hspan

namespace Rule

variable {r : Rule} {options : Option Json} {files : FileSystem} {file : SourceFile}
  {asked : FileCache}

theorem attempt_eq_some_iff {ds : List Diagnostic} :
    ((r.attempt options files file).run asked).1 = some ds ↔
      r.run options files file asked = ds ∧ ∀ d ∈ ds, d.isOrdered = true := by
  rw [fst_run_attempt]
  split
  · rename_i hall
    rw [Option.some.injEq]
    exact ⟨by rintro rfl; exact ⟨rfl, List.all_eq_true.1 hall⟩, And.left⟩
  · rename_i hall
    refine ⟨by simp, ?_⟩
    rintro ⟨rfl, hds⟩
    exact absurd (List.all_eq_true.2 hds) hall

theorem attempt_of_parsed (hload : Source.load path text document = .ok s) (hparsed : s.Parsed)
    (hr : r ∈ all) (options : Option Json) (files : FileSystem) (asked : FileCache) :
    ((r.attempt options files (.ofSource s)).run asked).1 =
      some (r.run options files (.ofSource s) asked) := by
  obtain ⟨-, h⟩ := Source.anchored_of_load hload hparsed
  refine attempt_eq_some_iff.2 ⟨rfl, fun d hd => ?_⟩
  obtain ⟨hspan, hfix⟩ := fits_of_mem_run h hr hd
  rw [Diagnostic.isOrdered, Bool.and_eq_true, Span.isOrdered, decide_eq_true_eq]
  refine ⟨hspan.le, ?_⟩
  cases hd : d.fix with
  | none => rfl
  | some fix =>
    rw [Option.all_some, List.all_eq_true]
    exact fun e he => decide_eq_true ((hfix fix hd).placed e he).le

end Rule

theorem run_diagnostics_of_attempt (hload : Source.load path text document = .ok s)
    {a : ActiveRule} (ha : a.rule ∈ Rule.all) {files : FileSystem} {asked : FileCache}
    (hnone : ((a.rule.attempt a.options files (.ofSource s)).run asked).1 = none)
    (asked' : FileCache) : (a.diagnostics files (.ofSource s)).run asked' = ([], asked') := by
  rcases Rule.isDirect_or ha with hdirect | hrule
  · obtain ⟨found, hfound⟩ := hdirect.exists_attempt a.options files (.ofSource s)
    rw [hfound] at hnone
    rw [ActiveRule.diagnostics, StateT.run_bind, hfound]
    dsimp only at hnone
    rw [hnone]
    rfl
  · obtain ⟨doc, -, hdoc⟩ := Source.exists_ofDocument_of_load hload
    have hordered (id : NodeId) : (s.tree.span id).isOrdered = true :=
      decide_eq_true ((Source.marked_of_ofDocument hdoc).nested.placed id).le
    rw [hrule, Rule.fst_run_attempt, List.all_eq_true.2 fun d hd =>
      TypeExports.isOrdered_of_mem_run hordered hd] at hnone
    cases hnone

/-- Rules that do not get to their end might as well not be there. -/
theorem evaluate_filter (hload : Source.load path text document = .ok s) {rules : List ActiveRule}
    (hrules : ∀ a ∈ rules, a.rule ∈ Rule.all) (files : FileSystem) (asked asked' : FileCache) :
    evaluate (rules.filter fun a =>
      ((a.rule.attempt a.options files (.ofSource s)).run asked').1.isSome) files (.ofSource s) asked =
      evaluate rules files (.ofSource s) asked := by
  unfold evaluate
  congr 1
  induction rules generalizing asked with
  | nil => rfl
  | cons a rules ih =>
    obtain ⟨ha, hrules⟩ := List.forall_mem_cons.1 hrules
    rw [List.filter_cons, run_reports_cons]
    split
    · rw [run_reports_cons, List.flatten_cons, List.flatten_cons, ih hrules]
    · rename_i hnone
      rw [Bool.not_eq_true, Option.isSome_eq_false_iff, Option.isNone_iff_eq_none] at hnone
      rw [run_diagnostics_of_attempt hload ha hnone, List.flatten_cons, List.nil_append, ih hrules]

def crossedSource : Source where
  path := "a.js"
  text := "\x7b/*c*/\x7d b;".toList
  tree :=
    { nodes := #[
        ⟨.blockStatement [], ⟨0, 7⟩⟩,
        ⟨.identifier "b" none false, ⟨8, 9⟩⟩,
        ⟨.expressionStatement 1 none, ⟨8, 10⟩⟩,
        ⟨.program [2, 0] .script, ⟨0, 10⟩⟩]
      children := #[[], [], [1], [0, 2]]
      parents := #[some 3, some 2, some 3, none]
      root := 3 }
  tokens := ⟨#[⟨.blockComment, ⟨1, 6⟩, "/*c*/".toList⟩], #[]⟩

example :
    ((PaddingAroundMultiline.rule.attempt none MemoryFiles.empty.access
      (.ofSource crossedSource)).run .empty).1 = none ∧
    evaluate [⟨PaddingAroundMultiline.rule, none⟩] MemoryFiles.empty.access
      (.ofSource crossedSource) = [] := by
  decide +kernel

/-- In a source as parsers describe it, everything that the rules find is reported. -/
theorem reports_of_parsed (hload : Source.load path text document = .ok s) (hparsed : s.Parsed)
    {rules : List ActiveRule} (hrules : ∀ a ∈ rules, a.rule ∈ Rule.all) (files : FileSystem)
    (asked : FileCache) : (reports rules files (.ofSource s)).run asked =
      (rules.mapM fun a : ActiveRule => a.rule.findings a.options files (.ofSource s)).run asked := by
  induction rules generalizing asked with
  | nil => rfl
  | cons a rules ih =>
    obtain ⟨ha, hrules⟩ := List.forall_mem_cons.1 hrules
    have hfirst : (a.diagnostics files (.ofSource s)).run asked =
        (a.rule.findings a.options files (.ofSource s)).run asked := by
      refine Prod.ext ?_ rfl
      rw [ActiveRule.fst_run_diagnostics, Rule.attempt_of_parsed hload hparsed ha]
      rfl
    rw [run_reports_cons, List.mapM_cons, StateT.run_bind, hfirst]
    dsimp only
    rw [ih hrules]
    rfl

end ScriptLint
