import ScriptLint.Files.Memory
import ScriptLint.Proofs.PlaceOrder
import ScriptLint.Proofs.ReportedPlaces
import ScriptLint.Proofs.StableSorting
import ScriptLint.Session

/-! The order of diagnostics. They are sorted by line and column; these order places of a text as
offsets do, so diagnostics come in source order, and those that begin at one place in the order in
which rules report them. -/
namespace ScriptLint

namespace Diagnostic

def place (d : Diagnostic) : Nat ×ₗ Nat := toLex (d.line, d.column)

theorem le_iff {a b : Diagnostic} : a.le b = true ↔ a.place ≤ b.place := by
  simp only [le, place, Prod.Lex.toLex_le_toLex, Bool.or_eq_true, Bool.and_eq_true, beq_iff_eq,
    decide_eq_true_eq]

theorem trans_le (a b c : Diagnostic) (hab : a.le b = true) (hbc : b.le c = true) :
    a.le c = true :=
  le_iff.2 ((le_iff.1 hab).trans (le_iff.1 hbc))

theorem total_le (a b : Diagnostic) : (a.le b || b.le a) = true := by
  rw [Bool.or_eq_true, le_iff, le_iff]
  exact le_total _ _

end Diagnostic

namespace ActiveRule

variable {a : ActiveRule} {files : FileSystem} {file : SourceFile} {asked : FileCache}

theorem fst_run_diagnostics : ((a.diagnostics files file).run asked).1 =
    (((a.rule.attempt a.options files file).run asked).1).getD [] := rfl

theorem mem_run_of_mem_diagnostics {d : Diagnostic}
    (h : d ∈ ((a.diagnostics files file).run asked).1) :
    d ∈ a.rule.run a.options files file asked := by
  rw [fst_run_diagnostics, Rule.fst_run_attempt] at h
  split at h
  · exact h
  · simp at h

end ActiveRule

theorem run_reports_cons (a : ActiveRule) (rules : List ActiveRule) (files : FileSystem)
    (file : SourceFile) (asked : FileCache) : (reports (a :: rules) files file).run asked =
      let first := (a.diagnostics files file).run asked
      let rest := (reports rules files file).run first.2
      (first.1 :: rest.1, rest.2) := by
  rw [reports, List.mapM_cons]
  rfl

/-- All that is reported about a file, by the places where it begins; what begins at one place comes
rule by rule, and for one rule in the order of its reports. -/
structure InSourceOrder (reported : List (List Diagnostic)) (ds : List Diagnostic) : Prop where
  perm : ds.Perm reported.flatten
  ordered : ds.Pairwise fun a b => a.span.start ≤ b.span.start
  stable : ∀ start, (ds.filter fun d => d.span.start == start) =
    reported.flatMap fun found => found.filter fun d => d.span.start == start

theorem Config.rule_mem_all {c : Config} : ∀ a ∈ c.activeRules, a.rule ∈ Rule.all := by
  intro a ha
  obtain ⟨r, hr, ha⟩ := List.mem_filterMap.1 ha
  split at ha
  · cases ha
  · cases ha
    exact hr
  · cases ha
    exact hr

namespace Source

variable {path : String} {text document : Text} {s : Source} {rules : List ActiveRule}
  {files : FileSystem} {asked : FileCache}

theorem place_of_mem_reports (hload : load path text document = .ok s)
    (hrules : ∀ a ∈ rules, a.rule ∈ Rule.all) {d : Diagnostic}
    (hd : d ∈ ((reports rules files (.ofSource s)).run asked).1.flatten) :
    text.isBoundary d.span.start = true ∧ d.place = text.placeOf d.span.start := by
  obtain ⟨found, hfound, hd⟩ := List.mem_flatten.1 hd
  obtain ⟨a, ha, asked', rfl⟩ := Cached.exists_of_mem_mapM hfound
  obtain ⟨hmarks, hline, hcolumn⟩ :=
    Rule.place_of_mem_run (codeListed_of_load hload) (hrules a ha)
      (ActiveRule.mem_run_of_mem_diagnostics hd)
  refine ⟨isBoundary_of_marks hload hmarks, ?_⟩
  rw [Diagnostic.place, hline, hcolumn, ← text_of_load hload]
  rfl

theorem inSourceOrder_evaluate (hload : load path text document = .ok s)
    (hrules : ∀ a ∈ rules, a.rule ∈ Rule.all) :
    InSourceOrder ((reports rules files (.ofSource s)).run asked).1
      (evaluate rules files (.ofSource s) asked) := by
  have hplace {d : Diagnostic}
      (hd : d ∈ ((reports rules files (.ofSource s)).run asked).1.flatten) :=
    place_of_mem_reports hload hrules hd
  rw [evaluate]
  generalize ((reports rules files (.ofSource s)).run asked).1 = reported at hplace
  have hperm := List.mergeSort_perm reported.flatten Diagnostic.le
  refine ⟨hperm, ?_, ?_⟩
  · refine (List.pairwise_mergeSort Diagnostic.trans_le Diagnostic.total_le _).imp_of_mem ?_
    intro a b ha hb hab
    obtain ⟨habound, haplace⟩ := hplace (hperm.mem_iff.1 ha)
    obtain ⟨hbbound, hbplace⟩ := hplace (hperm.mem_iff.1 hb)
    rw [Diagnostic.le_iff, haplace, hbplace] at hab
    exact (Text.placeOf_le_placeOf_iff habound hbbound).1 hab
  · intro start
    -- What begins at one place may stand in any order, so sorting leaves it as it was.
    have hsame : (reported.flatten.filter fun d => d.span.start == start).Pairwise fun a b =>
        a.le b = true := by
      refine List.pairwise_of_forall_mem_list fun a ha b hb => ?_
      rw [List.mem_filter, beq_iff_eq] at ha hb
      rw [Diagnostic.le_iff, (hplace ha.1).2, (hplace hb.1).2, ha.2, hb.2]
    rw [filter_mergeSort Diagnostic.trans_le Diagnostic.total_le hsame, List.filter_flatten,
      List.flatMap_def]

/-- Line and column order the places of a loaded source as offsets do, and diagnostics come in source
order. -/
theorem inSourceOrder_of_load (hload : load path text document = .ok s) :
    (∀ offset, s.lineOf offset = 1 + (text.bytes.take offset).count 10) ∧
    StrictMonoOn (fun o => (toLex (s.lineOf o, s.columnOf o) : Nat ×ₗ Nat))
      {o | text.isBoundary o = true} ∧
    Set.InjOn (fun o => (toLex (s.lineOf o, s.columnOf o) : Nat ×ₗ Nat))
      {o | text.isBoundary o = true} ∧
    ∀ rules files asked, (∀ a ∈ rules, a.rule ∈ Rule.all) →
      InSourceOrder ((reports rules files (.ofSource s)).run asked).1
        (evaluate rules files (.ofSource s) asked) := by
  have hmono : StrictMonoOn (fun o => (toLex (s.lineOf o, s.columnOf o) : Nat ×ₗ Nat))
      {o | text.isBoundary o = true} := by
    rw [← text_of_load hload]
    exact s.text.strictMonoOn_placeOf
  refine ⟨?_, hmono, hmono.injOn, fun _ _ _ => inSourceOrder_evaluate hload⟩
  intro offset
  rw [← text_of_load hload]
  exact s.text.lineOf_eq_count offset

def crampedDocument : Json := .obj [
  ("body", .arr [
    .obj [("range", .arr [.nat 0, .nat 1]), ("type", .str "X")],
    .obj [("body", .arr [.obj [("range", .arr [.nat 5, .nat 6]), ("type", .str "X")]]),
      ("range", .arr [.nat 2, .nat 8]), ("type", .str "BlockStatement")],
    .obj [("range", .arr [.nat 9, .nat 10]), ("type", .str "X")]]),
  ("tokens", .arr [
    .obj [("range", .arr [.nat 2, .nat 3]), ("type", .str "Punctuator")],
    .obj [("range", .arr [.nat 5, .nat 6]), ("type", .str "Identifier")],
    .obj [("range", .arr [.nat 7, .nat 8]), ("type", .str "Punctuator")]]),
  ("type", .str "Program")]

def crampedDocumentText : Text :=
  ["\x7b\"body\":[\x7b\"range\":[0,1],\"type\":\"X\"\x7d,",
    "\x7b\"body\":[\x7b\"range\":[5,6],\"type\":\"X\"\x7d],",
    "\"range\":[2,8],\"type\":\"BlockStatement\"\x7d,",
    "\x7b\"range\":[9,10],\"type\":\"X\"\x7d],",
    "\"tokens\":[\x7b\"range\":[2,3],\"type\":\"Punctuator\"\x7d,",
    "\x7b\"range\":[5,6],\"type\":\"Identifier\"\x7d,",
    "\x7b\"range\":[7,8],\"type\":\"Punctuator\"\x7d],\"type\":\"Program\"\x7d"].flatMap
    String.toList

set_option maxRecDepth 10000 in
theorem parse?_crampedDocumentText : Json.parse? crampedDocumentText = some crampedDocument := by
  rfl

def crampedSource : Source where
  path := "a.js"
  text := "é\n\x7b\n\nb\n\x7d\nc".toList
  tree :=
    { nodes := #[⟨.other "X" [], ⟨10, 11⟩⟩, ⟨.other "X" [], ⟨6, 7⟩⟩, ⟨.blockStatement [1], ⟨3, 9⟩⟩,
        ⟨.other "X" [], ⟨0, 2⟩⟩, ⟨.program [3, 2, 0] .script, ⟨0, 11⟩⟩]
      children := #[[], [], [1], [], [3, 2, 0]]
      parents := #[some 4, some 2, some 4, some 4, none]
      root := 4 }
  tokens :=
    let tokens : Array Token := #[⟨.punctuator, ⟨3, 4⟩, ['\x7b']⟩, ⟨.identifier, ⟨6, 7⟩, ['b']⟩,
      ⟨.punctuator, ⟨8, 9⟩, ['\x7d']⟩]
    ⟨tokens, tokens⟩

theorem inSourceOrder_of_load_cramped :
    let rules := Config.default.activeRules
    let files := MemoryFiles.empty.access
    load "a.js" crampedSource.text crampedDocumentText = .ok crampedSource ∧
    (∀ a ∈ rules, a.rule ∈ Rule.all) ∧
    (((reports rules files (.ofSource crampedSource)).run .empty).1.flatten.map fun d =>
      (d.rule, d.span.start)) =
        [("JS-STYLE-SPACE-001", 3), ("JS-STYLE-SPACE-001", 10), ("JS-STYLE-SPACE-002", 3)] ∧
    InSourceOrder ((reports rules files (.ofSource crampedSource)).run .empty).1
      (evaluate rules files (.ofSource crampedSource)) := by
  have hnodes : Loader.load crampedSource.text crampedDocument = .ok crampedSource.tree.nodes := by
    decide +kernel
  have htree : Tree.ofNodes crampedSource.tree.nodes 4 = .ok crampedSource.tree := by cbv
  have htokens : TokenIndex.ofList (Loader.tokens crampedSource.text crampedDocument) =
      crampedSource.tokens := by cbv
  have hload : load "a.js" crampedSource.text crampedDocumentText = .ok crampedSource := by
    rw [load_eq_ofDocument parse?_crampedDocumentText, ofDocument_eq "a.js" hnodes htree, htokens]
    rfl
  exact ⟨hload, Config.rule_mem_all, by decide +kernel,
    (inSourceOrder_of_load hload).2.2.2 _ _ _ Config.rule_mem_all⟩

end Source

end ScriptLint
