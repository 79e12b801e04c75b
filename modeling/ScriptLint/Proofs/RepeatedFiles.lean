import ScriptLint.Proofs.DirectRules
import ScriptLint.Proofs.LoaderRun
import ScriptLint.Proofs.OverwrittenFiles

/-! Fixing files with the documents beside them. A file that is named twice is fixed twice with one
document, so naming files again changes nothing exactly as long as the document of a fixed file asks
for no further change. -/
namespace ScriptLint

namespace Path

theorem same_iff {p q : Path} : p.same q = true ↔ p.components = q.components := by
  rw [same, beq_iff_eq]

theorem loop_concat {r : Path → Path → Bool} (ps seen : List Path) (p : Path) :
    List.eraseDupsBy.loop r (ps ++ [p]) seen =
      if (List.eraseDupsBy.loop r ps seen).any (r p) then List.eraseDupsBy.loop r ps seen
      else List.eraseDupsBy.loop r ps seen ++ [p] := by
  induction ps generalizing seen with
  | nil =>
    simp only [List.nil_append, List.eraseDupsBy.loop, List.any_reverse, List.reverse_cons]
    cases seen.any (r p) <;> rfl
  | cons q ps ih =>
    cases hq : seen.any (r q) <;> simp only [List.cons_append, List.eraseDupsBy.loop, hq] <;>
      exact ih _

theorem eraseDupsBy_concat (ps : List Path) (p : Path) :
    (ps ++ [p]).eraseDupsBy same =
      if (ps.eraseDupsBy same).any p.same then ps.eraseDupsBy same
      else ps.eraseDupsBy same ++ [p] :=
  loop_concat ps [] p

theorem any_same_eraseDupsBy (ps : List Path) (p : Path) :
    (ps.eraseDupsBy same).any p.same = ps.any p.same := by
  induction ps using List.reverseRecOn with
  | nil => rfl
  | append_singleton ps q ih =>
    rw [eraseDupsBy_concat, List.any_append, List.any_cons, List.any_nil, Bool.or_false]
    split
    next hseen =>
      rw [ih]
      cases hpq : p.same q with
      | false => rw [Bool.or_false]
      | true =>
        obtain ⟨x, hx, hqx⟩ := List.any_eq_true.1 hseen
        have hpx : p.same x = true := same_iff.2 ((same_iff.1 hpq).trans (same_iff.1 hqx))
        rw [Bool.or_true, ← ih]
        exact List.any_eq_true.2 ⟨x, hx, hpx⟩
    next => rw [List.any_append, ih, List.any_cons, List.any_nil, Bool.or_false]

theorem ne_nil_of_any {ps : List Path} {p : Path} (h : ps.any p.same = true) : ps ≠ [] := by
  rintro rfl
  cases h

theorem eraseDupsBy_ne_nil {ps : List Path} (h : ps ≠ []) : ps.eraseDupsBy same ≠ [] := by
  obtain ⟨p, ps, rfl⟩ := List.exists_cons_of_ne_nil h
  rw [List.eraseDupsBy_cons]
  exact List.cons_ne_nil _ _

end Path

namespace Session

variable {s : Session} {w : Workspace} {disk : Disk} {p : Path}

/-- The text that one pass of fixes makes of a text as the contents of a file; `none` if there is no
usable document, or if the fixes cannot be applied. -/
def pass? (s : Session) (w : Workspace) (path : Path) (text : Text) : Option Text := do
  let file ← s.load? w.disk path text
  let outcome ← (FixPass.run text (s.diagnostics w file)).toOption
  return outcome.text

/-- The document of a file asks for no change of the file as it is. -/
def Settled (s : Session) (disk : Disk) (path : Path) : Prop :=
  ∀ text fixed, disk.readText path = .ok text →
    s.pass? ⟨disk, .empty⟩ path text.toList = some fixed → fixed = text.toList

def visit (s : Session) (disk : Disk) (path : Path) : Disk :=
  if path.hasModuleExtension then (s.fixFile ⟨disk, .empty⟩ ⟨0, 0, 0, 0, []⟩ path).1.disk else disk

theorem document?_of_readText (hs : s.parser = []) {document : String}
    (h : disk.readText p.sidecar = .ok document) : s.document? disk p = some document.toList := by
  simp [document?, hs, h, Except.toOption]

theorem pass?_of_load? {text : Text} {file : SourceFile} (h : s.load? w.disk p text = some file) :
    s.pass? w p text = (FixPass.run text (s.diagnostics w file)).toOption.map FixOutcome.text := by
  simp [pass?, h, Option.map_eq_bind]

/-- What has been asked before makes no difference to what is written. -/
theorem pass?_eq (hrules : ∀ a ∈ s.rules, a.rule ∈ Rule.all) (w : Workspace) (text : Text) :
    s.pass? w p text = s.pass? ⟨w.disk, .empty⟩ p text := by
  cases hload : s.load? w.disk p text with
  | none => simp [pass?, hload]
  | some file =>
    rw [pass?_of_load? hload, pass?_of_load? (w := ⟨w.disk, .empty⟩) hload]
    exact FixPass.text_of_run_congr (filter_evaluate hrules _ _) text

theorem text_of_accepted_eq_nil {text : Text} {ds : List Diagnostic} {outcome : FixOutcome}
    (h : FixPass.run text ds = .ok outcome) (hnone : outcome.accepted.isEmpty = true) :
    outcome.text = text := by
  unfold FixPass.run at h
  dsimp only at h
  split at h
  next => cases h
  next => cases h; rfl
  next patch hcombine =>
    split at h
    next => cases h
    next =>
      cases h
      have hchosen : (FixPass.select 0 ds .empty).accepted = [] := by simpa using hnone
      rw [hchosen] at hcombine
      cases hcombine

theorem disk_fixPasses (hs : s.parser = []) (n : Nat) (f : FileFix) {text : String}
    (hread : f.files.disk.readText p = .ok text) (htext : f.text = text.toList) :
    (s.fixPasses p (n + 1) f).files.disk =
      ((s.pass? f.files p f.text).map (f.files.disk.write p)).getD f.files.disk := by
  have hsame {fixed : Text} (h : fixed = f.text) : f.files.disk.write p fixed = f.files.disk := by
    rw [h, htext, Disk.write_of_readText hread]
  rw [fixPasses, pass?]
  cases hload : s.load? f.files.disk p f.text with
  | none => rfl
  | some file =>
    cases hrun : FixPass.run f.text (s.diagnostics f.files file) with
    | error e => simp [hrun, Except.toOption, afterRules]
    | ok outcome =>
      cases hnone : outcome.accepted.isEmpty with
      | false =>
        by_cases hchanged : outcome.text = f.text
        · simp [hs, hnone, hrun, Except.toOption, afterRules, hchanged, hsame rfl]
        · simp [hs, hnone, hrun, Except.toOption, afterRules, hchanged, Workspace.write]
      | true =>
        simp [hrun, hnone, Except.toOption, afterRules, hsame (text_of_accepted_eq_nil hrun hnone)]

theorem disk_afterRulesOf (text : Text) : (s.afterRulesOf w p text).disk = w.disk := by
  unfold afterRulesOf
  cases s.load? w.disk p text <;> rfl

theorem disk_fixFile (hs : s.parser = []) {text : String} (htext : w.disk.readText p = .ok text)
    (summary : Summary) : (s.fixFile w summary p).1.disk =
      ((s.pass? w p text.toList).map (w.disk.write p)).getD w.disk := by
  rw [← disk_fixPasses hs 7 ⟨w, text.toList, 0, none⟩ htext rfl, fixFile, htext]
  dsimp only
  rw [show maxPasses = 7 + 1 from rfl]
  cases (s.fixPasses p (7 + 1) ⟨w, text.toList, 0, none⟩).remaining with
  | some ds => rfl
  | none => exact disk_afterRulesOf _

theorem disk_fixFile_eq (hs : s.parser = []) (hrules : ∀ a ∈ s.rules, a.rule ∈ Rule.all)
    (w : Workspace) (summary : Summary) : (s.fixFile w summary p).1.disk =
      (s.fixFile ⟨w.disk, .empty⟩ ⟨0, 0, 0, 0, []⟩ p).1.disk := by
  cases htext : w.disk.readText p with
  | error e => simp [fixFile, htext]
  | ok text =>
    rw [disk_fixFile hs htext, disk_fixFile (w := ⟨w.disk, .empty⟩) hs htext, pass?_eq hrules]

theorem disk_fixFiles (hs : s.parser = []) (hrules : ∀ a ∈ s.rules, a.rule ∈ Rule.all)
    (w : Workspace) (summary : Summary) (files : List Path) :
    (s.fixFiles w summary files).1.disk =
      files.foldl (fun disk p => (s.fixFile ⟨disk, .empty⟩ ⟨0, 0, 0, 0, []⟩ p).1.disk) w.disk := by
  induction files generalizing w summary with
  | nil => rfl
  | cons p files ih =>
    rw [List.foldl_cons, ← disk_fixFile_eq hs hrules w summary]
    exact ih _ _

theorem fst_fix (hs : s.parser = []) (hrules : ∀ a ∈ s.rules, a.rule ∈ Rule.all)
    {requested : List Path} (h : requested ≠ []) :
    (s.fix disk requested).1 = requested.foldl s.visit disk := by
  have hfiles : filesOf disk requested = requested.filter Path.hasModuleExtension := by
    simp [filesOf, h]
  rw [fix, hfiles]
  dsimp only
  rw [disk_fixFiles hs hrules, List.foldl_filter]
  rfl

theorem visit_of_readText (hs : s.parser = []) (hp : p.hasModuleExtension = true) {text : String}
    (htext : disk.readText p = .ok text) : s.visit disk p =
      ((s.pass? ⟨disk, .empty⟩ p text.toList).map (disk.write p)).getD disk := by
  rw [visit, if_pos hp, disk_fixFile (w := ⟨disk, .empty⟩) hs htext]

theorem visit_of_settled (hs : s.parser = []) (h : p.hasModuleExtension = true → s.Settled disk p) :
    s.visit disk p = disk := by
  by_cases hp : p.hasModuleExtension = true
  · cases htext : disk.readText p with
    | error e => simp [visit, hp, fixFile, htext]
    | ok text =>
      rw [visit_of_readText hs hp htext]
      cases hpass : s.pass? ⟨disk, .empty⟩ p text.toList with
      | none => rfl
      | some fixed =>
        have hfixed : fixed = text.toList := h hp text fixed htext hpass
        rw [Option.map_some, Option.getD_some, hfixed, Disk.write_of_readText htext]
  · rw [visit, if_neg hp]

theorem settled_of_visit (hs : s.parser = []) (hp : p.hasModuleExtension = true)
    (h : ∀ l, (s.visit disk p).fileAt? l = disk.fileAt? l) : s.Settled disk p := by
  intro text fixed htext hpass
  obtain ⟨l, hl, hfile⟩ := Disk.fileAt?_of_readText htext
  have hwritten := h l
  rw [visit_of_readText hs hp htext, hpass, Option.map_some, Option.getD_some,
    Disk.fileAt?_write hl, hfile, Option.some.injEq] at hwritten
  have htexts : String.ofList fixed = text := String.toByteArray_inj.1 hwritten
  rw [← htexts, String.toList_ofList]

theorem foldl_visit_eraseDupsBy (hs : s.parser = []) (disk : Disk)
    (h : ∀ (requested : List Path) (p : Path), requested.any p.same = true →
      p.hasModuleExtension = true → s.Settled (requested.foldl s.visit disk) p)
    (requested : List Path) :
    requested.foldl s.visit disk = (requested.eraseDupsBy Path.same).foldl s.visit disk := by
  -- The last path either repeats one before it, and finds its file settled, or is kept.
  induction requested using List.reverseRecOn with
  | nil => rfl
  | append_singleton requested p ih =>
    rw [List.foldl_concat, Path.eraseDupsBy_concat, Path.any_same_eraseDupsBy]
    split
    next hseen => rw [visit_of_settled hs (h requested p hseen), ih]
    next => rw [List.foldl_concat, ih]

/-- Without a parser, and whichever of the rules are active, naming files repeatedly makes no difference
to what any file holds in the end if and only if, whatever files have been fixed, the document of a
fixed file, which is then that of an older text, asks for no further change of it. -/
theorem fix_eraseDupsBy_iff (hs : s.parser = []) (hrules : ∀ a ∈ s.rules, a.rule ∈ Rule.all)
    (disk : Disk) :
    (∀ requested l, (s.fix disk requested).1.fileAt? l =
      (s.fix disk (requested.eraseDupsBy Path.same)).1.fileAt? l) ↔
    ∀ requested p, requested.any p.same = true → p.hasModuleExtension = true →
      s.Settled (s.fix disk requested).1 p := by
  constructor
  · intro h requested p hseen hp
    have hne : requested ≠ [] := Path.ne_nil_of_any hseen
    have hdrop : (requested ++ [p]).eraseDupsBy Path.same = requested.eraseDupsBy Path.same := by
      rw [Path.eraseDupsBy_concat, Path.any_same_eraseDupsBy, if_pos hseen]
    refine settled_of_visit hs hp fun l => ?_
    calc (s.visit (s.fix disk requested).1 p).fileAt? l
        = (s.fix disk (requested ++ [p])).1.fileAt? l := by
          rw [fst_fix hs hrules hne, fst_fix hs hrules (by simp), List.foldl_concat]
      _ = (s.fix disk (requested.eraseDupsBy Path.same)).1.fileAt? l := by rw [h, hdrop]
      _ = (s.fix disk requested).1.fileAt? l := (h requested l).symm
  · intro h requested l
    by_cases hempty : requested = []
    · rw [hempty]
      rfl
    · have hvisits := foldl_visit_eraseDupsBy hs disk fun requested p hseen hp => by
        rw [← fst_fix hs hrules (Path.ne_nil_of_any hseen)]
        exact h requested p hseen hp
      rw [fst_fix hs hrules hempty, fst_fix hs hrules (Path.eraseDupsBy_ne_nil hempty), hvisits]

/-! A block and a statement on neighbouring lines, with their document. -/

def stackedDocument : Json := .obj [
  ("body", .arr [
    .obj [("body", .arr []), ("range", .arr [.nat 0, .nat 3]), ("type", .str "BlockStatement")],
    .obj [("expression", .obj [("name", .str "a"), ("range", .arr [.nat 4, .nat 5]),
        ("type", .str "Identifier")]),
      ("range", .arr [.nat 4, .nat 5]), ("type", .str "ExpressionStatement")]]),
  ("type", .str "Program")]

def stackedDocumentText : Text :=
  ["\x7b\"body\":[\x7b\"body\":[],", "\"range\":[0,3],", "\"type\":\"BlockStatement\"\x7d,",
    "\x7b\"expression\":\x7b\"name\":\"a\",", "\"range\":[4,5],", "\"type\":\"Identifier\"\x7d,",
    "\"range\":[4,5],", "\"type\":\"ExpressionStatement\"\x7d],",
    "\"type\":\"Program\"\x7d"].flatMap String.toList

set_option maxRecDepth 10000 in
theorem parse?_stackedDocumentText : Json.parse? stackedDocumentText = some stackedDocument := by
  rfl

def stackedSource (text : Text) : Source where
  path := "a.js"
  text := text
  tree :=
    { nodes := #[
        ⟨.identifier "a" none false, ⟨4, 5⟩⟩,
        ⟨.expressionStatement 0 none, ⟨4, 5⟩⟩,
        ⟨.blockStatement [], ⟨0, 3⟩⟩,
        ⟨.program [2, 1] .script, ⟨0, text.size⟩⟩]
      children := #[[], [0], [], [2, 1]]
      parents := #[some 1, some 3, some 3, none]
      root := 3 }
  tokens := .ofList []

def stackedText (blankLines : Nat) : Text :=
  ['\x7b', '\n', '\x7d', '\n'] ++ List.replicate blankLines '\n' ++ ['a']

def stackedDisk (blankLines : Nat) : Disk where
  working := ["work".toList]
  files := [(.inside ["a.js".toList], (String.ofList (stackedText blankLines)).toUTF8),
    (.inside ["a.js.ast.json".toList], (String.ofList stackedDocumentText).toUTF8)]
  directories := []

def paddingSession : Session := ⟨[], [⟨PaddingAroundMultiline.rule, none⟩]⟩

theorem rule_mem_paddingSession : ∀ a ∈ paddingSession.rules, a.rule ∈ Rule.all := by
  simp [paddingSession, Rule.all]

theorem readText_stackedDisk (n : Nat) :
    (stackedDisk n).readText (.ofString "a.js") = .ok (String.ofList (stackedText n)) :=
  Disk.readText_of_fileAt? rfl rfl rfl

theorem document?_stackedDisk (n : Nat) :
    paddingSession.document? (stackedDisk n) (.ofString "a.js") = some stackedDocumentText := by
  have hread : (stackedDisk n).readText (Path.ofString "a.js").sidecar =
      .ok (String.ofList stackedDocumentText) :=
    Disk.readText_of_fileAt? rfl rfl rfl
  rw [document?_of_readText rfl hread, String.toList_ofList]

theorem write_stackedDisk (n : Nat) :
    (stackedDisk n).write (.ofString "a.js") (stackedText (n + 1)) = stackedDisk (n + 1) := rfl

/-- What the document of the file asks for, whether or not the file has been fixed before. -/
def stackedDiagnostic : Diagnostic where
  rule := "JS-STYLE-SPACE-001"
  span := ⟨4, 5⟩
  line := 3
  column := 1
  message := "Expected a blank line between a multi-line statement and its neighbour."
  fix := some (.safe (.single (.insert 4 "\n")) "Insert a blank line.")

theorem load?_stackedDisk {n : Nat}
    (hnodes : Loader.load (stackedText n) stackedDocument =
      .ok (stackedSource (stackedText n)).tree.nodes)
    (htree : Tree.ofNodes (stackedSource (stackedText n)).tree.nodes 3 =
      .ok (stackedSource (stackedText n)).tree) :
    paddingSession.load? (stackedDisk n) (.ofString "a.js") (stackedText n) =
      some (.ofSource (stackedSource (stackedText n))) := by
  have hload : Source.load (Path.ofString "a.js").toString (stackedText n) stackedDocumentText =
      .ok (stackedSource (stackedText n)) := by
    rw [Source.load_eq_ofDocument parse?_stackedDocumentText, Source.ofDocument_eq _ hnodes htree]
    rfl
  simp [load?, document?_stackedDisk, hload, Except.toOption]

theorem diagnostics_stackedDisk {n : Nat} {asked : FileCache}
    (hrun : ((PaddingAroundMultiline.rule.attempt none (stackedDisk n).access
      (.ofSource (stackedSource (stackedText n)))).run asked).1 = some [stackedDiagnostic]) :
    paddingSession.diagnostics ⟨stackedDisk n, asked⟩
      (.ofSource (stackedSource (stackedText n))) = [stackedDiagnostic] := by
  rw [diagnostics, evaluate, paddingSession, run_reports_cons]
  dsimp only
  rw [ActiveRule.fst_run_diagnostics, hrun]
  exact List.mergeSort_singleton ..

theorem load?_stackedDisk_zero :
    paddingSession.load? (stackedDisk 0) (.ofString "a.js") (stackedText 0) =
      some (.ofSource (stackedSource (stackedText 0))) :=
  load?_stackedDisk (by decide +kernel) (by cbv)

theorem diagnostics_stackedDisk_zero :
    paddingSession.diagnostics ⟨stackedDisk 0, .empty⟩ (.ofSource (stackedSource (stackedText 0))) =
      [stackedDiagnostic] :=
  diagnostics_stackedDisk (by decide +kernel)

theorem run_stacked_zero :
    FixPass.run (stackedText 0) [stackedDiagnostic] = .ok ⟨stackedText 1, [0], 0⟩ := by
  decide

theorem pass?_stackedDisk {n : Nat}
    (hload : paddingSession.load? (stackedDisk n) (.ofString "a.js") (stackedText n) =
      some (.ofSource (stackedSource (stackedText n))))
    (hdiagnostics : paddingSession.diagnostics ⟨stackedDisk n, .empty⟩
      (.ofSource (stackedSource (stackedText n))) = [stackedDiagnostic])
    (hrun : FixPass.run (stackedText n) [stackedDiagnostic] =
      .ok ⟨stackedText (n + 1), [0], 0⟩) :
    paddingSession.pass? ⟨stackedDisk n, .empty⟩ (.ofString "a.js") (stackedText n) =
      some (stackedText (n + 1)) := by
  rw [pass?_of_load? (w := ⟨stackedDisk n, .empty⟩) hload, hdiagnostics, hrun]
  rfl

theorem pass?_stackedDisk_zero :
    paddingSession.pass? ⟨stackedDisk 0, .empty⟩ (.ofString "a.js") (stackedText 0) =
      some (stackedText 1) :=
  pass?_stackedDisk load?_stackedDisk_zero diagnostics_stackedDisk_zero run_stacked_zero

theorem pass?_stackedDisk_one :
    paddingSession.pass? ⟨stackedDisk 1, .empty⟩ (.ofString "a.js") (stackedText 1) =
      some (stackedText 2) :=
  pass?_stackedDisk (load?_stackedDisk (by decide +kernel) (by cbv))
    (diagnostics_stackedDisk (by decide +kernel)) (by decide +kernel)

theorem visit_stackedDisk {n : Nat}
    (h : paddingSession.pass? ⟨stackedDisk n, .empty⟩ (.ofString "a.js") (stackedText n) =
      some (stackedText (n + 1))) :
    paddingSession.visit (stackedDisk n) (.ofString "a.js") = stackedDisk (n + 1) := by
  rw [visit_of_readText rfl (by rfl) (readText_stackedDisk n), String.toList_ofList, h]
  exact write_stackedDisk n

theorem eraseDupsBy_stacked :
    [Path.ofString "a.js", .ofString "a.js"].eraseDupsBy Path.same = [.ofString "a.js"] := by
  rfl

theorem fix_stacked_ne :
    (paddingSession.fix (stackedDisk 0) [.ofString "a.js", .ofString "a.js"]).1.fileAt?
        (.inside ["a.js".toList]) ≠
      (paddingSession.fix (stackedDisk 0)
        ([.ofString "a.js", .ofString "a.js"].eraseDupsBy Path.same)).1.fileAt?
          (.inside ["a.js".toList]) := by
  have hone := visit_stackedDisk pass?_stackedDisk_zero
  have htwo := visit_stackedDisk pass?_stackedDisk_one
  rw [eraseDupsBy_stacked, fst_fix rfl rule_mem_paddingSession (List.cons_ne_nil _ _),
    fst_fix rfl rule_mem_paddingSession (List.cons_ne_nil _ _)]
  simp only [List.foldl_cons, List.foldl_nil, hone, htwo]
  intro h
  have htexts : String.ofList (stackedText 2) = String.ofList (stackedText 1) :=
    String.toByteArray_inj.1 (Option.some.inj h)
  exact absurd (String.ofList_injective htexts) (by decide)

theorem fix_eraseDupsBy_iff_stacked :
    paddingSession.parser = [] ∧ (∀ a ∈ paddingSession.rules, a.rule ∈ Rule.all) ∧
      ¬ paddingSession.Settled (stackedDisk 1) (.ofString "a.js") ∧
      ¬ ∀ requested l, (paddingSession.fix (stackedDisk 0) requested).1.fileAt? l =
        (paddingSession.fix (stackedDisk 0) (requested.eraseDupsBy Path.same)).1.fileAt? l := by
  have hunsettled : ¬ paddingSession.Settled (stackedDisk 1) (.ofString "a.js") := by
    intro h
    have htwo := h _ (stackedText 2) (readText_stackedDisk 1)
      (by rw [String.toList_ofList]; exact pass?_stackedDisk_one)
    rw [String.toList_ofList] at htwo
    exact absurd htwo (by decide)
  refine ⟨rfl, rule_mem_paddingSession, hunsettled, fun hsame => hunsettled ?_⟩
  have hsettled := (fix_eraseDupsBy_iff rfl rule_mem_paddingSession (stackedDisk 0)).1 hsame
    [.ofString "a.js"] (.ofString "a.js") (by rfl) (by rfl)
  rwa [fst_fix rfl rule_mem_paddingSession (List.cons_ne_nil _ _), List.foldl_cons, List.foldl_nil,
    visit_stackedDisk pass?_stackedDisk_zero] at hsettled

end Session

end ScriptLint
