import ScriptLint.Config
import ScriptLint.Files.Disk
import ScriptLint.FixPass
import ScriptLint.Shell.Run

/-! Check and fix runs over the files of a directory. -/
namespace ScriptLint

/-- What a rule reports about a file: nothing if it does not get to its end. -/
def ActiveRule.diagnostics (a : ActiveRule) (files : FileSystem) (file : SourceFile) :
    Cached (List Diagnostic) := do
  return (← a.rule.attempt a.options files file).getD []

def Diagnostic.le (a b : Diagnostic) : Bool :=
  a.line < b.line || (a.line == b.line && a.column ≤ b.column)

/-- What the rules report about a file, one after the other. -/
def reports (rules : List ActiveRule) (files : FileSystem) (file : SourceFile) :
    Cached (List (List Diagnostic)) :=
  rules.mapM fun a => a.diagnostics files file

/-- Runs rules over a file. Diagnostics are sorted by place; those of one place keep the order of the
rules. -/
def evaluate (rules : List ActiveRule) (files : FileSystem) (file : SourceFile)
    (asked : FileCache := .empty) : List Diagnostic :=
  ((reports rules files file).run asked).1.flatten.mergeSort Diagnostic.le

/-- The files of a run, and what has been asked about them. -/
structure Workspace where
  disk : Disk
  asked : FileCache := .empty

/-- Overwrites a file. What was read before may be stale then. -/
def Workspace.write (w : Workspace) (path : Path) (text : Text) : Workspace where
  disk := w.disk.write path text
  asked := w.asked.forgetContents

structure Summary where
  files : Nat
  violations : Nat := 0
  unfixable : Nat := 0
  appliedFixes : Nat := 0
  lines : List String := []
  deriving DecidableEq, Repr

def Summary.record (s : Summary) (path : Path) (ds : List Diagnostic) : Summary :=
  { s with
    violations := s.violations + ds.length
    unfixable := s.unfixable + ds.countP fun d => !d.isFixable
    lines := s.lines ++ ds.map fun d => d.render path.toString }

structure Session where
  parser : List String
  rules : List ActiveRule

namespace Session

variable (s : Session)

/-- The syntax document of a file: what the parser prints, or the document beside the file. -/
def document? (disk : Disk) (path : Path) : Option Text :=
  match s.parser with
  | [] => ((disk.readText path.sidecar).toOption).map String.toList
  | program :: arguments => do
    let r ← Shell.run? disk program.toList (arguments.map String.toList ++ [path.text])
    if r.isSuccess then (String.fromUTF8? ⟨r.output.toArray⟩).map String.toList else none

def load? (disk : Disk) (path : Path) (text : Text) : Option SourceFile := do
  let document ← s.document? disk path
  let source ← (Source.load path.toString text document).toOption
  return .ofSource source

def diagnostics (w : Workspace) (file : SourceFile) : List Diagnostic :=
  evaluate s.rules w.disk.access file w.asked

/-- The rules have run over a file: the disk is the same, but they have asked. -/
def afterRules (w : Workspace) (file : SourceFile) : Workspace :=
  { w with asked := ((reports s.rules w.disk.access file).run w.asked).2 }

def diagnosticsOf (w : Workspace) (path : Path) (text : Text) : List Diagnostic :=
  ((s.load? w.disk path text).map (s.diagnostics w)).getD []

def afterRulesOf (w : Workspace) (path : Path) (text : Text) : Workspace :=
  ((s.load? w.disk path text).map (s.afterRules w)).getD w

/-- The files to look at: those that are named, as far as they are modules, or all modules that no
module directory holds. -/
def filesOf (disk : Disk) (requested : List Path) : List Path :=
  if !requested.isEmpty then requested.filter Path.hasModuleExtension
  else
    let all := moduleExtensions.flatMap fun ext => disk.list s!"**/*.{ext}".toList
    let own := all.filter fun p => !p.components.contains (.name "node_modules".toList)
    (own.mergeSort Path.le).eraseDups

def checkFile (w : Workspace) (summary : Summary) (path : Path) : Workspace × Summary :=
  match w.disk.readText path with
  | .error _ => (w, summary)
  | .ok text =>
    (s.afterRulesOf w path text.toList,
      summary.record path (s.diagnosticsOf w path text.toList))

def check (disk : Disk) (requested : List Path) : Summary :=
  let files := filesOf disk requested
  (files.foldl (fun (w, summary) path => s.checkFile w summary path)
    (⟨disk, .empty⟩, ⟨files.length, 0, 0, 0, []⟩)).2

structure FileFix where
  files : Workspace
  text : Text
  applied : Nat
  /-- What is still wrong, if that is known. -/
  remaining : Option (List Diagnostic)

def maxPasses : Nat := 8

def without (accepted : List Nat) (ds : List Diagnostic) : List Diagnostic :=
  (ds.zipIdx.filter fun d => !accepted.contains d.2).map Prod.fst

/-- Passes of fixes over a file. A document beside the file describes only the text it was made
from, so without a parser there is one pass, and the file is written if its text has changed. -/
def fixPasses (path : Path) : Nat → FileFix → FileFix
  | 0, f => f
  | n + 1, f =>
    match s.load? f.files.disk path f.text with
    | none => f
    | some file =>
      let ds := s.diagnostics f.files file
      let asked := s.afterRules f.files file
      match FixPass.run f.text ds with
      | .error _ => { f with files := asked, remaining := some ds }
      | .ok outcome =>
        let applied := f.applied + outcome.accepted.length
        if outcome.accepted.isEmpty then { f with files := asked, remaining := some ds }
        else if s.parser.isEmpty then
          let files := if outcome.text = f.text then asked else asked.write path outcome.text
          ⟨files, outcome.text, applied, some (without outcome.accepted ds)⟩
        else fixPasses path n ⟨asked.write path outcome.text, outcome.text, applied, none⟩

def fixFile (w : Workspace) (summary : Summary) (path : Path) : Workspace × Summary :=
  match w.disk.readText path with
  | .error _ => (w, summary)
  | .ok text =>
    let f := s.fixPasses path maxPasses ⟨w, text.toList, 0, none⟩
    let (files, remaining) := match f.remaining with
      | some ds => (f.files, ds)
      | none => (s.afterRulesOf f.files path f.text, s.diagnosticsOf f.files path f.text)
    let summary := summary.record path remaining
    (files, { summary with appliedFixes := summary.appliedFixes + f.applied })

def fixFiles (w : Workspace) (summary : Summary) (files : List Path) : Workspace × Summary :=
  files.foldl (fun (w, summary) path => s.fixFile w summary path) (w, summary)

def fix (disk : Disk) (requested : List Path) : Disk × Summary :=
  let files := filesOf disk requested
  let (w, summary) := s.fixFiles ⟨disk, .empty⟩ ⟨files.length, 0, 0, 0, []⟩ files
  (w.disk, summary)

end Session

end ScriptLint
