import ScriptLint.Shell.Script
import ScriptLint.Shell.Tool

/-! Running scripts and commands. -/
namespace ScriptLint.Shell

/-- What scripts can refer to: the name of the script and its arguments, and how the last pipeline
went. -/
structure Scope where
  disk : Disk
  parameters : List Text
  code : Nat

/-- A word after expansion: fields, of which the last may go on. -/
abbrev Fields := List Text

def Fields.append (fs : Fields) (t : Text) : Fields :=
  match fs with
  | [] => [t]
  | fs => fs.dropLast ++ [fs.getLastD [] ++ t]

def Fields.appendSplit (fs : Fields) (t : Text) : Fields :=
  match Text.words t with
  | [] => fs
  | w :: ws => if t.head?.any isBlank then fs ++ w :: ws else fs.append w ++ ws

def Scope.parameter (s : Scope) (name : Text) : Text :=
  match nat? name, name with
  | some n, _ => s.parameters.getD n []
  | none, ['@'] | none, ['*'] => List.intercalate [' '] s.parameters.tail
  | none, ['#'] => (toString (s.parameters.length - 1)).toList
  | none, ['?'] => (toString s.code).toList
  | none, _ => []

def textOf (bytes : List UInt8) : Text :=
  ((String.fromUTF8? ⟨bytes.toArray⟩).getD "").toList

def outputText (bytes : List UInt8) : Text :=
  textOf ((bytes.reverse.dropWhile fun b => b = 10).reverse)

def code? : List Text → Nat → Option Nat
  | [], last => some last
  | [n], _ => (nat? n).map fun n => n % 256
  | _, _ => none

structure Progress where
  output : List UInt8
  ended : Option Nat

mutual

def runScript (fuel : Nat) (s : Scope) (input : List UInt8) (text : Text) : Result :=
  match fuel with
  | 0 => .failure 2
  | fuel + 1 =>
    match Script.parse? text with
    | none => .failure 2
    | some script =>
      let (s, p) := script.foldl (fun (s, p) pipeline => runPipeline fuel s input p pipeline)
        (s, (⟨[], none⟩ : Progress))
      ⟨p.output, p.ended.getD s.code⟩
termination_by (fuel, 0)

/-- Runs a pipeline, unless the script has ended or the pipeline before it went otherwise. -/
def runPipeline (fuel : Nat) (s : Scope) (input : List UInt8) (p : Progress) (l : Pipeline) :
    Scope × Progress :=
  let applies := match l.condition with
    | .always => true
    | .afterSuccess => s.code == 0
    | .afterFailure => s.code != 0
  if p.ended.isSome || !applies then (s, p)
  else match l.commands with
    | [] => (s, p)
    | [c] =>
      let words := expandAll fuel s c.words
      match words with
      | ['e', 'x', 'i', 't'] :: args =>
        (s, { p with ended := some ((code? args s.code).getD 2) })
      | words =>
        let r := runCommand fuel s input words c.redirects
        ({ s with code := r.code }, { p with output := p.output ++ r.output })
    | cs =>
      let r := cs.foldl (fun (r : Result) c =>
        runCommand fuel s r.output (expandAll fuel s c.words) c.redirects) ⟨input, 0⟩
      ({ s with code := r.code }, { p with output := p.output ++ r.output })
termination_by (fuel, 4)

/-- Runs one command. Output that does not go to the standard output is dropped. -/
def runCommand (fuel : Nat) (s : Scope) (input : List UInt8) (words : List Text)
    (redirects : List Redirect) : Result :=
  let source := redirects.foldl (fun (source : Option (List UInt8)) r =>
    match r with
    | .input w =>
      match s.disk.readBytes ⟨(expandWord fuel s w).headD []⟩ with
      | .ok bytes => source.map fun _ => bytes.toList
      | .error _ => none
    | _ => source) (some input)
  let isKept := redirects.all fun r =>
    match r with
    | .output 1 _ | .duplicate 1 _ => false
    | _ => true
  match source, words with
  | none, _ => .failure 1
  | some _, [] => .success []
  | some input, name :: arguments =>
    match Tool.findInScript? name with
    | none => .failure 127
    | some tool =>
      let r := tool ⟨s.disk, arguments, input⟩
      if isKept then r else ⟨[], r.code⟩
termination_by (fuel, 3)

def expandAll (fuel : Nat) (s : Scope) (words : List Word) : List Text :=
  words.flatMap (expandWord fuel s)
termination_by (fuel, 3)

def expandWord (fuel : Nat) (s : Scope) (word : Word) : Fields :=
  word.foldl (fun fs part => expandPart fuel s fs part) []
termination_by (fuel, 2)

def expandPart (fuel : Nat) (s : Scope) (fs : Fields) (part : Part) : Fields :=
  match part with
  | .text t _ => fs.append t
  | .parameter name true => fs.append (s.parameter name)
  | .parameter name false => fs.appendSplit (s.parameter name)
  | .output script true => fs.append (outputText (runScript fuel s [] script).output)
  | .output script false => fs.appendSplit (outputText (runScript fuel s [] script).output)
termination_by (fuel, 1)

end

def maxNesting : Nat := 32

def runShell (d : Disk) (arguments : List Text) (input : List UInt8) : Result :=
  match arguments with
  | ['-', 'c'] :: script :: parameters =>
    let parameters := if parameters.isEmpty then ["sh".toList] else parameters
    runScript maxNesting ⟨d, parameters, 0⟩ input script
  | file :: parameters =>
    match d.readText ⟨file⟩ with
    | .ok script => runScript maxNesting ⟨d, file :: parameters, 0⟩ input script.toList
    | .error _ => .failure 127
  | [] => runScript maxNesting ⟨d, ["sh".toList], 0⟩ [] (textOf input)

/-- Runs a program with its arguments, on no input; `none` if there is no such program. -/
def run? (d : Disk) (program : Text) (arguments : List Text) : Option Result :=
  if program = "sh".toList || program = "/bin/sh".toList then some (runShell d arguments [])
  else (Tool.find? program).map fun tool => tool ⟨d, arguments, []⟩

end ScriptLint.Shell
