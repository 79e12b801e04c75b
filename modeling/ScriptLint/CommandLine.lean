import ScriptLint.Json.Writer
import ScriptLint.Session

/-! The command line: what the arguments ask for, and what is printed. -/
namespace ScriptLint

inductive UsageError where
  | unknownArgument
  | invalidSubcommand
  | invalidValue
  | tooManyValues
  | argumentConflict
  | missingSubcommand
  | displayHelp
  | displayVersion
  | displayHelpOnMissingArgument
  deriving DecidableEq, Repr

inductive Subcommand where
  | check (files : List Path)
  | fix (files : List Path)
  | rules
  | schema (rule : Option String)
  deriving DecidableEq, Repr

structure Invocation where
  config : Option String
  subcommand : Subcommand
  deriving DecidableEq, Repr

namespace CommandLine

inductive SubcommandName where
  | check
  | fix
  | rules
  | schema
  deriving DecidableEq, Repr

def SubcommandName.ofString? : String → Option SubcommandName
  | "check" => some check
  | "fix" => some fix
  | "rules" => some rules
  | "schema" => some schema
  | _ => none

def SubcommandName.maxValues : SubcommandName → Option Nat
  | check | fix => none
  | rules => some 0
  | schema => some 1

def isOption (a : String) : Bool :=
  match a.toList with
  | '-' :: _ :: _ => true
  | _ => false

inductive OptionKind where
  | config (value : Option String)
  | help
  | version
  | superfluousValue
  | unknown

def optionKind (hasVersion : Bool) (a : String) : OptionKind :=
  match a.toList with
  | '-' :: '-' :: body =>
    let name := String.ofList (body.takeWhile fun c => c != '=')
    let value := match body.dropWhile fun c => c != '=' with
      | _ :: v => some (String.ofList v)
      | [] => none
    match name with
    | "config" => .config value
    | "help" => if value.isSome then .superfluousValue else .help
    | "version" =>
      if !hasVersion then .unknown else if value.isSome then .superfluousValue else .version
    | _ => .unknown
  | '-' :: 'h' :: _ => .help
  | '-' :: 'V' :: _ => if hasVersion then .version else .unknown
  | _ => .unknown

/-- Values that were read and are still to be checked. -/
inductive Pending where
  | config (value : Option String)
  | values (vs : List String)

structure Level where
  config : Option String := none
  values : List String := []
  pending : Option Pending := none

/-- Checks what is pending: paths are not empty, and one configuration is named at most once. -/
def Level.settle (allowEmpty : Bool) (l : Level) : Except UsageError Level :=
  match l.pending with
  | none => .ok l
  | some (.config none) => .error .invalidValue
  | some (.config (some v)) =>
    if l.config.isSome then .error .argumentConflict
    else if v.isEmpty then .error .invalidValue
    else .ok { l with config := some v, pending := none }
  | some (.values vs) =>
    if !allowEmpty && vs.contains "" then .error .invalidValue
    else .ok { l with values := l.values ++ vs, pending := none }

/-- Takes an option. The next argument is the value of an option that waits for one. -/
def Level.takeOption (l : Level) (allowEmpty hasVersion : Bool) (a : String) :
    Except UsageError Level :=
  match optionKind hasVersion a with
  | .unknown => .error .unknownArgument
  | .superfluousValue => .error .tooManyValues
  | .help => do
    let _ ← l.settle allowEmpty
    .error .displayHelp
  | .version => do
    let _ ← l.settle allowEmpty
    .error .displayVersion
  | .config none => return { ← l.settle allowEmpty with pending := some (.config none) }
  | .config (some v) => do
    let l ← l.settle allowEmpty
    Level.settle allowEmpty { l with pending := some (.config (some v)) }

def Level.isWaiting (l : Level) : Bool :=
  match l.pending with
  | some (.config none) => true
  | _ => false

def Level.takeValue (l : Level) (allowEmpty : Bool) (limit : Option Nat) (a : String) :
    Except UsageError Level := do
  let count := l.values.length + match l.pending with
    | some (.values vs) => vs.length
    | _ => 0
  if limit.any fun n => n ≤ count then .error .unknownArgument
  else match l.pending with
    | some (.values vs) => return { l with pending := some (.values (vs ++ [a])) }
    | _ => return { ← l.settle allowEmpty with pending := some (.values [a]) }

/-- Reads the arguments of a subcommand; after two dashes all are values. -/
def readValues (name : SubcommandName) (trailing : Bool) (l : Level) :
    List String → Except UsageError Level
  | [] => l.settle (name = .schema)
  | a :: as => do
    let allowEmpty := decide (name = .schema)
    let l ← if trailing then l.takeValue allowEmpty name.maxValues a
      else if a = "--" then pure l
      else if isOption a then l.takeOption allowEmpty false a
      else if l.isWaiting then pure { l with pending := some (.config (some a)) }
      else l.takeValue allowEmpty name.maxValues a
    readValues name (trailing || a = "--") l as

def subcommandOf (name : SubcommandName) (values : List String) : Subcommand :=
  match name with
  | .check => .check (values.map Path.ofString)
  | .fix => .fix (values.map Path.ofString)
  | .rules => .rules
  | .schema => .schema values.head?

def help : List String → UsageError
  | [] => .displayHelp
  | [name] =>
    if name = "help" || (SubcommandName.ofString? name).isSome then .displayHelp
    else .invalidSubcommand
  | _ => .invalidSubcommand

/-- Reads the arguments in front of the subcommand, then the subcommand. The configuration may be
named at both places; the later one counts. -/
def readArguments (trailing : Bool) (l : Level) : List String → Except UsageError Invocation
  | [] => do
    let l ← l.settle true
    .error (if l.config.isSome then .missingSubcommand else .displayHelpOnMissingArgument)
  | a :: as =>
    if trailing then
      .error (if a = "help" || (SubcommandName.ofString? a).isSome then .unknownArgument
        else .invalidSubcommand)
    else if l.isWaiting && !isOption a && a != "--" then
      readArguments false { l with pending := some (.config (some a)) } as
    else if a = "--" then readArguments true l as
    else if isOption a then
      match l.takeOption true true a with
      | .ok l => readArguments false l as
      | .error e => .error e
    else if a = "help" then .error (help as)
    else match SubcommandName.ofString? a with
      | none => .error .invalidSubcommand
      | some name => do
        let inner ← readValues name false {} as
        let outer ← l.settle true
        return ⟨inner.config.or outer.config, subcommandOf name inner.values⟩

def parse (arguments : List String) : Except UsageError Invocation :=
  readArguments false {} arguments

inductive Failure where
  | unreadable (path : String) (cause : FileError)
  | unparsable (path : String)
  | unknownRule (key : String)
  deriving DecidableEq, Repr

def Failure.message : Failure → String
  | unreadable path cause => s!"Failed to read {path}: {cause.message}."
  | unparsable path => s!"Failed to parse {path}"
  | unknownRule key => s!"Unknown rule \"{key}\"."

structure Report where
  stdout : String := ""
  stderr : String := ""
  success : Bool := true
  deriving DecidableEq, Repr

def unlines (lines : List String) : String := String.join (lines.map fun l => l ++ "\n")

def loadConfig (disk : Disk) (named : Option String) : Except Failure Config :=
  let path := match named with
    | some path => some path
    | none => if disk.isFile (.ofString Config.fileName) then some Config.fileName else none
  match path with
  | none => .ok .default
  | some path =>
    match disk.readText (.ofString path) with
    | .error e => .error (.unreadable path e)
    | .ok text =>
      match Config.parse? text.toList with
      | some c => .ok c
      | none => .error (.unparsable path)

def configReport (errors : List ConfigError) : Report where
  stderr := unlines (errors.map ConfigError.message ++
    ["", s!"Found {errors.length} configuration error(s)."])
  success := false

def summaryLines (s : Summary) (isFix : Bool) : List String :=
  let fixes := if isFix then s!" Applied {s.appliedFixes} fix(es)." else ""
  s.lines ++ ["", s!"Checked {s.files} file(s)." ++ fixes] ++
    (if 0 < s.unfixable then [s!"{s.unfixable} violation(s) require manual fixes."] else [])

def summaryReport (s : Summary) (isFix : Bool) : Report :=
  let found := if isFix then s!"Found {s.violations} remaining style violation(s) after fix."
    else s!"Found {s.violations} style violation(s)."
  { stdout := unlines (summaryLines s isFix)
    stderr := if 0 < s.violations then unlines ["", found] else ""
    success := s.violations == 0 }

def rulesReport : Report where
  stdout := unlines (Rule.all.map fun r =>
    let fixable := if r.info.fixable then "fixable" else "report-only"
    s!"{r.info.id}\t{r.info.name}\t{fixable}")

def schemaReport (rule : Option String) : Except Failure Report :=
  match rule with
  | none =>
    let all := Rule.all.map fun r => (r.info.name, r.schema)
    .ok { stdout := (Json.mk all).pretty ++ "\n" }
  | some key =>
    match Rule.find? key with
    | some r => .ok { stdout := r.schema.pretty ++ "\n" }
    | none => .error (.unknownRule key)

def withSession (disk : Disk) (config : Option String) (f : Session → Disk × Report) :
    Except Failure (Disk × Report) := do
  let c ← loadConfig disk config
  match c.validate with
  | .error errors => return (disk, configReport errors)
  | .ok rules => return f ⟨c.parser, rules⟩

def run (disk : Disk) (i : Invocation) : Except Failure (Disk × Report) :=
  match i.subcommand with
  | .check files =>
    withSession disk i.config fun s => (disk, summaryReport (s.check disk files) false)
  | .fix files =>
    withSession disk i.config fun s =>
      let (disk, summary) := s.fix disk files
      (disk, summaryReport summary true)
  | .rules => .ok (disk, rulesReport)
  | .schema rule => (schemaReport rule).map fun r => (disk, r)

end CommandLine

end ScriptLint
