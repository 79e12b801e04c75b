import ScriptLint.Json.Reader
import ScriptLint.Rule.Registry

/-! Configurations: the command that parses files, and settings of rules. -/
namespace ScriptLint

inductive RuleSetting where
  | off
  /-- On, with the default options. -/
  | on
  | options (v : Json)

structure Config where
  /-- The command that prints the syntax document of a file. Without one, the document stands beside
  the file. -/
  parser : List String
  /-- Settings by the name or id of a rule, sorted. A rule without one is on. -/
  rules : List (String × RuleSetting)

structure ActiveRule where
  rule : Rule
  options : Option Json

inductive ConfigError where
  | unknownRule (key : String)
  | configuredTwice (id first second : String)
  | invalidOptions (key : String)
  | noProgram
  deriving DecidableEq, Repr

def ConfigError.message : ConfigError → String
  | unknownRule key => s!"Unknown rule \"{key}\"."
  | configuredTwice id first second =>
    s!"Rule {id} is configured twice, as \"{first}\" and \"{second}\"."
  | invalidOptions key => s!"Invalid options for rule \"{key}\""
  | noProgram => "The parser command must name a program."

namespace Config

def default : Config := ⟨[], []⟩

/-- Name of the file that is read if it is there and no other is named. -/
def fileName : String := "jstyle.json"

def setting : Json → RuleSetting
  | .bool true => .on
  | .bool false => .off
  | v => .options v

def settings? (v : Json) : Option (List (String × RuleSetting)) :=
  v.obj?.map fun fields => fields.map fun f => (f.1, setting f.2)

def ofJson? (v : Json) : Option Config := do
  match ← v.record? [("parser", .defaulted), ("rules", .defaulted)] with
  | [parser, rules] =>
    return ⟨← Json.orDefault? Json.strings? [] parser, ← Json.orDefault? settings? [] rules⟩
  | _ => none

def parse? (text : Text) : Option Config :=
  let keys := Json.outerKeys text
  if keys.eraseDups.length = keys.length then (Json.parseShallow? text).bind ofJson? else none

/-- What is wrong with one setting. `seen` holds the ids and keys of the settings before it, the
last one first. -/
def settingErrors (seen : List (String × String)) (key : String) (setting : RuleSetting) :
    List ConfigError :=
  match Rule.find? key with
  | none => [.unknownRule key]
  | some r =>
    let twice := (seen.lookup r.info.id).map fun first => .configuredTwice r.info.id first key
    let invalid := match setting with
      | .options v => if r.accepts v then [] else [.invalidOptions key]
      | _ => []
    twice.toList ++ invalid

def errorsFrom (seen : List (String × String)) : List (String × RuleSetting) → List ConfigError
  | [] => []
  | (key, setting) :: rest =>
    let now := match Rule.find? key with
      | some r => (r.info.id, key) :: seen
      | none => seen
    settingErrors seen key setting ++ errorsFrom now rest

def errors (c : Config) : List ConfigError :=
  errorsFrom [] c.rules ++
    match c.parser with
    | program :: _ => if (Text.trim program.toList).isEmpty then [.noProgram] else []
    | [] => []

def settingOf? (c : Config) (r : Rule) : Option RuleSetting :=
  (c.rules.find? fun e => e.1 == r.info.name || e.1 == r.info.id).map Prod.snd

def activeRules (c : Config) : List ActiveRule :=
  Rule.all.filterMap fun r =>
    match c.settingOf? r with
    | some .off => none
    | some (.options v) => some ⟨r, some v⟩
    | _ => some ⟨r, none⟩

/-- The rules to run, or all that is wrong with the configuration. -/
def validate (c : Config) : Except (List ConfigError) (List ActiveRule) :=
  if c.errors.isEmpty then .ok c.activeRules else .error c.errors

end Config

end ScriptLint
