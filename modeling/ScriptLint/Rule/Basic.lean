import ScriptLint.Diagnostic
import ScriptLint.Files.Cache
import ScriptLint.Json.Decode
import ScriptLint.SourceFile

/-! Rules. A rule looks at one file, and at the files around it, and reports findings in an order of
its own. -/
namespace ScriptLint

structure Finding where
  span : Span
  message : String
  fix : Option Fix
  deriving DecidableEq, Repr

def Source.diagnose (s : Source) (rule : String) (f : Finding) : Diagnostic where
  rule := rule
  span := f.span
  line := s.lineOf f.span.start
  column := s.columnOf f.span.start
  message := f.message
  fix := f.fix

structure RuleInfo where
  id : String
  /-- The key under which configurations name the rule. -/
  name : String
  description : String
  fixable : Bool
  deriving DecidableEq, Repr

structure Rule where
  info : RuleInfo
  /-- What options look like. -/
  schema : Json
  /-- The check under given options, or under the defaults if none are given. There is no check if
  the options are not options of this rule. -/
  withOptions : Option Json → Option (FileSystem → SourceFile → Cached (List Finding))

namespace Rule

/-- A rule that keeps in mind what it asks about other files. -/
def ofCached {O : Type} (info : RuleInfo) (schema : Json) (default : O) (decode : Json → Option O)
    (check : O → FileSystem → SourceFile → Cached (List Finding)) : Rule where
  info := info
  schema := schema
  withOptions options :=
    match options with
    | some v => (decode v).map check
    | none => some (check default)

/-- A rule that asks about normal paths only, if it asks at all. Of these the files themselves say
what is remembered. -/
def of {O : Type} (info : RuleInfo) (schema : Json) (default : O) (decode : Json → Option O)
    (check : O → FileSystem → SourceFile → List Finding) : Rule :=
  ofCached info schema default decode fun o files file => pure (check o files file)

def accepts (r : Rule) (options : Json) : Bool := (r.withOptions (some options)).isSome

def findings (r : Rule) (options : Option Json) (files : FileSystem) (file : SourceFile) :
    Cached (List Diagnostic) := do
  match r.withOptions options with
  | some check => return (← check files file).map (file.diagnose r.info.id)
  | none => return []

/-- What a rule finds if so much has been asked before. -/
def run (r : Rule) (options : Option Json) (files : FileSystem) (file : SourceFile)
    (asked : FileCache := .empty) : List Diagnostic :=
  ((r.findings options files file).run asked).1

/-- What a rule reports if it gets to its end. It does not if it comes to a range that ends before it
starts: nothing of what it has found is left then. -/
def attempt (r : Rule) (options : Option Json) (files : FileSystem) (file : SourceFile) :
    Cached (Option (List Diagnostic)) := do
  let found ← r.findings options files file
  return if found.all Diagnostic.isOrdered then some found else none

end Rule

def noOptions? (v : Json) : Option Unit := (v.record? []).map fun _ => ()

/-! Parts of schemas. -/
namespace Schema

def type (name : String) : Json := .mk [("type", .str name)]

def enum (names : List String) : Json := .mk [("enum", .arr (names.map Json.str))]

def array (items : Json) : Json := .mk [("type", .str "array"), ("items", items)]

def strings : Json := array (type "string")

def object (properties : List (String × Json)) (required : List String := []) : Json :=
  .mk ([("type", .str "object"), ("additionalProperties", .bool false)] ++
    (if properties.isEmpty then [] else [("properties", .mk properties)]) ++
    (if required.isEmpty then [] else [("required", .arr (required.map Json.str))]))

end Schema

end ScriptLint
