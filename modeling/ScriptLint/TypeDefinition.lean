import ScriptLint.Files.Glob
import ScriptLint.Files.ModulePath
import ScriptLint.Json.Reader
import ScriptLint.Regex.Parser

/-! Type declarations of packages: what a declaration file exports, and where the one of a package
is found. -/
namespace ScriptLint

structure TypeDefinition where
  path : Path
  hasDefault : Bool
  /-- The module object itself is exported. -/
  exportEquals : Bool
  /-- Everything another module exports is exported, so the names are not all known. -/
  exportAll : Bool
  /-- Exported names, sorted. -/
  named : List String
  deriving DecidableEq, Repr

namespace TypeDefinition

def commentPattern : Regex := .known "(?s)/\\*.*?\\*/|//[^\\n]*"

def defaultPattern : Regex := .known "\\bexport\\s+default\\b"

def equalsPattern : Regex := .known "\\bexport\\s*="

def allPattern : Regex :=
  .known "\\bexport\\s*\\*\\s*(?:as\\s+([A-Za-z_$][\\w$]*)\\s+)?from\\b"

def listPattern : Regex := .known "\\bexport\\s+(?:type\\s+)?\\\x7b([^\x7d]*)\\\x7d"

def declarationPattern : Regex :=
  .known ("\\bexport\\s+(?:declare\\s+)?(?:abstract\\s+)?(?:async\\s+)?" ++
    "(?:const|let|var|function\\*?|class|interface|type|enum|namespace|module)\\s+" ++
    "([A-Za-z_$][\\w$]*)")

def dropWord (word : Text) : Nat → Text → Text
  | 0, t => t
  | fuel + 1, t =>
    match t.dropPrefix? word with
    | some rest => dropWord word fuel rest
    | none => t

def exportedName? (entry : Text) : Option Text :=
  let entry := entry.trim
  (dropWord "type ".toList entry.length entry).words.getLast?

def insertName (name : String) : List String → List String
  | [] => [name]
  | n :: ns =>
    if name = n then n :: ns else if name < n then name :: n :: ns else n :: insertName name ns

def parse (path : Path) (text : Text) : TypeDefinition :=
  let text := commentPattern.replaceAll text fun _ => []
  let stars := allPattern.findAll text
  let listed := (listPattern.findAll text).flatMap fun m =>
    (Text.splitWhere (fun c => c == ',') (m.group 1)).filterMap exportedName?
  let declared := (declarationPattern.findAll text).map fun m => m.group 1
  let isDefault (name : Text) : Bool := name == "default".toList
  let names := stars.filterMap (fun m => m.group? 1) ++
    listed.filter (fun n => !isDefault n) ++ declared
  { path
    hasDefault := defaultPattern.isMatch text || listed.any isDefault
    exportEquals := equalsPattern.isMatch text
    exportAll := stars.any fun m => (m.group? 1).isNone
    named := names.foldl (fun ns n => insertName (String.ofList n) ns) [] }

/-- Whether a name is exported; `none` where that cannot be known. -/
def exports? (d : TypeDefinition) (name : String) : Option Bool :=
  if d.named.contains name then some true
  else if d.exportAll || d.exportEquals then none
  else some false

def typesOfManifest? (text : String) : Option Text := do
  let manifest ← Json.parseShallow? text.toList
  let types ← (manifest.get? "types").or (manifest.get? "typings")
  return (← types.str?).toList

section

variable {m : Type → Type} [Monad m] (files : FileAccess m)

/-- Declaration files of a package as a whole, in the order of preference: the one its manifest
names, its index, any other in its directory, and the index of the separate declarations. -/
def packageCandidates (own typed : Path) : m (List Path) := do
  let manifest ← files.read? (own.joinString "package.json")
  let types := manifest.bind typesOfManifest?
  let named := (types.map fun t => (own.join ⟨t⟩).normalize).toList
  let others ← if ← files.isDirectory own then
    files.list (Glob.escape own.text ++ "/*.d.ts".toList) else pure []
  return named ++ own.joinString "index.d.ts" :: others ++ [typed.joinString "index.d.ts"]

def moduleCandidates (own typed : Path) (subpath : Text) : List Path :=
  [own, typed].flatMap fun base =>
    [base.join ⟨subpath ++ ".d.ts".toList⟩, (base.join ⟨subpath⟩).joinString "index.d.ts"]

def readFirst? : List Path → m (Option TypeDefinition)
  | [] => pure none
  | p :: ps => do
    match ← files.read? p with
    | some text => pure (some (parse p text.toList))
    | none => readFirst? ps

def findIn? (package : Text) (subpath : Option Text) : List Path → m (Option TypeDefinition)
  | [] => pure none
  | d :: ds => do
    let modules := d.joinString "node_modules"
    if ← files.isDirectory modules then
      let own := modules.join ⟨package⟩
      let typed := (modules.joinString "@types").join ⟨typesPackageName package⟩
      let candidates ← match subpath with
        | some sub => pure (moduleCandidates own typed sub)
        | none => packageCandidates files own typed
      match ← readFirst? files candidates with
      | some found => pure (some found)
      | none => findIn? package subpath ds
    else findIn? package subpath ds

def find? (specifier : Text) (directory : Path) : m (Option TypeDefinition) :=
  match splitPackage? specifier with
  | some (package, subpath) => findIn? files package subpath directory.normalize.ancestors
  | none => pure none

end

end TypeDefinition

end ScriptLint
