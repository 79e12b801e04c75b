import ScriptLint.Files.Memory
import ScriptLint.TypeDefinition

/-! Files whose answers are remembered. What was asked once is answered the same way later, also if
the files have changed. -/
namespace ScriptLint

structure FileCache where
  existing : List (List Path.Component × Bool)
  directories : List (List Path.Component × Bool)
  contents : List (List Path.Component × Option String)
  listings : List (Text × List Path)
  /-- Declarations by specifier and directory. -/
  declarations : List ((Text × List Path.Component) × Option TypeDefinition)

namespace FileCache

def empty : FileCache := ⟨[], [], [], [], []⟩

/-- Forgets what was read, but not which files there are. -/
def forgetContents (c : FileCache) : FileCache := { c with contents := [], declarations := [] }

def forgetDeclarations (c : FileCache) : FileCache := { c with declarations := [] }

end FileCache

abbrev Cached := StateM FileCache

namespace Cached

def remember {κ α : Type} [BEq κ] (entries : FileCache → List (κ × α)) (key : κ) (answer : α)
    (store : FileCache → List (κ × α) → FileCache) : Cached α := do
  match (entries (← get)).lookup key with
  | some hit => return hit
  | none =>
    modify fun c => store c ((key, answer) :: entries c)
    return answer

def access (files : FileSystem) : FileAccess Cached where
  exists? p := remember FileCache.existing p.components (files.exists? p)
    fun c es => { c with existing := es }
  isDirectory p := remember FileCache.directories p.components (files.isDirectory p)
    fun c es => { c with directories := es }
  read? p := remember FileCache.contents p.components (files.read? p)
    fun c es => { c with contents := es }
  list pattern := remember FileCache.listings pattern (files.list pattern)
    fun c es => { c with listings := es }

def declarations (files : FileSystem) (specifier : Text) (directory : Path) :
    Cached (Option TypeDefinition) := do
  let key := (specifier, directory.components)
  match (← get).declarations.lookup key with
  | some hit => return hit
  | none =>
    let found ← TypeDefinition.find? (access files) specifier directory
    modify fun c => { c with declarations := (key, found) :: c.declarations }
    return found

end Cached

end ScriptLint
