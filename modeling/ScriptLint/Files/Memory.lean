import ScriptLint.Files.Access
import ScriptLint.Files.Glob

/-! Files held in memory. Directories exist as far as there are files in them. -/
namespace ScriptLint

structure MemoryFiles where
  /-- Normalized paths with contents, in the order of paths. -/
  files : List (Path × String)
  directories : List Path
  deriving Repr

namespace MemoryFiles

def empty : MemoryFiles := ⟨[], []⟩

def insertFile (path : Path) (contents : String) : List (Path × String) → List (Path × String)
  | [] => [(path, contents)]
  | (p, c) :: rest =>
    if p = path then (path, contents) :: rest
    else if path.le p then (path, contents) :: (p, c) :: rest
    else (p, c) :: insertFile path contents rest

def add (m : MemoryFiles) (path : Path) (contents : String) : MemoryFiles :=
  let path := path.normalize
  let above := (path.ancestors.drop 1).takeWhile fun p => !p.text.isEmpty
  ⟨insertFile path contents m.files, (m.directories ++ above).eraseDups⟩

def isDirectory (m : MemoryFiles) (path : Path) : Bool := m.directories.contains path.normalize

def read? (m : MemoryFiles) (path : Path) : Option String := m.files.lookup path.normalize

def exists? (m : MemoryFiles) (path : Path) : Bool :=
  (m.read? path).isSome || m.isDirectory path

/-- A pattern is matched against the whole path, so a wildcard may run over separators. -/
def list (m : MemoryFiles) (pattern : Text) : List Path :=
  match Glob.parse? pattern with
  | some pieces => (m.files.map Prod.fst).filter fun p => Glob.isMatch pieces p.text
  | none => []

def access (m : MemoryFiles) : FileSystem := ⟨m.exists?, m.isDirectory, m.read?, m.list⟩

end MemoryFiles

end ScriptLint
