import ScriptLint.Path

/-! Questions that may be asked about files. A file that cannot be read counts as missing. -/
namespace ScriptLint

/-- Answers come in a monad, so that asking may change what is remembered. -/
structure FileAccess (m : Type → Type) where
  exists? : Path → m Bool
  isDirectory : Path → m Bool
  read? : Path → m (Option String)
  /-- Files that match a wildcard pattern, in the order of paths. -/
  list : Text → m (List Path)

abbrev FileSystem := FileAccess Id

end ScriptLint
