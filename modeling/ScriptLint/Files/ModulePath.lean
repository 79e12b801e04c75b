import ScriptLint.Files.Access

/-! Names of modules: specifiers, file extensions, index modules and packages. -/
namespace ScriptLint

def moduleExtensions : List String := ["js", "jsx", "mjs", "cjs", "ts", "tsx", "mts", "cts"]

def isRelativeSpecifier (s : Text) : Bool :=
  s == ['.'] || s == ['.', '.'] || Text.startsWith s ['.', '/'] || Text.startsWith s ['.', '.', '/']

namespace Path

def hasModuleExtension (p : Path) : Bool :=
  p.extension?.any fun ext => moduleExtensions.contains (String.ofList ext)

def stripModuleExtension (p : Path) : Path := if p.hasModuleExtension then p.dropExtension else p

/-- The name by which a module is known: that of its file, or that of its directory if the file is
an index. -/
def moduleBaseName? (p : Path) : Option Text :=
  let p := p.stripModuleExtension
  p.fileName?.bind fun stem =>
    if stem = "index".toList then p.parent?.bind Path.fileName? else some stem

def sidecar (p : Path) : Path := ⟨p.text ++ ".ast.json".toList⟩

end Path

namespace FileAccess

variable {m : Type → Type} [Monad m] (files : FileAccess m)

def hasIndexModule (directory : Path) : m Bool := do
  if ← files.isDirectory directory then
    moduleExtensions.anyM fun ext => files.exists? (directory.joinString s!"index.{ext}")
  else return false

def hasModuleFile (path : Path) : m Bool :=
  match path.fileName? with
  | some name =>
    moduleExtensions.anyM fun ext =>
      files.exists? (path.withFileName s!"{String.ofList name}.{ext}")
  | none => pure false

end FileAccess

/-- Cuts a specifier into the name of its package and what follows; the name of a package in a scope
has two parts. -/
def splitPackage? (specifier : Text) : Option (Text × Option Text) :=
  let cut (s : Text) : Text × Option Text :=
    match Text.cut? ['/'] s with
    | some (before, after) => (before, some after)
    | none => (s, none)
  match specifier with
  | [] => none
  | '.' :: _ => none
  | '/' :: _ => none
  | '@' :: _ =>
    match cut specifier with
    | (_, none) => none
    | (scope, some rest) =>
      let (name, subpath) := cut rest
      some (scope ++ '/' :: name, subpath)
  | _ => some (cut specifier)

def typesPackageName (package : Text) : Text :=
  match package with
  | '@' :: inner =>
    match Text.cut? ['/'] inner with
    | some (scope, name) => scope ++ ['_', '_'] ++ name
    | none => inner
  | _ => package

end ScriptLint
