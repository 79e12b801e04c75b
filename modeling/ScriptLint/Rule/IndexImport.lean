import ScriptLint.ModuleRequest
import ScriptLint.Regex.Parser
import ScriptLint.Rule.Basic

/-! Imports of modules that stand for their directory: they are named by the directory, and other
modules of the directory are imported through them. -/
namespace ScriptLint

def indexDirectory? (specifier : Text) : Option Text :=
  let suffixes := "/index" :: moduleExtensions.map fun ext => s!"/index.{ext}"
  let directory := suffixes.findSome? fun suffix => specifier.dropSuffix? suffix.toList
  directory.filter fun d => !d.isEmpty && d.all fun c => c != '\n'

def isOnlyDots (specifier : Text) : Bool :=
  (Text.splitWhere Path.isSeparator specifier).all fun s => s == ['.'] || s == ['.', '.']

namespace IndexImportPath

def checkNode (files : FileSystem) (f : SourceFile) (id : NodeId) : Option Finding := do
  let request ← f.tree.moduleRequest? id
  let directory ← indexDirectory? request.specifier.toList
  let resolved := f.resolveSpecifier directory
  if !isRelativeSpecifier request.specifier.toList || isOnlyDots directory then none
  else if !Id.run (files.hasIndexModule resolved) || Id.run (files.hasModuleFile resolved) then none
  else
    let name := String.ofList directory
    return ⟨f.tree.span request.literal, s!"Import \"{name}\" instead of \"{request.specifier}\".",
      some (.safe (f.replaceString request.literal directory) s!"Import \"{name}\".")⟩

def check (_ : Unit) (files : FileSystem) (f : SourceFile) : List Finding :=
  f.tree.preorder.filterMap (checkNode files f)

def rule : Rule :=
  .of ⟨"JS-STYLE-PATH-001", "index-import-path", "Imports of index modules name the directory.",
      true⟩
    (Schema.object []) () noOptions? check

end IndexImportPath

namespace Path

def commonComponents : List Component → List Component → List Component
  | a :: as, b :: bs => if a = b then a :: commonComponents as bs else []
  | _, _ => []

def namesOf (cs : List Component) : Text :=
  List.intercalate ['/'] (cs.filterMap fun c =>
    match c with
    | .name n => some n
    | _ => none)

/-- The specifier that leads from one directory to another, where the first `shared` components of
both are the same. -/
def relativeSpecifier (importer directory : Path) (shared : Nat) : Text :=
  let ups := importer.components.length - shared
  let lead := if ups = 0 then ['.', '/'] else (List.replicate ups ['.', '.', '/']).flatten
  lead ++ namesOf (directory.components.drop shared)

end Path

namespace NearestIndexImport

def takesOnlyNames (t : Tree) (id : NodeId) : Bool :=
  match t.kind id with
  | .importDeclaration specifiers _ =>
    !specifiers.isEmpty && specifiers.all fun s =>
      match t.kind s with
      | .importSpecifier .. => true
      | _ => false
  | .exportNamedDeclaration _ specifiers _ => !specifiers.isEmpty
  | _ => false

def exportAllPattern : Regex := .known "\\bexport\\s*\\*\\s*from\\s*['\"]([^'\"]+)['\"]"

def reexportsAll (files : FileSystem) (directory target : Path) : Bool :=
  let index := moduleExtensions.findSome? fun ext =>
    Id.run (files.read? (directory.joinString s!"index.{ext}"))
  index.any fun text => (exportAllPattern.findAll text.toList).any fun m =>
    isRelativeSpecifier (m.group 1) &&
      (directory.join ⟨m.group 1⟩).normalize.stripModuleExtension.same target

/-- The directory nearest to a module that has an index, of those that do not enclose the
importer. -/
def nearestIndex? (files : FileSystem) (target : Path) (shared : List Path.Component) :
    Option Path :=
  let inner := (target.ancestors.drop 1).takeWhile fun p =>
    shared.isPrefixOf p.components && p.components != shared
  inner.find? fun p => Id.run (files.hasIndexModule p)

def checkNode (files : FileSystem) (f : SourceFile) (id : NodeId) : Option Finding := do
  let request ← f.tree.moduleRequest? id
  let specifier := request.specifier.toList
  let target := (f.resolveSpecifier specifier).stripModuleExtension
  let name ← target.fileName?
  if !isRelativeSpecifier specifier || name = "index".toList then none
  else if Id.run (files.isDirectory target) || !Id.run (files.hasModuleFile target) then none
  else
    let shared := Path.commonComponents f.directory.components target.components
    let index ← nearestIndex? files target shared
    let replacement := f.directory.relativeSpecifier index shared.length
    let isSafe := takesOnlyNames f.tree id && reexportsAll files index target
    let text := String.ofList replacement
    return ⟨f.tree.span request.literal,
      s!"Import \"{text}\" instead of reaching into \"{request.specifier}\".",
      some (.checked isSafe (f.replaceString request.literal replacement) s!"Import \"{text}\".")⟩

def check (_ : Unit) (files : FileSystem) (f : SourceFile) : List Finding :=
  f.tree.preorder.filterMap (checkNode files f)

def rule : Rule :=
  .of ⟨"JS-STYLE-PATH-002", "nearest-index-import",
      "Imports from other directories go through their nearest index module.", true⟩
    (Schema.object []) () noOptions? check

end NearestIndexImport

end ScriptLint
