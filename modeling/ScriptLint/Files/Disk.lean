import ScriptLint.Files.Access
import ScriptLint.Files.Glob

/-! A tree of files with a working directory. Paths are followed step by step, from the root or from
the working directory, so every directory on the way has to exist. -/
namespace ScriptLint

/-- A place below the working directory, by the names that lead there, or any other place, by the
names that lead there from the root. -/
inductive Location where
  | inside (names : List Text)
  | outside (names : List Text)
  deriving DecidableEq, Repr

inductive FileError where
  | notFound
  | notADirectory
  | isADirectory
  | nameTooLong
  | notText
  deriving DecidableEq, Repr

def FileError.message : FileError → String
  | notFound => "No such file or directory (os error 2)"
  | notADirectory => "Not a directory (os error 20)"
  | isADirectory => "Is a directory (os error 21)"
  | nameTooLong => "File name too long (os error 36)"
  | notText => "stream did not contain valid UTF-8"

structure Disk where
  /-- Names that lead from the root to the working directory. -/
  working : List Text
  files : List (Location × ByteArray)
  directories : List Location

namespace Disk

def empty : Disk := ⟨["work".toList], [], []⟩

def place (d : Disk) (names : List Text) : Location :=
  if d.working.isPrefixOf names then .inside (names.drop d.working.length) else .outside names

def namesOf (d : Disk) : Location → List Text
  | .inside names => d.working ++ names
  | .outside names => names

def fileAt? (d : Disk) (l : Location) : Option ByteArray := d.files.lookup l

/-- The working directory and those above it are always there. -/
def isDirectoryAt (d : Disk) (l : Location) : Bool :=
  (d.namesOf l).isPrefixOf d.working || d.directories.contains l

def step (d : Disk) (names : List Text) (segment : Text) : Except FileError (List Text) :=
  if (d.fileAt? (d.place names)).isSome then .error .notADirectory
  else if !d.isDirectoryAt (d.place names) then .error .notFound
  else if segment = [] || segment = ['.'] then .ok names
  else if segment = ['.', '.'] then .ok names.dropLast
  else .ok (names ++ [segment])

def maxPathSize : Nat := 4096

/-- Names from the root to what a path leads to, which need not exist. -/
def follow (d : Disk) (p : Path) : Except FileError (List Text) :=
  if p.text.isEmpty then .error .notFound
  else if maxPathSize ≤ p.text.size then .error .nameTooLong
  else (Text.splitWhere Path.isSeparator p.text).foldlM d.step
    (if p.isAbsolute then [] else d.working)

def locate (d : Disk) (p : Path) : Except FileError Location := d.place <$> d.follow p

def isDirectory (d : Disk) (p : Path) : Bool :=
  match d.locate p with
  | .ok l => d.isDirectoryAt l
  | .error _ => false

def isFile (d : Disk) (p : Path) : Bool :=
  match d.locate p with
  | .ok l => (d.fileAt? l).isSome
  | .error _ => false

def exists? (d : Disk) (p : Path) : Bool := d.isFile p || d.isDirectory p

def readBytes (d : Disk) (p : Path) : Except FileError ByteArray := do
  let l ← d.locate p
  if d.isDirectoryAt l then .error .isADirectory
  else match d.fileAt? l with
    | some bytes => .ok bytes
    | none => .error .notFound

def readText (d : Disk) (p : Path) : Except FileError String := do
  match String.fromUTF8? (← d.readBytes p) with
  | some text => .ok text
  | none => .error .notText

def put (l : Location) (bytes : ByteArray) : List (Location × ByteArray) →
    List (Location × ByteArray)
  | [] => [(l, bytes)]
  | f :: fs => if f.1 = l then (l, bytes) :: fs else f :: put l bytes fs

def write (d : Disk) (p : Path) (text : Text) : Disk :=
  match d.locate p with
  | .ok l => { d with files := put l (String.ofList text).toUTF8 d.files }
  | .error _ => d

/-- Names from the root to what a path describes, whether the directories on the way exist or not. -/
def describedBy (d : Disk) (p : Path) : List Text :=
  p.components.foldl (fun names c =>
    match c with
    | .root => []
    | .current => names
    | .parent => names.dropLast
    | .name n => names ++ [n]) d.working

def makeDirectory (d : Disk) (names : List Text) : Disk :=
  let above := (List.range (names.length + 1)).map fun n => d.place (names.take n)
  { d with directories := (d.directories ++ above.filter fun l => !d.isDirectoryAt l).eraseDups }

def addFile (d : Disk) (p : Path) (bytes : ByteArray) : Disk :=
  let names := d.describedBy p
  let d := d.makeDirectory names.dropLast
  { d with files := put (d.place names) bytes d.files }

def addDirectory (d : Disk) (p : Path) : Disk := d.makeDirectory (d.describedBy p)

def pathOf : Location → Path
  | .inside names => ⟨List.intercalate ['/'] names⟩
  | .outside names => ⟨'/' :: List.intercalate ['/'] names⟩

/-! Listing. -/

def directoryNames (d : Disk) : List (List Text) :=
  ((List.range (d.working.length + 1)).map fun n => d.working.take n) ++
    d.directories.map d.namesOf

/-- The path of an entry of a directory. The dot of the working directory is left out. -/
def entry (directory : Path) (name : Text) : Path :=
  if directory.components = [.current] then ⟨name⟩ else directory.join ⟨name⟩

def entries (d : Disk) (directory : Path) : List Text :=
  match d.follow directory with
  | .ok names =>
    let all := d.files.map (fun f => d.namesOf f.1) ++ d.directoryNames
    ((all.filter fun n => !n.isEmpty && n.dropLast == names).filterMap List.getLast?).eraseDups
  | .error _ => []

def directoriesFrom (d : Disk) (directory : Path) : List Path :=
  match d.follow directory with
  | .ok names =>
    ((d.directoryNames.filter fun n => names.isPrefixOf n).eraseDups).map fun n =>
      (n.drop names.length).foldl entry directory
  | .error _ => []

/-- The name that a part of a pattern stands for, if it has no wildcards. -/
def literal? (part : List Glob.Piece) : Option Text :=
  part.mapM fun p =>
    match p with
    | .char c => some c
    | _ => none

/-- Dots are looked for only if the part begins with one. -/
def dots (part : List Glob.Piece) : List Text :=
  if part.head? = some (.char '.') then [['.'], ['.', '.']].filter (Glob.isMatch part) else []

/-- What the parts of a pattern lead to from a directory. A name without wildcards is followed, also
if it is dots, but behind any number of directories all names are looked for. -/
def expand (d : Disk) : List (List Glob.Piece) → Path → List Path
  | [], p => [p]
  | [.anyDirectories] :: [.anyDirectories] :: parts, p => d.expand ([.anyDirectories] :: parts) p
  | [.anyDirectories] :: part :: parts, p =>
    (d.directoriesFrom p).flatMap fun q =>
      ((d.entries q).filter (Glob.isMatch part)).flatMap fun n => d.expand parts (entry q n)
  | [[.anyDirectories]], _ => []
  | part :: parts, p =>
    let next := match literal? part with
      | some name => [entry p name]
      | none =>
        ((d.entries p).filter (Glob.isMatch part)).map (entry p) ++
          (dots part).map fun n => p.join ⟨n⟩
    (next.filter d.exists?).flatMap (d.expand parts)

/-- Files that match a pattern, in the order of paths. A wildcard stays inside one name. -/
def list (d : Disk) (pattern : Text) : List Path :=
  let isAbsolute := (Path.mk pattern).isAbsolute
  let parts := Text.splitWhere Path.isSeparator (if isAbsolute then pattern.tail else pattern)
  match Glob.parse? pattern, parts.mapM Glob.parse? with
  | some _, some parts =>
    ((d.expand parts ⟨if isAbsolute then ['/'] else ['.']⟩).filter d.isFile).mergeSort Path.le
  | _, _ => []

def access (d : Disk) : FileSystem where
  exists? p := d.exists? p
  isDirectory p := d.isDirectory p
  read? p := (d.readText p).toOption
  list pattern := d.list pattern

end Disk

end ScriptLint
