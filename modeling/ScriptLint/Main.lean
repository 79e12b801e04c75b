import ScriptLint.CommandLine

/-! The program: reads the working directory, carries out the command, writes what has changed. -/
namespace ScriptLint

/-- Reads an entry of a directory, and what is below it. Files that cannot be read are left out. -/
partial def readEntry (directory : String) (disk : Disk) (entry : IO.FS.DirEntry) : IO Disk := do
  let path := directory ++ entry.fileName
  if ← entry.path.isDir then
    let disk := disk.addDirectory (.ofString path)
    (← entry.path.readDir).foldlM (readEntry (path ++ "/")) disk
  else
    try return disk.addFile (.ofString path) (← IO.FS.readBinFile entry.path)
    catch _ => return disk

def readDisk : IO Disk := do
  let directory ← IO.currentDir
  let names := Text.splitWhere Path.isSeparator directory.toString.toList
  (← directory.readDir).foldlM (readEntry "") ⟨names.filter fun n => !n.isEmpty, [], []⟩

def writeChanges (before after : Disk) : IO Unit := do
  for (l, bytes) in after.files do
    if before.fileAt? l != some bytes then
      IO.FS.writeBinFile (Disk.pathOf l).toString bytes

def usage : String :=
  "Usage: jstyle [--config PATH] (check [FILES] | fix [FILES] | rules | schema [RULE])"

def reportUsage (e : UsageError) : IO UInt32 := do
  match e with
  | .displayHelp => IO.println usage; return 0
  | .displayVersion => IO.println "jstyle 0.1.0"; return 0
  | _ => IO.eprintln usage; return 2

def runProgram (arguments : List String) : IO UInt32 := do
  match CommandLine.parse arguments with
  | .error e => reportUsage e
  | .ok invocation =>
    let disk ← readDisk
    match CommandLine.run disk invocation with
    | .error e => IO.eprintln e.message; return 1
    | .ok (after, report) =>
      writeChanges disk after
      IO.print report.stdout
      IO.eprint report.stderr
      return if report.success then 0 else 1

end ScriptLint

def main (arguments : List String) : IO UInt32 := ScriptLint.runProgram arguments
