import ScriptLint.Files.Disk
import ScriptLint.Shell.Checksum

/-! Programs that commands may name. They read files and their input, and print. -/
namespace ScriptLint.Shell

structure Result where
  output : List UInt8
  code : Nat

namespace Result

def success (output : List UInt8) : Result := ⟨output, 0⟩

def failure (code : Nat) : Result := ⟨[], code⟩

def isSuccess (r : Result) : Bool := r.code == 0

end Result

structure Call where
  disk : Disk
  arguments : List Text
  input : List UInt8

def bytesOf (t : Text) : List UInt8 := (String.ofList t).toUTF8.toList

def nat? (t : Text) : Option Nat :=
  if !t.isEmpty && t.all Char.isDigit then
    some (t.foldl (fun n c => n * 10 + (c.toNat - 48)) 0)
  else none

/-- Contents of a file; a dash is the input. -/
def Call.read? (c : Call) (name : Text) : Option (List UInt8) :=
  if name = ['-'] then some c.input
  else match c.disk.readBytes ⟨name⟩ with
    | .ok bytes => some bytes.toList
    | .error _ => none

def Call.overFiles (c : Call) (names : List Text) (f : Option Text → List UInt8 → List UInt8) :
    Result :=
  match names with
  | [] => .success (f none c.input)
  | names =>
    let outputs := names.map fun n => (c.read? n).map (f (some n))
    ⟨(outputs.filterMap fun o => o).flatten, if outputs.all Option.isSome then 0 else 1⟩

namespace Tool

def cat (c : Call) : Result := c.overFiles c.arguments fun _ bytes => bytes

def echo (c : Call) : Result :=
  match c.arguments with
  | ['-', 'n'] :: rest => .success (bytesOf (List.intercalate [' '] rest))
  | arguments => .success (bytesOf (List.intercalate [' '] arguments ++ ['\n']))

def unescape : List Char → Text
  | '\\' :: 'n' :: t => '\n' :: unescape t
  | '\\' :: 't' :: t => '\t' :: unescape t
  | '\\' :: 'r' :: t => '\r' :: unescape t
  | '\\' :: '\\' :: t => '\\' :: unescape t
  | c :: t => c :: unescape t
  | [] => []

/-- As `echo`, inside scripts, where escapes are replaced. -/
def scriptEcho (c : Call) : Result := echo { c with arguments := c.arguments.map unescape }

/-- Fills a format; each `%s` takes an argument. -/
def fillFormat : List Char → List Text → Text
  | [], _ => []
  | '\\' :: 'n' :: t, args => '\n' :: fillFormat t args
  | '\\' :: 't' :: t, args => '\t' :: fillFormat t args
  | '\\' :: '\\' :: t, args => '\\' :: fillFormat t args
  | '%' :: '%' :: t, args => '%' :: fillFormat t args
  | '%' :: 's' :: t, args => args.headD [] ++ fillFormat t args.tail
  | c :: t, args => c :: fillFormat t args

def printf (c : Call) : Result :=
  match c.arguments with
  | format :: args => .success (bytesOf (fillFormat format args))
  | [] => .failure 2

def cksum (c : Call) : Result :=
  c.overFiles c.arguments fun name bytes =>
    let label := match name with
      | some n => ' ' :: n
      | none => []
    bytesOf (s!"{(checksum bytes).toNat} {bytes.length}".toList ++ label ++ ['\n'])

def firstLines : Nat → List UInt8 → List UInt8
  | 0, _ => []
  | _, [] => []
  | n + 1, b :: bs => b :: firstLines (if b = 10 then n else n + 1) bs

structure HeadOptions where
  bytes : Bool := false
  count : Nat := 10

def headOptions? (o : HeadOptions) : List Text → Option (HeadOptions × List Text)
  | ['-', 'n'] :: n :: rest => (nat? n).bind fun n => headOptions? ⟨false, n⟩ rest
  | ['-', 'c'] :: n :: rest => (nat? n).bind fun n => headOptions? ⟨true, n⟩ rest
  | ('-' :: 'n' :: n) :: rest => (nat? n).bind fun n => headOptions? ⟨false, n⟩ rest
  | ('-' :: 'c' :: n) :: rest => (nat? n).bind fun n => headOptions? ⟨true, n⟩ rest
  | ('-' :: d :: n) :: rest => (nat? (d :: n)).bind fun n => headOptions? ⟨false, n⟩ rest
  | names => some (o, names)

def head (c : Call) : Result :=
  match headOptions? {} c.arguments with
  | none => .failure 1
  | some (o, names) =>
    let take (bytes : List UInt8) :=
      if o.bytes then bytes.take o.count else firstLines o.count bytes
    match names with
    | [] | [_] => c.overFiles names fun _ bytes => take bytes
    | first :: _ =>
      c.overFiles names fun name bytes =>
        let n := name.getD []
        let title := "==> ".toList ++ n ++ " <==\n".toList
        bytesOf (if n = first then title else '\n' :: title) ++ take bytes

def splitBytes (d : UInt8) : List UInt8 → List (List UInt8)
  | [] => [[]]
  | b :: bs =>
    match splitBytes d bs with
    | [] => [[b]]
    | w :: ws => if b = d then [] :: w :: ws else (b :: w) :: ws

def fieldSet? (t : Text) : Option (List (Nat × Option Nat)) :=
  (Text.splitWhere (fun c => c == ',') t).mapM fun part =>
    match Text.cut? ['-'] part with
    | none => (nat? part).map fun n => (n, some n)
    | some ([], high) => (nat? high).map fun n => (1, some n)
    | some (low, []) => (nat? low).map fun n => (n, none)
    | some (low, high) => (nat? low).bind fun l => (nat? high).map fun h => (l, some h)

structure CutOptions where
  delimiter : Text := ['\t']
  fields : Option Text := none

def cutOptions (o : CutOptions) : List Text → CutOptions × List Text
  | ['-', 'd'] :: d :: rest => cutOptions { o with delimiter := d } rest
  | ['-', 'f'] :: f :: rest => cutOptions { o with fields := some f } rest
  | ('-' :: 'd' :: d) :: rest => cutOptions { o with delimiter := d } rest
  | ('-' :: 'f' :: f) :: rest => cutOptions { o with fields := some f } rest
  | names => (o, names)

/-- Fields of each line; a line without the delimiter is kept as it is. -/
def cutLine (d : UInt8) (fields : List (Nat × Option Nat)) (line : List UInt8) : List UInt8 :=
  if !line.contains d then line
  else
    let chosen := (splitBytes d line).zipIdx.filter fun (_, i) =>
      fields.any fun (low, high) => low ≤ i + 1 && high.all fun h => i + 1 ≤ h
    List.intercalate [d] (chosen.map Prod.fst)

def cut (c : Call) : Result :=
  let (o, names) := cutOptions {} c.arguments
  match bytesOf o.delimiter, o.fields.bind fieldSet? with
  | [d], some fields =>
    c.overFiles names fun _ bytes =>
      let lines := splitBytes 10 bytes
      let lines := if lines.getLast? = some [] then lines.dropLast else lines
      lines.flatMap fun l => cutLine d fields l ++ [10]
  | _, _ => .failure 1

def find? (name : Text) : Option (Call → Result) :=
  let base := ((Text.dropPrefix? name "/bin/".toList).or
    (Text.dropPrefix? name "/usr/bin/".toList)).getD name
  match String.ofList base with
  | "cat" => some cat
  | "echo" => some echo
  | "printf" => some printf
  | "cksum" => some cksum
  | "head" => some head
  | "cut" => some cut
  | "true" => some fun _ => .success []
  | "false" => some fun _ => .failure 1
  | _ => none

def findInScript? (name : Text) : Option (Call → Result) :=
  if name = "echo".toList then some scriptEcho
  else if name = [':'] then some fun _ => .success []
  else find? name

end Tool

end ScriptLint.Shell
