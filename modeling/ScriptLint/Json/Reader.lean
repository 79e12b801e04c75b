import ScriptLint.Json.Token

/-! Reads a JSON text. Open arrays and objects are kept on a stack of their own, so a document may
be nested as deeply as memory allows. -/
namespace ScriptLint.Json

inductive Frame where
  | array (items : List Json)
  | object (entries : List (String × Json)) (key : String)

/-- What the text may go on with. -/
inductive Expect where
  | value
  /-- A value or the end of an array just opened. -/
  | valueOrClose
  | key
  /-- A key or the end of an object just opened. -/
  | keyOrClose
  | colon (key : String)
  /-- A comma or the end of the innermost open array or object. -/
  | separator
  | nothing (result : Json)

structure ReadState where
  frames : List Frame
  /-- Entries of the innermost object, while it waits for a key. -/
  entries : List (String × Json)
  expect : Expect

namespace ReadState

def start : ReadState := ⟨[], [], .value⟩

def complete (v : Json) : List Frame → ReadState
  | [] => ⟨[], [], .nothing v⟩
  | .array items :: fs => ⟨.array (v :: items) :: fs, [], .separator⟩
  | .object entries key :: fs => ⟨.object ((key, v) :: entries) key :: fs, [], .separator⟩

def openValue (frames : List Frame) : Token → Option ReadState
  | .value v => some (complete v frames)
  | .openBracket => some ⟨.array [] :: frames, [], .valueOrClose⟩
  | .openBrace => some ⟨frames, [], .keyOrClose⟩
  | _ => none

def step (s : ReadState) (t : Token) : Option ReadState :=
  match s.expect, t with
  | .value, t => openValue s.frames t
  | .valueOrClose, .closeBracket => some (complete (.arr []) s.frames.tail)
  | .valueOrClose, t => openValue s.frames t
  | .keyOrClose, .closeBrace => some (complete (.obj []) s.frames)
  | .keyOrClose, .value (.str key) => some { s with expect := .colon key }
  | .key, .value (.str key) => some { s with expect := .colon key }
  | .colon key, .colon => some ⟨.object s.entries key :: s.frames, [], .value⟩
  | .separator, .comma =>
    match s.frames with
    | .array items :: fs => some ⟨.array items :: fs, [], .value⟩
    | .object entries _ :: fs => some ⟨fs, entries, .key⟩
    | [] => none
  | .separator, .closeBracket =>
    match s.frames with
    | .array items :: fs => some (complete (.arr items.reverse) fs)
    | _ => none
  | .separator, .closeBrace =>
    match s.frames with
    | .object entries _ :: fs => some (complete (.obj (Object.ofList entries.reverse)) fs)
    | _ => none
  | _, _ => none

def run (s : ReadState) : List Token → Option ReadState
  | [] => some s
  | t :: ts => (s.step t).bind fun s => run s ts

end ReadState

def parse? (text : List Char) : Option Json := do
  let tokens ← Token.ofText text
  match ← ReadState.start.run tokens with
  | ⟨_, _, .nothing v⟩ => some v
  | _ => none

/-- Keys of the outermost object in the order of the text, repeated ones included. `depth` is the
number of brackets open before the rest, `previous` the token before it. -/
def outerKeysFrom (depth : Nat) (previous : Token) : List Token → List String
  | [] => []
  | t :: ts =>
    match t, previous with
    | .openBrace, _ | .openBracket, _ => outerKeysFrom (depth + 1) t ts
    | .closeBrace, _ | .closeBracket, _ => outerKeysFrom (depth - 1) t ts
    | .colon, .value (.str key) =>
      if depth = 1 then key :: outerKeysFrom depth t ts else outerKeysFrom depth t ts
    | _, _ => outerKeysFrom depth t ts

def outerKeys (text : List Char) : List String :=
  match Token.ofText text with
  | some tokens => outerKeysFrom 0 .comma tokens
  | none => []

def maxDepth : Nat := 127

/-- As `parse?`, for texts that are not nested deeply. -/
def parseShallow? (text : List Char) : Option Json :=
  (parse? text).filter fun v => v.depth ≤ maxDepth

end ScriptLint.Json
