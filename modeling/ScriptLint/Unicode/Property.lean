import ScriptLint.Unicode.Age
import ScriptLint.Unicode.Segment

/-! Properties of characters by their names. -/
namespace ScriptLint.Unicode

/-- The letters that count in the name of a property. Names are compared without case, blanks,
dashes, underscores and what is not of ASCII, and without `is` in front, which is kept in one name
that would be another one without. -/
def looseName (s : List Char) : String :=
  let plain (s : List Char) : List Char :=
    (s.filter fun c => c.toNat < 128 && !(c == ' ' || c == '-' || c == '_')).map Char.toLower
  match s with
  | i :: s' :: rest =>
    if (i == 'i' || i == 'I') && (s' == 's' || s' == 'S') then
      String.ofList (if plain rest == ['c'] then ['i', 's', 'c'] else plain rest)
    else String.ofList (plain s)
  | s => String.ofList (plain s)

def Script.isNamed (s : Script) (name : String) : Bool :=
  looseName s.code.toList == name || looseName s.name.toList == name ||
    (s.code == "Copt" && name == "qaac") || (s.code == "Zinh" && name == "qaai")

def script? (name : String) : Option Script := scripts.find? fun s => s.isNamed name

def isVersionName (name version : String) : Bool :=
  name == version || name == "v" ++ String.ofList (version.toList.filter fun c => c != '.')

/-- Characters of a property that is given by one name. Short names of categories come before those
of properties that are no sets. -/
def property? (name : List Char) : Option CodeSet :=
  let name := looseName name
  match binary? name with
  | some s => some s
  | none =>
    match category? name with
    | some s => some s
    | none => (script? name).map Script.chars

def propertyValue? (property value : List Char) : Option CodeSet :=
  let value := looseName value
  match looseName property with
  | "gc" | "generalcategory" => category? value
  | "sc" | "script" => (script? value).map Script.chars
  | "scx" | "scriptextensions" => (script? value).map Script.extended
  | "age" => upToVersion? (isVersionName value)
  | "gcb" | "graphemeclusterbreak" => graphemeBreak? value
  | "wb" | "wordbreak" => wordBreak? value
  | "sb" | "sentencebreak" => sentenceBreak? value
  | _ => none

end ScriptLint.Unicode
