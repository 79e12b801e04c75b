import ScriptLint.Json.Basic

/-! Reading values of known shapes out of JSON. A record may be given as an object with its fields,
and no others, or as an array of its fields in order. -/
namespace ScriptLint.Json

inductive Presence where
  | required
  /-- May be missing from an object, but not from an array. -/
  | nullable
  | defaulted
  deriving DecidableEq, Repr

abbrev Fields := List (String × Presence)

def fieldsOfObject (fields : Fields) (o : Object) : Option (List (Option Json)) :=
  if o.all fun e => fields.any fun f => f.1 == e.1 then
    fields.mapM fun f =>
      match Object.get? o f.1 with
      | some v => some (some v)
      | none => if f.2 = .required then none else some none
  else none

def fieldsOfItems : Fields → List Json → Option (List (Option Json))
  | [], [] => some []
  | [], _ :: _ => none
  | _ :: fields, v :: items => (fieldsOfItems fields items).map (some v :: ·)
  | f :: fields, [] =>
    if f.2 = .defaulted then (fieldsOfItems fields []).map (none :: ·) else none

/-- The values of a record's fields, where missing ones are `none`. -/
def record? (fields : Fields) : Json → Option (List (Option Json))
  | obj o => fieldsOfObject fields o
  | arr items => fieldsOfItems fields items
  | _ => none

def list? (f : Json → Option α) (v : Json) : Option (List α) :=
  v.arr?.bind fun items => items.mapM f

def strings? : Json → Option (List String) := list? str?

/-- One of several names; a name may also be the only key of an object, with the value null. -/
def choice? (choices : List (String × α)) : Json → Option α
  | str s => choices.lookup s
  | obj [(key, null)] => choices.lookup key
  | _ => none

def optional? (f : Json → Option α) : Option Json → Option (Option α)
  | none | some null => some none
  | some v => (f v).map some

def orDefault? (f : Json → Option α) (default : α) : Option Json → Option α
  | none => some default
  | some v => f v

def required? (f : Json → Option α) : Option Json → Option α
  | none => none
  | some v => f v

end ScriptLint.Json
