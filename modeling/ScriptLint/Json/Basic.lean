import ScriptLint.Decimal.Scaled

/-! JSON values. Objects are kept sorted by key, and a repeated key keeps its last value. -/
namespace ScriptLint

inductive Json.Number where
  /-- An integer of at most 64 bits, signed or unsigned. -/
  | int (n : Int)
  /-- Any other number, as the bits of its binary64 value. -/
  | float (bits : UInt64)
  deriving DecidableEq, Repr

inductive Json where
  | null
  | bool (b : Bool)
  | num (n : Json.Number)
  | str (s : String)
  | arr (items : List Json)
  | obj (fields : List (String × Json))
  deriving Repr, Inhabited

namespace Json

abbrev Object := List (String × Json)

namespace Object

def get? (o : Object) (key : String) : Option Json := o.lookup key

def has (o : Object) (key : String) : Bool := (o.get? key).isSome

/-- Keeps the keys sorted; replaces the value of a key that is there. -/
def insert (key : String) (value : Json) : Object → Object
  | [] => [(key, value)]
  | (k, v) :: rest =>
    if key = k then (key, value) :: rest
    else if key < k then (key, value) :: (k, v) :: rest
    else (k, v) :: insert key value rest

def ofList (entries : List (String × Json)) : Object :=
  entries.foldl (fun o e => o.insert e.1 e.2) []

end Object

def mk (entries : List (String × Json)) : Json := .obj (Object.ofList entries)

def nat (n : Nat) : Json := .num (.int n)

def ofOption (f : α → Json) : Option α → Json
  | none => .null
  | some a => f a

def isNull : Json → Bool
  | null => true
  | _ => false

def str? : Json → Option String
  | str s => some s
  | _ => none

def bool? : Json → Option Bool
  | bool b => some b
  | _ => none

def arr? : Json → Option (List Json)
  | arr items => some items
  | _ => none

def obj? : Json → Option Object
  | obj fields => some fields
  | _ => none

/-- A natural number of at most 64 bits; a float is none, even a whole one. -/
def nat? : Json → Option Nat
  | num (.int n) => if 0 ≤ n then some n.toNat else none
  | _ => none

def get? : Json → String → Option Json
  | obj fields, key => Object.get? fields key
  | _, _ => none

def Number.bits : Number → UInt64
  | int n => Decimal.ofInt n
  | float bits => bits

def count : Json → Nat
  | arr items => 1 + countAll items
  | obj fields => 1 + countFields fields
  | _ => 1
where
  countAll : List Json → Nat
    | [] => 0
    | v :: vs => v.count + countAll vs
  countFields : List (String × Json) → Nat
    | [] => 0
    | f :: fs => f.2.count + countFields fs

def depth : Json → Nat
  | arr items => 1 + depthAll items
  | obj fields => 1 + depthFields fields
  | _ => 0
where
  depthAll : List Json → Nat
    | [] => 0
    | v :: vs => max v.depth (depthAll vs)
  depthFields : List (String × Json) → Nat
    | [] => 0
    | f :: fs => max f.2.depth (depthFields fs)

end Json

end ScriptLint
