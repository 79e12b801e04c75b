import ScriptLint.ModuleRequest
import ScriptLint.Rule.Basic

/-! Calls of `map` and `filter` of the bluebird library say how many promises run at once. -/
namespace ScriptLint.Concurrency

structure Options where
  concurrency : Nat
  deriving DecidableEq, Repr

namespace Options

def default : Options := ⟨1⟩

def limit? (v : Json) : Option Nat := v.nat?.filter fun n => 0 < n && n < Nat.pow 2 32

def decode? (v : Json) : Option Options := do
  match ← v.record? [("concurrency", .defaulted)] with
  | [concurrency] => return ⟨← Json.orDefault? limit? 1 concurrency⟩
  | _ => none

end Options

def library : String := "bluebird"

def isLibraryRequest (t : Tree) (id : NodeId) : Bool :=
  (t.moduleRequest? id).any fun r => r.specifier == library

def libraryBindings (f : SourceFile) (id : NodeId) : List VariableId :=
  if !isLibraryRequest f.tree id then []
  else match f.tree.kind id with
    | .importDeclaration specifiers _ =>
      specifiers.filterMap fun s =>
        match f.tree.kind s with
        | .importDefaultSpecifier binding | .importNamespaceSpecifier binding =>
          f.scopes.binding? binding
        | _ => none
    | .variableDeclarator target _ => (f.scopes.binding? target).toList
    | _ => []

structure BoundedCall where
  call : NodeId
  object : NodeId
  name : String
  method : String
  arguments : List NodeId
  deriving DecidableEq, Repr

def boundedCall? (t : Tree) (id : NodeId) : Option BoundedCall :=
  match t.kind id with
  | .callExpression callee arguments _ =>
    match t.kind callee with
    | .memberExpression object member false _ => do
      let method ← t.identifierName? member
      let name ← t.identifierName? object
      if method = "map" || method = "filter" then some ⟨id, object, name, method, arguments⟩
      else none
    | _ => none
  | _ => none

def isConcurrency (t : Tree) (property : NodeId) : Bool :=
  match t.kind property with
  | .property value key _ computed _ =>
    t.staticKeyName? (t.keyOf value key) computed == some "concurrency"
  | _ => false

/-- The edit that adds the option to the arguments of a call. There is none if the option is there,
or if the options come from elsewhere. -/
def edit? (t : Tree) (limit : Nat) (arguments : List NodeId) : Option Edit :=
  let option := s!"concurrency: {limit}"
  match arguments with
  | [_, second] => some (.insert (t.span second).stop (", \x7b " ++ option ++ " \x7d"))
  | _ :: _ :: third :: _ =>
    match t.kind third with
    | .objectExpression [] => some ⟨t.span third, "\x7b " ++ option ++ " \x7d"⟩
    | .objectExpression (first :: rest) =>
      if (first :: rest).any (isConcurrency t) then none
      else some (.insert (t.span first).start (option ++ ", "))
    | _ => none
  | _ => none

def checkCall (o : Options) (f : SourceFile) (bindings : List VariableId) (c : BoundedCall) :
    Option Finding := do
  let v ← (← f.scopes.referenceAt? c.object).resolved
  if !bindings.contains v then none
  else
    let edit ← edit? f.tree o.concurrency c.arguments
    return ⟨f.tree.span c.call,
      s!"Expected \"{c.name}.{c.method}\" to set a \"concurrency\" option.",
      some (.suggestion (.single edit) "Limit the concurrency.")⟩

def check (o : Options) (_ : FileSystem) (f : SourceFile) : List Finding :=
  let bindings := f.tree.preorder.flatMap (libraryBindings f)
  (f.tree.preorder.filterMap (boundedCall? f.tree)).filterMap (checkCall o f bindings)

def rule : Rule :=
  .of ⟨"JS-STYLE-ASYNC-001", "bluebird-map-concurrency",
      "Bluebird map and filter calls set a concurrency limit.", true⟩
    (Schema.object [("concurrency", .mk [("type", .str "integer"), ("minimum", .nat 1)])])
    .default Options.decode? check

end ScriptLint.Concurrency
