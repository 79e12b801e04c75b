import ScriptLint.Patch
import ScriptLint.Refactor.Identifier
import ScriptLint.SourceFile

/-! Renaming a variable at its declarations and all its uses. -/
namespace ScriptLint

/-- Forms in which one identifier is both an outward name and the name of a variable. -/
inductive Shorthand where
  | property
  | exported
  | imported
  deriving DecidableEq, Repr

namespace Tree

def isShorthandOf (t : Tree) (property identifier : NodeId) : Bool :=
  match t.kind property with
  | .property value none _ _ _ => t.keyOf value none == identifier
  | _ => false

def shorthand? (t : Tree) (identifier : NodeId) : Option Shorthand :=
  (t.parent? identifier).bind fun parent =>
    match t.kind parent with
    | .property .. => if t.isShorthandOf parent identifier then some .property else none
    | .assignmentPattern left _ =>
      if left = identifier then
        (t.parent? parent).bind fun owner =>
          if t.isShorthandOf owner identifier then some .property else none
      else none
    | .exportSpecifier _ none => some .exported
    | .importSpecifier _ none => some .imported
    | _ => none

def isExported (t : Tree) (identifier : NodeId) : Bool :=
  (t.ancestors identifier).any fun node =>
    match t.kind node with
    | .exportNamedDeclaration (some _) _ _ => true
    | _ => false

/-- Replaces a name, and keeps the outward name where there is one. -/
def renameEdit (t : Tree) (old new : String) (identifier : NodeId) : Edit :=
  let replacement := match t.shorthand? identifier with
    | some .property => s!"{old}: {new}"
    | some .exported => s!"{new} as {old}"
    | some .imported => s!"{old} as {new}"
    | none => new
  ⟨.sized (t.span identifier).start old.utf8ByteSize, replacement⟩

end Tree

def distinct (ids : List Nat) : List Nat := Tree.dedupNeighbours (ids.mergeSort fun a b => a ≤ b)

namespace SourceFile

variable (f : SourceFile)

def isDeclaredWithin (v : VariableId) (scope : ScopeId) : Bool :=
  (f.scopes.varAt? v).any fun other => f.scopes.isWithin other.scope scope

/-- Whether a use of the variable would mean another one under the new name. -/
def isCaptured (v : VariableId) (target : Variable) (name : String) : Bool :=
  (f.scopes.referencesOf v).any fun r =>
    (f.scopes.resolve? r.scope name).any fun other => f.isDeclaredWithin other target.scope

/-- Whether a use of the new name inside the variable's scope means something outside it. -/
def shadowsOuterUse (target : Variable) (name : String) : Bool :=
  f.scopes.references.any fun r =>
    ScopeGraph.usedName? f.tree r.identifier == some name &&
      f.scopes.isWithin r.scope target.scope &&
      !(r.resolved.any fun other => f.isDeclaredWithin other target.scope)

def occurrences (v : VariableId) (target : Variable) : List NodeId :=
  distinct (target.identifiers ++ (f.scopes.referencesOf v).map Reference.identifier)

/-- Renames a variable. Declines if the name is taken in the variable's scope, if a use would mean
another variable afterwards, or if the variable is exported by its declaration. -/
def rename? (v : VariableId) (name : String) : Option Patch :=
  (f.scopes.varAt? v).bind fun target =>
    if target.name = name || !isValidIdentifier name then none
    else if (f.scopes.findInScope? target.scope name).isSome then none
    else if f.isCaptured v target name then none
    else if f.shadowsOuterUse target name then none
    else if target.identifiers.any f.tree.isExported then none
    else
      (Patch.ofEdits ((f.occurrences v target).map (f.tree.renameEdit target.name name))).toOption

end SourceFile

end ScriptLint
