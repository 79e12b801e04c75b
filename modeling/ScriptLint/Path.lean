import ScriptLint.Text.Basic

/-! Slash-separated paths. A path is kept as it was written; what it means is the list of its
components. -/
namespace ScriptLint

structure Path where
  text : Text
  deriving DecidableEq, Repr, Inhabited

namespace Path

inductive Component where
  | root
  /-- A dot, which counts only at the start of a path. -/
  | current
  | parent
  | name (n : Text)
  deriving DecidableEq, Repr

def ofString (s : String) : Path := ⟨s.toList⟩

def toString (p : Path) : String := String.ofList p.text

def empty : Path := ⟨[]⟩

def isSeparator (c : Char) : Bool := c == '/'

def isAbsolute (p : Path) : Bool := p.text.head? == some '/'

def startsWithDot (p : Path) : Bool :=
  match p.text with
  | ['.'] => true
  | '.' :: '/' :: _ => true
  | _ => false

/-- What a stretch between separators stands for; empty ones and dots stand for nothing. -/
def component? (s : Text) : Option Component :=
  if s = [] || s = ['.'] then none
  else if s = ['.', '.'] then some .parent
  else some (.name s)

def components (p : Path) : List Component :=
  let lead := if p.isAbsolute then [.root] else if p.startsWithDot then [.current] else []
  lead ++ (Text.splitWhere isSeparator p.text).filterMap component?

def Component.text : Component → Text
  | root => ['/']
  | current => ['.']
  | parent => ['.', '.']
  | name n => n

/-- Appends a path; an absolute one replaces what is there. -/
def join (p q : Path) : Path :=
  if q.isAbsolute then q
  else if p.text.isEmpty || p.text.getLast? == some '/' then ⟨p.text ++ q.text⟩
  else ⟨p.text ++ '/' :: q.text⟩

def joinString (p : Path) (s : String) : Path := p.join (ofString s)

def ofComponents (cs : List Component) : Path := cs.foldl (fun p c => p.join ⟨c.text⟩) empty

def leadLength (p : Path) : Nat := if p.isAbsolute || p.startsWithDot then 1 else 0

def cutLast (s : Text) : Text × Text :=
  let last := (s.reverse.takeWhile fun c => !isSeparator c).reverse
  (s.take (s.length - last.length - 1), last)

def trimEnd : Nat → Text → Text
  | 0, s => s
  | fuel + 1, s =>
    if s.isEmpty then s
    else if (component? (cutLast s).2).isNone then trimEnd fuel (cutLast s).1 else s

def body (p : Path) : Text :=
  let s := p.text.drop p.leadLength
  trimEnd (s.length + 1) s

def fileName? (p : Path) : Option Text :=
  match p.components.getLast? with
  | some (.name n) => some n
  | _ => none

/-- The path without its last component; `none` for the root and the empty path. -/
def parent? (p : Path) : Option Path :=
  let lead := p.text.take p.leadLength
  if p.body.isEmpty then if p.startsWithDot then some empty else none
  else
    let rest := (cutLast p.body).1
    some ⟨lead ++ trimEnd (rest.length + 1) rest⟩

def ancestorsFrom : Nat → Path → List Path
  | 0, _ => []
  | fuel + 1, p =>
    p :: match p.parent? with
      | some q => ancestorsFrom fuel q
      | none => []

def ancestors (p : Path) : List Path := ancestorsFrom (p.text.length + 2) p

/-- Cuts a file name at its last dot; a dot at the start is part of the stem. -/
def splitName (n : Text) : Text × Option Text :=
  let ext := (n.reverse.takeWhile fun c => c != '.').reverse
  let stem := n.take (n.length - ext.length - 1)
  if ext.length = n.length || stem.isEmpty || n = ['.', '.'] then (n, none) else (stem, some ext)

def extension? (p : Path) : Option Text := p.fileName?.bind fun n => (splitName n).2

/-- The path without the extension of its last component, and without what follows that. If the
path ends with the extension and only a dot stands before it, both dots stay. -/
def dropExtension (p : Path) : Path :=
  match p.extension? with
  | some ext =>
    let dotted := p.body.take (p.body.length - ext.length)
    let keepsDots := (cutLast dotted).2 == ['.', '.'] && p.text.endsWith ext
    ⟨p.text.take p.leadLength ++ if keepsDots then dotted else dotted.dropLast⟩
  | none => p

/-- Replaces the last component if it is a name, and appends one otherwise. -/
def withFileName (p : Path) (name : String) : Path :=
  match p.fileName?, p.parent? with
  | some _, some q => q.joinString name
  | _, _ => p.joinString name

def same (p q : Path) : Bool := p.components == q.components

def startsWith (p base : Path) : Bool := base.components.isPrefixOf p.components

def resolveStep (done : List Component) (c : Component) : List Component :=
  match c, done with
  | .current, _ => done
  | .parent, .name _ :: rest => rest
  | .parent, .root :: _ => done
  | c, _ => c :: done

/-- Resolves dots and double dots without looking at a disk. Double dots above the start of a
relative path are kept. -/
def resolve (cs : List Component) : List Component := (cs.foldl resolveStep []).reverse

def normalize (p : Path) : Path := ofComponents (resolve p.components)

def Component.rank : Component → Nat
  | root => 0
  | current => 1
  | parent => 2
  | name _ => 3

def Component.lt (a b : Component) : Bool :=
  match a, b with
  | .name m, .name n => String.ofList m < String.ofList n
  | a, b => a.rank < b.rank

/-- Order by components, of which names are compared by their characters. -/
def le (p q : Path) : Bool := leComponents p.components q.components
where
  leComponents : List Component → List Component → Bool
    | [], _ => true
    | _ :: _, [] => false
    | a :: as, b :: bs => if a = b then leComponents as bs else a.lt b

end Path

end ScriptLint
