import ScriptLint.Patch
import ScriptLint.Syntax.Source

/-! Moving the elements of a list. Every element owns a slot: the comments above it, its body, its
separator, and a comment behind it on the same line. A slot that gets another element is rewritten
with that element's comments and body and with the separator of the slot. -/
namespace ScriptLint

inductive Separator where
  /-- A comma after each element, except possibly the last. -/
  | comma
  /-- Each element is a statement that may end with a semicolon of its own. -/
  | statement
  deriving DecidableEq, Repr

structure Slot where
  span : Span
  /-- The comments above and the white space after them. -/
  leading : Span
  body : Span
  separator : Option Span
  /-- The comment behind and the white space before it. -/
  trailing : Option Span
  trailingIsLineComment : Bool
  deriving DecidableEq, Repr

namespace Source

variable (s : Source)

/-- Whether a comment goes on with the one before it, which stands behind code on the line above. -/
def continuesTrailing (comment : Token) : Bool :=
  match s.tokens.before? comment.span.start true with
  | some before =>
    before.isComment && !s.startsLine before &&
      s.lineOf before.span.stop + 1 == s.lineOf comment.span.start
  | none => false

/-- Whether a comment belongs to what begins at `attached` below it. -/
def isLeading (comment : Token) (attached : Nat) (previousEnd : Option Nat) : Bool :=
  comment.isComment && !(previousEnd.any fun stop => comment.span.start < stop) &&
    s.startsLine comment && !s.text.hasBlankLineBetween comment.span.stop attached &&
    !s.continuesTrailing comment

/-- Start of the comments that belong to what begins at `attached`; `fuel` bounds their number. -/
def leadingStartFrom (previousEnd : Option Nat) : Nat → Nat → Nat
  | 0, attached => attached
  | fuel + 1, attached =>
    match s.tokens.before? attached true with
    | some comment =>
      if s.isLeading comment attached previousEnd then
        leadingStartFrom previousEnd fuel comment.span.start
      else attached
    | none => attached

def leadingStart (start : Nat) (previousEnd : Option Nat) : Nat :=
  s.leadingStartFrom previousEnd s.tokens.all.size start

/-- A comment behind an offset that is the last thing on its line. -/
def trailingComment? (offset : Nat) : Option Token :=
  match (s.tokens.after? offset true).filter Token.isComment with
  | none => none
  | some comment =>
    if s.lineOf comment.span.start ≠ s.lineOf offset then none
    else match s.tokens.after? comment.span.stop true with
      | some next =>
        if s.lineOf next.span.start = s.lineOf comment.span.stop then none else some comment
      | none => some comment

def bodyAndSeparator? (separator : Separator) (element : NodeId) : Option (Span × Option Span) :=
  let span := s.tree.span element
  (s.lastToken? element).bind fun last =>
    match separator with
    | .statement =>
      if last.isPunctuator ";" then
        (s.tokens.before? last.span.start true).map fun before =>
          (⟨span.start, max before.span.stop span.start⟩, some last.span)
      else some (span, none)
    | .comma =>
      let comma := (s.tokens.after? span.stop false).filter fun t => t.isPunctuator ","
      some (span, comma.map Token.span)

def slot? (separator : Separator) (previousEnd : Option Nat) (element : NodeId) : Option Slot :=
  (s.bodyAndSeparator? separator element).map fun (body, separator) =>
    let start := s.leadingStart body.start previousEnd
    let tail := (separator.map Span.stop).getD body.stop
    let trailing := s.trailingComment? tail
    let stop := (trailing.map fun c => c.span.stop).getD tail
    { span := ⟨start, stop⟩
      leading := ⟨start, body.start⟩
      body
      separator
      trailing := trailing.map fun c => ⟨tail, c.span.stop⟩
      trailingIsLineComment := trailing.any fun c => c.kind == .lineComment }

def slotsFrom? (separator : Separator) : Option Nat → List NodeId → Option (List Slot)
  | _, [] => some []
  | previousEnd, element :: rest => do
    let slot ← s.slot? separator previousEnd element
    let slots ← slotsFrom? separator (some (s.tree.span element).stop) rest
    return slot :: slots

def hasStrayComment (slot : Slot) : Bool :=
  match slot.separator with
  | some separator =>
    slot.body.stop < separator.start &&
      (s.tokens.within ⟨slot.body.stop, separator.start⟩).any Token.isComment
  | none => false

def endsLine (offset : Nat) : Bool :=
  match s.tokens.after? offset true with
  | some next => s.lineOf next.span.start != s.lineOf offset
  | none => true

def renderSlot (moved target : Slot) : Text :=
  let part (span : Option Span) : Text := (span.map s.textOf).getD []
  s.textOf moved.leading ++ s.textOf moved.body ++ part target.separator ++ part moved.trailing

def slotsOverlap : List Slot → Bool
  | a :: b :: slots => decide (b.span.start < a.span.stop) || slotsOverlap (b :: slots)
  | _ => false

/-- Edits of the slots from `position` on; `none` if a line comment would swallow code. -/
def slotEdits? (slots : Array Slot) : Nat → List Nat → Option (List Edit)
  | _, [] => some []
  | position, source :: order => do
    let rest ← slotEdits? slots (position + 1) order
    if position = source then return rest
    else
      let target ← slots[position]?
      let moved ← slots[source]?
      if moved.trailingIsLineComment && !s.endsLine target.span.stop then none
      else return ⟨target.span, String.ofList (s.renderSlot moved target)⟩ :: rest

def listText? (slots : Array Slot) : Nat → List Nat → Option Text
  | _, [] => some []
  | position, source :: order => do
    let target ← slots[position]?
    let moved ← slots[source]?
    let gap : Text := match position with
      | 0 => []
      | p + 1 =>
        let previous := (slots[p]?.map fun x => x.body.stop).getD 0
        if s.lineOf previous = s.lineOf target.body.start then [' ']
        else '\n' :: s.text.indentOf (s.lineOf target.body.start)
    let rest ← listText? slots (position + 1) order
    return gap ++ s.renderSlot moved target ++ rest

def wholeList? (slots : Array Slot) (order : List Nat) : Option Patch := do
  let first ← slots[0]?
  let last ← slots.back?
  let text ← s.listText? slots 0 order
  return .single ⟨⟨first.span.start, last.span.stop⟩, String.ofList text⟩

/-- Moves element number `order[i]` to place `i`, for every `i`. Declines if nothing changes, or if
a comment would be lost or swallow code. -/
def reorder? (elements : List NodeId) (order : List Nat) (separator : Separator) :
    Option Patch := do
  if elements.length ≠ order.length || order = List.range order.length then none
  else
    let slots ← s.slotsFrom? separator none elements
    if slots.any s.hasStrayComment then none
    else if slotsOverlap slots then s.wholeList? slots.toArray order
    else
      let edits ← s.slotEdits? slots.toArray 0 order
      (Patch.ofEdits edits).toOption

end Source

end ScriptLint
