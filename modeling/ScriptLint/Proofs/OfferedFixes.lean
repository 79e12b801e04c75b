import ScriptLint.Files.Memory
import ScriptLint.Proofs.FittingFixes

/-! Every fix that a rule offers applies. In a source as parsers describe it, no rule comes to a range
that ends before it starts, and the edits of a fix lie in the text, between characters, and one
behind the other. -/
namespace ScriptLint

/-- Ranges that rules build on their way to findings and edits. Those of nodes and tokens are built
when a file is loaded, and some others only after their ends have been compared. -/
inductive SourceFile.Builds (f : SourceFile) : Span → Prop where
  | line {n start stop : Nat} : f.text.lineStart? n = some start → f.text.lineEnd? n = some stop →
      Builds f ⟨start, stop⟩
  /-- What a column counts. -/
  | column {offset start : Nat} : f.text.lineStart? (f.text.lineOf offset) = some start →
      Builds f ⟨start, offset⟩
  | name {id : NodeId} {name : String} : ScopeGraph.usedName? f.tree id = some name →
      Builds f (.sized (f.tree.span id).start name.utf8ByteSize)
  /-- A function up to its body. -/
  | head {function body : NodeId} {fn : FunctionShape NodeId} :
      f.tree.parent? body = some function → (f.tree.kind function).fn? = some fn →
      fn.body = body → Builds f ⟨(f.tree.span function).start, (f.tree.span body).start⟩
  /-- A slot and its parts. -/
  | slot {separator : Separator} {previousEnd : Option Nat} {element : NodeId} {slot : Slot}
      {span : Span} : f.slot? separator previousEnd element = some slot →
      span ∈ [slot.span, slot.leading, slot.body] ++ slot.trailing.toList → Builds f span
  /-- A specifier up to the name that it binds. -/
  | specifier {id : NodeId} {shape : ImportShape.Shape} {b : ImportShape.NamedBinding} :
      ImportShape.shape? f.tree id = some shape → b ∈ shape.named →
      Builds f ⟨(f.tree.span b.node).start, (f.tree.nameSpan b.identifier).stop⟩

theorem Tree.Nested.start_le_nameSpan {t : Tree} {text : Text} (h : t.Nested text) (id : NodeId) :
    (t.span id).start ≤ (t.nameSpan id).stop := by
  unfold nameSpan
  split
  · exact Nat.le_add_right _ _
  · exact (h.placed id).le

theorem Source.Marked.le_of_builds {s : Source} (h : s.Marked) (hlinked : s.tree.WellLinked)
    {span : Span} (hbuilds : (SourceFile.ofSource s).Builds span) : span.start ≤ span.stop := by
  cases hbuilds with
  | line hstart hstop => exact (Text.lineEnd?_spec hstart hstop).1
  | column hstart => exact Text.lineStart?_lineOf_le hstart
  | name hname => exact Nat.le_add_right _ _
  | head hparent =>
    have hchild := (hlinked.parent?_iff _ _).1 hparent
    exact (Span.contains_iff.1 (h.nested.inside _ _ hchild)).1
  | slot hslot hspan =>
    have hat := h.slotAt_of_slot? hslot
    simp only [List.mem_append, List.mem_cons, List.not_mem_nil, or_false, Option.mem_toList] at hspan
    rcases hspan with (rfl | rfl | rfl) | htrailing
    · exact hat.span.le
    · exact hat.leading.le
    · exact hat.body.le
    · exact (hat.trailing span htrailing).le
  | specifier hshape hb =>
    have hbegins := ImportShape.begins_of_shape? hlinked h.nested hshape _ hb
    exact Nat.le_trans hbegins (h.nested.start_le_nameSpan _)

namespace Rule

theorem fits_of_mem_run {s : Source} (h : s.Anchored) {r : Rule} (hr : r ∈ all)
    {options : Option Json} {files : FileSystem} {asked : FileCache} {d : Diagnostic}
    (hd : d ∈ r.run options files (.ofSource s) asked) :
    d.span.Placed s.text ∧ ∀ fix, d.fix = some fix → fix.patch.Fits s.text := by
  obtain ⟨x, hx, rfl⟩ := exists_isMade_of_mem_run hr hd
  exact ⟨(h.fits_of_isMade hx).span, (h.fits_of_isMade hx).fix⟩

/-- Whatever the options and the other files are, and whatever has been asked about these, no range
that a rule builds ends before it starts, and every fix applies to the text: its edits are stretches
of the text, in order and apart. -/
theorem apply_of_mem_run {path : String} {text document : Text} {s : Source}
    (hload : Source.load path text document = .ok s) (hparsed : s.Parsed) :
    (∀ span, (SourceFile.ofSource s).Builds span → span.start ≤ span.stop) ∧
    ∀ r ∈ all, ∀ options files asked, ∀ d ∈ r.run options files (.ofSource s) asked,
      d.span.start ≤ d.span.stop ∧
      ∀ fix, d.fix = some fix →
        (∃ fixed, fix.patch.apply text = .ok fixed) ∧
        (∀ e ∈ fix.patch.edits, e.span.Placed text) ∧ fix.patch.edits.Pairwise Edit.Follows := by
  obtain ⟨htext, h⟩ := Source.anchored_of_load hload hparsed
  subst htext
  refine ⟨fun span hspan => h.spanned.marked.le_of_builds h.linked hspan, ?_⟩
  intro r hr options files asked d hd
  obtain ⟨hspan, hfix⟩ := fits_of_mem_run h hr hd
  refine ⟨hspan.le, ?_⟩
  intro fix heq
  obtain ⟨hconsistent, hplaced⟩ := hfix fix heq
  exact ⟨⟨_, hconsistent.apply_eq_ok hplaced⟩, hplaced, hconsistent.follows⟩

/-- A block that starts with a blank line, in a text with two-byte line ends and a two-byte name. -/
def paddedDocument : Json := .obj [
  ("body", .arr [.obj [
    ("body", .arr [.obj [
      ("expression", .obj [("name", .str "é"), ("range", .arr [.nat 5, .nat 6]),
        ("type", .str "Identifier")]),
      ("range", .arr [.nat 5, .nat 6]), ("type", .str "ExpressionStatement")]]),
    ("range", .arr [.nat 0, .nat 9]), ("type", .str "BlockStatement")]]),
  ("tokens", .arr [
    .obj [("range", .arr [.nat 0, .nat 1]), ("type", .str "Punctuator")],
    .obj [("range", .arr [.nat 5, .nat 6]), ("type", .str "Identifier")],
    .obj [("range", .arr [.nat 8, .nat 9]), ("type", .str "Punctuator")]]),
  ("type", .str "Program")]

def paddedDocumentText : Text :=
  ["\x7b\"body\":[\x7b\"body\":[", "\x7b\"expression\":\x7b\"name\":\"é\",", "\"range\":[5,6],",
    "\"type\":\"Identifier\"\x7d,", "\"range\":[5,6],", "\"type\":\"ExpressionStatement\"\x7d],",
    "\"range\":[0,9],", "\"type\":\"BlockStatement\"\x7d],", "\"tokens\":[\x7b\"range\":[0,1],",
    "\"type\":\"Punctuator\"\x7d,", "\x7b\"range\":[5,6],", "\"type\":\"Identifier\"\x7d,",
    "\x7b\"range\":[8,9],", "\"type\":\"Punctuator\"\x7d],", "\"type\":\"Program\"\x7d"].flatMap
    String.toList

set_option maxRecDepth 10000 in
theorem parse?_paddedDocumentText : Json.parse? paddedDocumentText = some paddedDocument := by
  rfl

def paddedSource : Source where
  path := "a.js"
  text := "\x7b\r\n\r\né\r\n\x7d".toList
  tree :=
    { nodes := #[
        ⟨.identifier "é" none false, ⟨5, 7⟩⟩,
        ⟨.expressionStatement 0 none, ⟨5, 7⟩⟩,
        ⟨.blockStatement [1], ⟨0, 10⟩⟩,
        ⟨.program [2] .script, ⟨0, 10⟩⟩]
      children := #[[], [0], [1], [2]]
      parents := #[some 1, some 2, some 3, none]
      root := 3 }
  tokens :=
    let tokens : Array Token := #[⟨.punctuator, ⟨0, 1⟩, ['\x7b']⟩, ⟨.identifier, ⟨5, 7⟩, ['é']⟩,
      ⟨.punctuator, ⟨9, 10⟩, ['\x7d']⟩]
    ⟨tokens, tokens⟩

theorem load_paddedSource :
    Source.load "a.js" paddedSource.text paddedDocumentText = .ok paddedSource := by
  have hnodes : Loader.load paddedSource.text paddedDocument = .ok paddedSource.tree.nodes := by
    decide +kernel
  have htree : Tree.ofNodes paddedSource.tree.nodes 3 = .ok paddedSource.tree := by cbv
  have htokens : TokenIndex.ofList (Loader.tokens paddedSource.text paddedDocument) =
      paddedSource.tokens := by cbv
  rw [Source.load_eq_ofDocument parse?_paddedDocumentText,
    Source.ofDocument_eq "a.js" hnodes htree, htokens]
  rfl

theorem parsed_paddedSource : paddedSource.Parsed := by
  refine ⟨by decide, ?_, ?_, ?_⟩
  · intro id statements h
    match id with
    | 0 | 1 | _ + 4 => cases h
    | 2 | 3 =>
      cases h
      simp
  · intro id properties h
    match id with
    | 0 | 1 | 2 | 3 | _ + 4 => cases h
  · intro id name h
    match id with
    | 0 =>
      cases h
      decide
    | 1 | 2 | 3 | _ + 4 => cases h

theorem apply_of_mem_run_padded :
    let patch : Patch := .single ⟨⟨1, 5⟩, "\r\n"⟩
    Source.load "a.js" paddedSource.text paddedDocumentText = .ok paddedSource ∧
    paddedSource.Parsed ∧
    (BlockPadding.rule.run none MemoryFiles.empty.access (.ofSource paddedSource)).map
      Diagnostic.fix = [some (.safe patch "Remove the blank line.")] ∧
    ∃ fixed, patch.apply paddedSource.text = .ok fixed := by
  intro patch
  have hrun : (BlockPadding.rule.run none MemoryFiles.empty.access (.ofSource paddedSource)).map
      Diagnostic.fix = [some (.safe patch "Remove the blank line.")] := by
    decide +kernel
  obtain ⟨d, hd, hfix⟩ := List.mem_map.1 (hrun ▸ List.mem_singleton_self _)
  have happly := (apply_of_mem_run load_paddedSource parsed_paddedSource).2 BlockPadding.rule
    (by simp [all]) none MemoryFiles.empty.access .empty d hd
  exact ⟨load_paddedSource, parsed_paddedSource, hrun, (happly.2 _ hfix).1⟩

end Rule

end ScriptLint
