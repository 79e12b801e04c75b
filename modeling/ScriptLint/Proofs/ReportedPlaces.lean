import ScriptLint.Proofs.ConvertedOffsets
import ScriptLint.Proofs.RuleFindings

/-! Places that rules report. A finding begins where a node of the tree begins or at one of the ends
of a token, so in a loaded source it begins between characters. -/
namespace ScriptLint

theorem TokenIndex.mem_all_of_mem_code {tokens : List Token} {t : Token}
    (h : t ∈ (ofList tokens).code) : t ∈ (ofList tokens).all := by
  simp only [ofList, List.mem_toArray, List.mem_filter] at h ⊢
  exact h.1

/-- Offsets at which something of a source begins, or at which a token ends. -/
inductive Source.Marks (s : Source) : Nat → Prop where
  | node (id : NodeId) : Marks s (s.tree.span id).start
  | tokenStart {t : Token} : t ∈ s.tokens.all → Marks s t.span.start
  | tokenStop {t : Token} : t ∈ s.tokens.all → Marks s t.span.stop

theorem Source.isBoundary_of_marks {path : String} {text document : Text} {s : Source}
    (h : Source.load path text document = .ok s) {offset : Nat} (hmarks : s.Marks offset) :
    text.isBoundary offset = true := by
  obtain ⟨doc, -, h⟩ := exists_ofDocument_of_load h
  obtain ⟨-, hnested⟩ := nested_of_ofDocument h
  obtain ⟨rfl, hplaced⟩ := inPlace_of_ofDocument h
  cases hmarks with
  | node id => exact (hnested.placed id).start
  | tokenStart ht => exact (hplaced.tokens _ ht).start
  | tokenStop ht => exact (hplaced.tokens _ ht).stop

def Source.CodeListed (s : Source) : Prop := ∀ t ∈ s.tokens.code, t ∈ s.tokens.all

theorem Source.codeListed_of_load {path : String} {text document : Text} {s : Source}
    (h : Source.load path text document = .ok s) : s.CodeListed := by
  obtain ⟨doc, -, h⟩ := exists_ofDocument_of_load h
  obtain ⟨nodes, tree, -, -, rfl⟩ := ofDocument_eq_ok h
  exact fun t ht => TokenIndex.mem_all_of_mem_code ht

theorem Source.CodeListed.mem_all {s : Source} (h : s.CodeListed) {comments : Bool} {t : Token}
    (ht : t ∈ s.tokens.select comments) : t ∈ s.tokens.all := by
  cases comments with
  | true => exact ht
  | false => exact h t ht

theorem Source.CodeListed.marks_of_reports {s : Source} (h : s.CodeListed) {span : Span}
    (hspan : s.Reports span) : s.Marks span.start := by
  cases hspan with
  | node id => exact .node id
  | token ht => exact .tokenStart (h.mem_all ht)
  | blockStart hopening => exact .tokenStart hopening
  | blockEnd _ hlast => exact .tokenStop (TokenIndex.mem_select_of_before? hlast)

/-- A diagnostic begins at a mark, and has the line and the column of its start. -/
theorem Rule.place_of_mem_run {s : Source} (h : s.CodeListed) {r : Rule} (hr : r ∈ all)
    {options : Option Json} {files : FileSystem} {asked : FileCache} {d : Diagnostic}
    (hd : d ∈ r.run options files (.ofSource s) asked) :
    s.Marks d.span.start ∧ d.line = s.lineOf d.span.start ∧ d.column = s.columnOf d.span.start := by
  obtain ⟨x, hx, rfl⟩ := exists_isMade_of_mem_run hr hd
  exact ⟨h.marks_of_reports hx.place, rfl, rfl⟩

end ScriptLint
