import ScriptLint.Proofs.AnchoredSources

/-! Sources whose offsets were given in UTF-16 units. Units lead to places of the text and the units
before a place lead back to it, so nodes and tokens are stretches of the text. -/
namespace ScriptLint

/-- Offsets in UTF-16 units lead to places of the text, and the units before a place lead back. -/
structure Text.InvertsUnits (t : Text) : Prop where
  isSome_iff : ∀ n, (t.byteOffset? n).isSome = true ↔ n ≤ t.units
  boundary : ∀ n a, t.byteOffset? n = some a → t.isBoundary a = true
  mono : ∀ m n a b, m ≤ n → t.byteOffset? m = some a → t.byteOffset? n = some b → a ≤ b
  inverts : ∀ a, t.isBoundary a = true → t.byteOffset? (t.slice 0 a).units = some a
  /-- Whether a table is kept makes no difference. -/
  shortcut : ∀ n, t.offsetMap.byteOffset? n = t.offsetTable.byteOffset? n

theorem Text.invertsUnits (t : Text) : t.InvertsUnits where
  isSome_iff _ := isSome_byteOffset?_iff
  boundary _ _ := isBoundary_of_byteOffset?
  mono _ _ _ _ := byteOffset?_mono
  inverts a ha := by
    obtain ⟨u, v, rfl, rfl⟩ := isBoundary_iff.1 ha
    rw [show (u ++ v).slice 0 u.size = u by simpa using slice_append [] u v]
    exact byteOffset?_units u v
  shortcut := byteOffset?_offsetMap t

namespace Source

/-- Nodes and tokens are stretches of the text, and a token holds what stands there. -/
structure InPlace (s : Source) : Prop where
  nodes : ∀ id, id < s.tree.size → (s.tree.span id).Placed s.text
  tokens : ∀ t ∈ s.tokens.all, t.span.Placed s.text
  text : ∀ t ∈ s.tokens.all, s.text.slice? t.span.start t.span.stop = some t.text

theorem inPlace_of_ofDocument {path : String} {text : Text} {doc : Json} {s : Source}
    (h : ofDocument path text doc = .ok s) : s.text = text ∧ s.InPlace := by
  obtain ⟨nodes, tree, hnodes, htree, rfl⟩ := ofDocument_eq_ok h
  have hnested := Tree.nested_of_load hnodes htree
  refine ⟨rfl, fun id _ => hnested.placed id, fun t ht => placed_of_mem_tokens ht, ?_⟩
  intro t ht
  obtain ⟨kindOf, doc', htoken⟩ := Loader.exists_token?_of_mem ht
  exact (Loader.token?_eq_some htoken).2

theorem inPlace_of_load (text : Text) :
    text.InvertsUnits ∧
      ∀ path document s, load path text document = .ok s → s.text = text ∧ s.InPlace := by
  refine ⟨text.invertsUnits, ?_⟩
  intro path document s h
  obtain ⟨doc, -, h⟩ := exists_ofDocument_of_load h
  exact inPlace_of_ofDocument h

def astralDocument : Json := .obj [
  ("body", .arr [.obj [("range", .arr [.nat 0, .nat 2]), ("type", .str "X")]]),
  ("tokens", .arr [
    .obj [("range", .arr [.nat 4, .nat 5]), ("type", .str "Punctuator")],
    .obj [("range", .arr [.nat 3, .nat 4]), ("type", .str "Identifier")]]),
  ("type", .str "Program")]

def astralDocumentText : Text :=
  ("\x7b\"body\":[\x7b\"range\":[0,2],\"type\":\"X\"\x7d]," ++
    "\"tokens\":[\x7b\"range\":[4,5],\"type\":\"Punctuator\"\x7d," ++
    "\x7b\"range\":[3,4],\"type\":\"Identifier\"\x7d],\"type\":\"Program\"\x7d").toList

set_option maxRecDepth 10000 in
theorem parse?_astralDocumentText : Json.parse? astralDocumentText = some astralDocument := by
  rfl

def astralSource : Source where
  path := "a.js"
  text := "😀 é;".toList
  tree :=
    { nodes := #[⟨.other "X" [], ⟨0, 4⟩⟩, ⟨.program [0] .script, ⟨0, 8⟩⟩]
      children := #[[], [0]]
      parents := #[some 1, none]
      root := 1 }
  tokens :=
    ⟨#[⟨.identifier, ⟨5, 7⟩, ['é']⟩, ⟨.punctuator, ⟨7, 8⟩, [';']⟩],
      #[⟨.identifier, ⟨5, 7⟩, ['é']⟩, ⟨.punctuator, ⟨7, 8⟩, [';']⟩]⟩

theorem inPlace_of_load_astral :
    load "a.js" astralSource.text astralDocumentText = .ok astralSource ∧
      astralSource.text.byteOffset? 1 = some 0 ∧ astralSource.InPlace := by
  have hnodes : Loader.load astralSource.text astralDocument = .ok astralSource.tree.nodes := by
    decide
  have htree : Tree.ofNodes astralSource.tree.nodes 1 = .ok astralSource.tree := by cbv
  have htokens : TokenIndex.ofList (Loader.tokens astralSource.text astralDocument) =
      astralSource.tokens := by cbv
  have hload : load "a.js" astralSource.text astralDocumentText = .ok astralSource := by
    rw [load_eq_ofDocument parse?_astralDocumentText, ofDocument_eq "a.js" hnodes htree, htokens]
    rfl
  have hplaces := inPlace_of_load astralSource.text
  exact ⟨hload, by decide, (hplaces.2 _ _ _ hload).2⟩

end Source

end ScriptLint
