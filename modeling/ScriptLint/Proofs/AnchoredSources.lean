import ScriptLint.Proofs.NestedSpans
import ScriptLint.Proofs.OccurrenceNames
import ScriptLint.Proofs.Slots
import ScriptLint.Proofs.StableSorting

/-! Sources as parsers describe them. Where tokens do not overlap, lists are in source order and
names stand where their nodes begin, every offset that a rule starts from falls between characters,
and what comes later in a list lies behind what comes earlier. -/
namespace ScriptLint

theorem Text.size_toList (s : String) : Text.size s.toList = s.utf8ByteSize := by
  have h (t : Text) : t.size = (String.ofList t).utf8ByteSize := by
    induction t with
    | nil => rfl
    | cons c t ih =>
      rw [Text.size_cons, ih, String.ofList_cons, String.utf8ByteSize_append,
        String.utf8ByteSize_singleton]
  rw [h, String.ofList_toList]

namespace Tree

theorem childrenOf_eq_mergeSort {text : Text} {doc : Json} {nodes : Array Node} {t : Tree}
    (hload : Loader.load text doc = .ok nodes) (ht : ofNodes nodes (nodes.size - 1) = .ok t)
    (p : NodeId) :
    t.childrenOf p = (t.kind p).children.mergeSort fun a b =>
      sortKey t.nodes a ≤ sortKey t.nodes b := by
  have hnumbered := Loader.numbered_of_load hload
  obtain ⟨links, hlinks, rfl⟩ := ofNodes_eq_ok ht
  have hperm := (List.mergeSort_perm (nodes[p]?.getD Node.missing).kind.children
    (fun a b => sortKey nodes a ≤ sortKey nodes b)).trans
      (nodes[p]?.getD Node.missing).kind.children_perm_inReadingOrder
  change (links.children[p]?).getD [] = _
  rw [getD_children hnumbered hlinks p]
  exact dedupNeighbours_of_nodup (hperm.nodup_iff.2 (hnumbered.nodup_children p))

theorem pairwise_apart_of_sublist {text : Text} {doc : Json} {nodes : Array Node} {t : Tree}
    (hload : Loader.load text doc = .ok nodes) (ht : ofNodes nodes (nodes.size - 1) = .ok t)
    {p : NodeId} {ids : List NodeId} (hsub : ids.Sublist (t.kind p).children)
    (hsorted : ids.Pairwise fun a b => (t.span a).start ≤ (t.span b).start) :
    ids.Pairwise fun a b => (t.span a).stop ≤ (t.span b).start := by
  have hnested := nested_of_load hload ht
  have hlinked := wellLinked_of_numbered (Loader.numbered_of_load hload) ht
  have hlt {id : NodeId} (hid : id ∈ ids) : id < t.nodes.size := by
    have hchild : id ∈ t.childrenOf p := by
      rw [(hlinked.perm p).mem_iff, ← (t.kind p).children_perm_inReadingOrder.mem_iff]
      exact hsub.subset hid
    exact Nat.lt_trans (hlinked.below p id hchild) (hlinked.lt_size hchild)
  have hkey {id : NodeId} (hid : id ∈ ids) : sortKey t.nodes id = (t.span id).start + 1 := by
    simp [sortKey, span, node, Array.getElem?_eq_getElem (hlt hid)]
  have hkeys : ids.Pairwise fun a b => decide (sortKey t.nodes a ≤ sortKey t.nodes b) = true := by
    refine hsorted.imp_of_mem ?_
    intro a b ha hb hab
    rw [hkey ha, hkey hb, decide_eq_true_eq]
    omega
  -- Sorting is stable, so a part of the list that is in order stays together.
  have hsub' : ids.Sublist (t.childrenOf p) := by
    rw [childrenOf_eq_mergeSort hload ht p]
    exact List.sublist_mergeSort (key_trans _) (key_total _) hkeys hsub
  exact (hnested.apart p).sublist hsub'

end Tree

theorem NodeKind.sublist_of_statements? {α : Type} {kind : NodeKind α} {statements : List α}
    (h : kind.statements? = some statements) : statements.Sublist kind.children := by
  cases kind <;> simp only [statements?, Option.some.injEq, reduceCtorEq] at h <;> subst h <;>
    simp only [children, inReadingOrder_eq, traverse, run_mapM_note, run_optionMapM_note,
      run_pure_note, run_bind_note, List.reverse_append, List.reverse_reverse] <;>
    simp

theorem NodeKind.sublist_properties {α : Type} (properties : List α) :
    properties.Sublist (NodeKind.objectExpression properties).children := by
  simp only [children, inReadingOrder_eq, traverse, run_mapM_note, run_pure_note, run_bind_note,
    List.reverse_append, List.reverse_reverse]
  simp

namespace Source

/-- What a parser sees to: tokens do not overlap, statements and properties are in source order, and
the text of an identifier begins with its name. -/
structure Parsed (s : Source) : Prop where
  tokens_apart : s.tokens.all.toList.Pairwise fun a b =>
    a.span.stop ≤ b.span.start ∨ b.span.stop ≤ a.span.start
  statements : ∀ id statements, (s.tree.kind id).statements? = some statements →
    statements.Pairwise fun a b => (s.tree.span a).start ≤ (s.tree.span b).start
  properties : ∀ id properties, s.tree.kind id = .objectExpression properties →
    properties.Pairwise fun a b => (s.tree.span a).start ≤ (s.tree.span b).start
  names : ∀ id name, ScopeGraph.usedName? s.tree id = some name → name.toList <+: s.nodeText id

structure Marked (s : Source) : Prop where
  sorted : s.tokens.Sorted
  code_eq : s.tokens.code.toList = s.tokens.all.toList.filter fun t => !t.isComment
  token_placed : ∀ t ∈ s.tokens.all, t.span.Placed s.text
  nested : s.tree.Nested s.text

structure Spanned (s : Source) : Prop where
  tokens : s.tokens.Sequential
  token_placed : ∀ t ∈ s.tokens.all, t.span.Placed s.text
  nested : s.tree.Nested s.text

/-- The name of an identifier takes up a stretch of the text where the identifier starts. -/
def NamesPlaced (s : Source) : Prop :=
  ∀ id name, ScopeGraph.usedName? s.tree id = some name →
    (Span.sized (s.tree.span id).start name.utf8ByteSize).Placed s.text

structure Anchored (s : Source) : Prop where
  tokens : s.tokens.Sequential
  token_placed : ∀ t ∈ s.tokens.all, t.span.Placed s.text
  linked : s.tree.WellLinked
  nested : s.tree.Nested s.text
  statements : ∀ id statements, (s.tree.kind id).statements? = some statements →
    statements.Pairwise fun a b => (s.tree.span a).stop ≤ (s.tree.span b).start
  properties : ∀ id properties, s.tree.kind id = .objectExpression properties →
    properties.Pairwise fun a b => (s.tree.span a).stop ≤ (s.tree.span b).start
  names : s.NamesPlaced

theorem placed_of_mem_tokens {text : Text} {doc : Json} {t : Token}
    (h : t ∈ (TokenIndex.ofList (Loader.tokens text doc)).all) : t.span.Placed text := by
  obtain ⟨kindOf, doc', htoken⟩ := Loader.exists_token?_of_mem h
  obtain ⟨⟨a, b, hspan⟩, -⟩ := Loader.token?_eq_some htoken
  exact Text.placed_of_spanOfUnits? hspan

theorem marked_of_ofDocument {path : String} {text : Text} {doc : Json} {s : Source}
    (h : ofDocument path text doc = .ok s) : s.Marked := by
  obtain ⟨nodes, tree, hnodes, htree, rfl⟩ := ofDocument_eq_ok h
  refine ⟨⟨fun t ht => (placed_of_mem_tokens ht).le, Token.pairwise_mergeSort _⟩, ?_,
    fun t ht => placed_of_mem_tokens ht, Tree.nested_of_load hnodes htree⟩
  simp [TokenIndex.ofList]

theorem spanned_of_ofDocument {path : String} {text : Text} {doc : Json} {s : Source}
    (h : ofDocument path text doc = .ok s)
    (hapart : s.tokens.all.toList.Pairwise fun a b =>
      a.span.stop ≤ b.span.start ∨ b.span.stop ≤ a.span.start) : s.Spanned := by
  obtain ⟨nodes, tree, hnodes, htree, rfl⟩ := ofDocument_eq_ok h
  exact ⟨TokenIndex.sequential_ofList (fun t ht => (placed_of_mem_tokens ht).le) hapart,
    fun t ht => placed_of_mem_tokens ht, Tree.nested_of_load hnodes htree⟩

theorem placed_of_isPrefix {text : Text} {span : Span} (hspan : span.Placed text) {name : String}
    (h : name.toList <+: text.slice span.start span.stop) :
    (Span.sized span.start name.utf8ByteSize).Placed text := by
  obtain ⟨u, v, w, htext, hu, huv⟩ :=
    Text.exists_append_of_boundaries hspan.start hspan.stop hspan.le
  rw [← hu, ← huv, htext, Text.slice_append] at h
  obtain ⟨rest, rfl⟩ := h
  refine ⟨Nat.le_add_right _ _, hspan.start, Text.isBoundary_iff.2 ⟨u ++ name.toList, rest ++ w, ?_, ?_⟩⟩
  · rw [htext]
    simp only [List.append_assoc]
  · rw [Text.size_append, hu, Text.size_toList]
    rfl

theorem namesPlaced_of_begins {s : Source} (hnested : s.tree.Nested s.text)
    (hbegins : ∀ id name, ScopeGraph.usedName? s.tree id = some name → name.toList <+: s.nodeText id) :
    s.NamesPlaced :=
  fun id name hname => placed_of_isPrefix (hnested.placed id) (hbegins id name hname)

theorem pairwise_apart_of_ofDocument {path : String} {text : Text} {doc : Json} {s : Source}
    (h : ofDocument path text doc = .ok s) {p : NodeId} {ids : List NodeId}
    (hsub : ids.Sublist (s.tree.kind p).children)
    (hordered : ids.Pairwise fun a b => (s.tree.span a).start ≤ (s.tree.span b).start) :
    ids.Pairwise fun a b => (s.tree.span a).stop ≤ (s.tree.span b).start := by
  obtain ⟨nodes, tree, hnodes, htree, rfl⟩ := ofDocument_eq_ok h
  exact Tree.pairwise_apart_of_sublist hnodes htree hsub hordered

theorem anchored_of_ofDocument {path : String} {text : Text} {doc : Json} {s : Source}
    (h : ofDocument path text doc = .ok s) (hparsed : s.Parsed) : s.Anchored := by
  obtain ⟨htokens, hplaced, hnested⟩ := spanned_of_ofDocument h hparsed.tokens_apart
  refine ⟨htokens, hplaced, wellLinked_of_ofDocument h, hnested, ?_, ?_,
    namesPlaced_of_begins hnested hparsed.names⟩
  · intro id statements hid
    exact pairwise_apart_of_ofDocument h (NodeKind.sublist_of_statements? hid)
      (hparsed.statements id statements hid)
  · intro id properties hid
    refine pairwise_apart_of_ofDocument h (p := id) ?_ (hparsed.properties id properties hid)
    rw [hid]
    exact NodeKind.sublist_properties properties

theorem anchored_of_load {path : String} {text document : Text} {s : Source}
    (h : load path text document = .ok s) (hparsed : s.Parsed) : s.text = text ∧ s.Anchored := by
  obtain ⟨doc, -, h⟩ := exists_ofDocument_of_load h
  exact ⟨(nested_of_ofDocument h).1, anchored_of_ofDocument h hparsed⟩

theorem Spanned.marked {s : Source} (h : s.Spanned) : s.Marked :=
  ⟨h.tokens.sorted, h.tokens.code_eq, h.token_placed, h.nested⟩

namespace Marked

variable {s : Source}

theorem placed_of_before? (h : s.Marked) {offset : Nat} {comments : Bool} {t : Token}
    (ht : s.tokens.before? offset comments = some t) :
    t.span.Placed s.text ∧ t.span.stop ≤ offset :=
  ⟨h.token_placed t (TokenIndex.mem_all_of_before? h.code_eq ht), TokenIndex.stop_le_of_before? ht⟩

theorem placed_of_after? (h : s.Marked) {offset : Nat} {comments : Bool} {t : Token}
    (ht : s.tokens.after? offset comments = some t) :
    t.span.Placed s.text ∧ offset ≤ t.span.start := by
  obtain ⟨hmem, hstart⟩ := h.sorted.of_after? h.code_eq ht
  exact ⟨h.token_placed t hmem, hstart⟩

theorem placed_of_lastToken? (h : s.Marked) {id : NodeId} {t : Token}
    (ht : s.lastToken? id = some t) :
    t.span.Placed s.text ∧ (s.tree.span id).start ≤ t.span.start := by
  obtain ⟨hbefore, hinside⟩ := Option.filter_eq_some_iff.1 ht
  exact ⟨(h.placed_of_before? hbefore).1, of_decide_eq_true hinside⟩

end Marked

theorem Anchored.spanned {s : Source} (h : s.Anchored) : s.Spanned :=
  ⟨h.tokens, h.token_placed, h.nested⟩

end Source

end ScriptLint
