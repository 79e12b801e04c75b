import ScriptLint.Proofs.ConsistentPatches
import ScriptLint.Proofs.LoadErrors
import ScriptLint.Proofs.TreeWalk
import ScriptLint.Proofs.UnitOffsets

/-! Spans of loaded trees. Every span is a stretch of the text, the root is a program that covers all
of it, children lie inside their parents and one behind the other. So a walk meets the nodes in the
order of their starts. -/
namespace ScriptLint

theorem Span.contains_iff {outer inner : Span} :
    outer.contains inner = true ↔ outer.start ≤ inner.start ∧ inner.stop ≤ outer.stop := by
  rw [contains, Bool.and_eq_true, decide_eq_true_eq, decide_eq_true_eq]

namespace Text

theorem placed_of_spanOfUnits? {t : Text} {start stop : Nat} {s : Span}
    (h : t.spanOfUnits? start stop = some s) : s.Placed t := by
  simp only [spanOfUnits?, Option.bind_eq_some_iff] at h
  obtain ⟨a, ha, b, hb, h⟩ := h
  split at h
  · rename_i hle
    cases h
    exact ⟨hle, isBoundary_of_byteOffset? ha, isBoundary_of_byteOffset? hb⟩
  · cases h

theorem placed_whole (t : Text) : Span.Placed t ⟨0, t.size⟩ :=
  ⟨Nat.zero_le _, isBoundary_zero t, isBoundary_size t⟩

end Text

structure IsWhole {α : Type} (t : Text) (kind : NodeKind α) (span : Span) : Prop where
  program : ∃ body sourceType, kind = .program body sourceType
  span_eq : span = ⟨0, t.size⟩

namespace Loader

open Document (nodeSpan typeOf)

variable {t : Text}

theorem placed_of_nodeSpan {o : Json.Object} {s : Span} (h : nodeSpan t o = .ok s) :
    s.Placed t := by
  unfold nodeSpan at h
  split at h
  · cases h
    exact t.placed_whole
  · unfold Document.span at h
    split at h
    · rename_i hspan
      cases h
      obtain ⟨p, -, hunits⟩ := Option.bind_eq_some_iff.1 hspan
      exact Text.placed_of_spanOfUnits? hunits
    · cases h

theorem placed_of_loadNode {doc : Json} {nodes : Array Node}
    (h : loadNode t #[] doc = .ok nodes) : ∀ n ∈ nodes, n.span.Placed t := by
  refine loadNode_induction
    (P := fun arena _ arena' => (∀ n ∈ arena, n.span.Placed t) → ∀ n ∈ arena', n.span.Placed t)
    (Q := fun arena _ arena' _ => (∀ n ∈ arena, n.span.Placed t) → ∀ n ∈ arena', n.span.Placed t)
    ?_ ?_ ?_ h (by simp)
  · intro arena o span kind mid ids hspan _ hchildren harena n hn
    rcases Array.mem_push.1 hn with hn | rfl
    · exact hchildren harena n hn
    · exact placed_of_nodeSpan hspan
  · exact fun _ harena => harena
  · exact fun hdocs hdoc harena => hdoc (hdocs harena)

theorem exists_back?_of_loadNode {arena nodes : Array Node} {o : Json.Object}
    (h : loadNode t arena (.obj o) = .ok nodes) :
    ∃ span kind ids, nodeSpan t o = .ok span ∧ Document.kind t o (typeOf o) = .ok kind ∧
      nodes.back? = some ⟨kind.number ids, span⟩ := by
  rw [loadNode_obj] at h
  obtain ⟨span, hspan, h⟩ := bind_eq_ok.1 h
  obtain ⟨kind, hkind, h⟩ := bind_eq_ok.1 h
  obtain ⟨⟨mid, ids⟩, -, h⟩ := bind_eq_ok.1 h
  cases h
  exact ⟨span, kind, ids, hspan, hkind, Array.back?_push⟩

theorem exists_program_of_kind {o : Json.Object} {kind : NodeKind Json}
    (h : Document.kind t o "Program" = .ok kind) :
    ∃ body sourceType, kind = .program body sourceType := by
  obtain ⟨k, hk, rfl⟩ := Document.kind_eq_ok.1 h
  obtain ⟨body, -, hk⟩ := bind_eq_ok.1 hk
  cases hk
  exact ⟨_, _, rfl⟩

theorem isWhole_of_load {doc : Json} {nodes : Array Node} (h : load t doc = .ok nodes) :
    ∃ n, nodes.back? = some n ∧ IsWhole t n.kind n.span := by
  obtain ⟨o, rfl, hty, hnodes⟩ := load_eq_ok h
  obtain ⟨span, kind, ids, hspan, hkind, hback⟩ := exists_back?_of_loadNode hnodes
  rw [nodeSpan, if_pos hty] at hspan
  rw [hty] at hkind
  obtain ⟨body, sourceType, rfl⟩ := exists_program_of_kind hkind
  cases hspan
  exact ⟨_, hback, ⟨_, _, rfl⟩, rfl⟩

end Loader

namespace Tree

structure Nested (t : Tree) (text : Text) : Prop where
  placed : ∀ id, (t.span id).Placed text
  whole : IsWhole text (t.kind t.root) (t.span t.root)
  inside : ∀ p : Nat, ∀ child ∈ t.childrenOf p, (t.span p).contains (t.span child) = true
  apart : ∀ p : Nat, (t.childrenOf p).Pairwise fun a b => (t.span a).stop ≤ (t.span b).start

theorem pairwise_of_firstOverlap {nodes : Array Node} {ids : List NodeId}
    (hle : ∀ id, (spanIn nodes id).start ≤ (spanIn nodes id).stop)
    (h : firstOverlap nodes ids = none) :
    ids.Pairwise fun a b => (spanIn nodes a).stop ≤ (spanIn nodes b).start := by
  fun_induction firstOverlap nodes ids with
  | case1 a b ids first second hlt => cases h
  | case2 a b ids first second hlt ih =>
    have hnext := ih h
    have hab : (spanIn nodes a).stop ≤ (spanIn nodes b).start := Nat.le_of_not_lt hlt
    have hb := hle b
    refine List.pairwise_cons.2 ⟨?_, hnext⟩
    intro c hc
    rcases List.mem_cons.1 hc with rfl | hc
    · exact hab
    · have hbc := (List.pairwise_cons.1 hnext).1 c hc
      omega
  | case3 ids hshort =>
    match ids, hshort with
    | [], _ => exact .nil
    | [a], _ => exact List.pairwise_singleton _ a
    | a :: b :: ids, hshort => exact absurd rfl (hshort a b ids)

theorem nested_of_load {text : Text} {doc : Json} {nodes : Array Node} {t : Tree}
    (hload : Loader.load text doc = .ok nodes) (ht : ofNodes nodes (nodes.size - 1) = .ok t) :
    t.Nested text := by
  have hnumbered := Loader.numbered_of_load hload
  obtain ⟨_, _, _, hloaded⟩ := Loader.load_eq_ok hload
  obtain ⟨last, hlast, hwhole⟩ := Loader.isWhole_of_load hload
  obtain ⟨links, hlinks, rfl⟩ := ofNodes_eq_ok ht
  have hchildren := getD_children hnumbered hlinks
  have hplaced (id : Nat) : (spanIn nodes id).Placed text := by
    cases hid : nodes[id]? with
    | none =>
      rw [spanIn, hid]
      exact ⟨Nat.le_refl 0, text.isBoundary_zero, text.isBoundary_zero⟩
    | some node =>
      rw [spanIn, hid]
      exact Loader.placed_of_loadNode hloaded node (Array.mem_of_getElem? hid)
  refine ⟨hplaced, ?_, ?_, ?_⟩
  · rw [Array.back?_eq_getElem?] at hlast
    simpa only [kind, span, node, hlast, Option.getD_some] using hwhole
  · intro p child hchild
    change child ∈ (links.children[p]?).getD [] at hchild
    rw [hchildren p] at hchild
    obtain ⟨node, hnode, -⟩ := (mem_sortedIn hnumbered).1 hchild
    exact (hlinks.inside p (Array.getElem?_eq_some_iff.1 hnode).1 child hchild).2
  · intro p
    change ((links.children[p]?).getD []).Pairwise _
    by_cases hp : p < nodes.size
    · rw [hchildren p]
      exact pairwise_of_firstOverlap (fun id => (hplaced id).le) (hlinks.apart p hp)
    · rw [Array.getElem?_eq_none (by rw [hlinks.size_children]; omega)]
      exact .nil

/-- A walk that ends: it visits the node on top of the stack and puts its children in its place,
until the stack is empty. -/
inductive Walks (t : Tree) : List NodeId → List NodeId → Prop
  | done : Walks t [] []
  | visit {id : NodeId} {stack visited : List NodeId} :
      Walks t (t.childrenOf id ++ stack) visited → Walks t (id :: stack) (id :: visited)

theorem walks_walk {t : Tree} (hbelow : ∀ p child : Nat, child ∈ t.childrenOf p → child < p)
    {fuel : Nat} {stack : List NodeId}
    (hfuel : (stack.map fun id => t.visitsUpTo (id + 1)).sum ≤ fuel) :
    t.Walks stack (t.walk fuel stack) := by
  induction fuel generalizing stack with
  | zero =>
    cases stack with
    | nil => exact .done
    | cons id stack =>
      have := t.visitsUpTo_pos (id + 1)
      simp only [List.map_cons, List.sum_cons] at hfuel
      omega
  | succ fuel ih =>
    cases stack with
    | nil => exact .done
    | cons id stack =>
      have hless := t.sum_visits_childrenOf (hbelow id)
      refine .visit (ih ?_)
      simp only [List.map_cons, List.sum_cons] at hfuel
      simp only [List.map_append, List.sum_append]
      omega

theorem WellLinked.walks_preorder {t : Tree} (h : t.WellLinked) : t.Walks [t.root] t.preorder := by
  refine walks_walk h.below ?_
  rw [List.map_singleton, List.sum_singleton, h.root_eq, ← h.size_children, visitsUpTo_size]

variable {t : Tree} {text : Text}

theorem Walks.exists_start_le (h : t.Nested text) {stack visited : List NodeId}
    (hwalks : t.Walks stack visited) {id : NodeId} (hid : id ∈ visited) :
    ∃ top ∈ stack, (t.span top).start ≤ (t.span id).start := by
  induction hwalks with
  | done => simp at hid
  | @visit top stack visited hrest ih =>
    rcases List.mem_cons.1 hid with rfl | hid
    · exact ⟨id, by simp, Nat.le_refl _⟩
    · obtain ⟨next, hnext, hle⟩ := ih hid
      rcases List.mem_append.1 hnext with hchild | hstack
      · have hinside := h.inside top next hchild
        simp only [Span.contains, Bool.and_eq_true, decide_eq_true_eq] at hinside
        exact ⟨top, by simp, by omega⟩
      · exact ⟨next, by simp [hstack], hle⟩

theorem Walks.pairwise_start (h : t.Nested text) {stack visited : List NodeId}
    (hwalks : t.Walks stack visited)
    (hstack : stack.Pairwise fun a b => (t.span a).stop ≤ (t.span b).start) :
    visited.Pairwise fun a b => (t.span a).start ≤ (t.span b).start := by
  induction hwalks with
  | done => exact .nil
  | @visit top stack visited hrest ih =>
    obtain ⟨htop, hstack⟩ := List.pairwise_cons.1 hstack
    have hle := (h.placed top).le
    have hinside {child : NodeId} (hchild : child ∈ t.childrenOf top) :
        (t.span top).start ≤ (t.span child).start ∧ (t.span child).stop ≤ (t.span top).stop := by
      simpa [Span.contains] using h.inside top child hchild
    refine List.pairwise_cons.2 ⟨?_, ih ?_⟩
    -- All that is still to come starts behind the children or behind the rest of the stack.
    · intro id hid
      obtain ⟨next, hnext, hstart⟩ := hrest.exists_start_le h hid
      rcases List.mem_append.1 hnext with hchild | hnext
      · have := (hinside hchild).1
        omega
      · have := htop next hnext
        omega
    -- The children end inside their parent, so the stack stays in order with them on top.
    · refine List.pairwise_append.2 ⟨h.apart top, hstack, ?_⟩
      intro child hchild next hnext
      have hstop := (hinside hchild).2
      have := htop next hnext
      omega

/-- A tree whose nodes are stretches of a text, and the walk over it. -/
structure IsTreeOver (t : Tree) (text : Text) : Prop where
  whole : IsWhole text (t.kind t.root) (t.span t.root)
  root_parent : t.parent? t.root = none
  /-- Any other node is once in the list of its parent, and in no other one. -/
  one_parent : ∀ id : Nat, id < t.size → id ≠ t.root → ∃ p : Nat, p < t.size ∧ t.parent? id = some p ∧
    ∀ q, (t.childrenOf q).count id = if q = p then 1 else 0
  inside : ∀ p : Nat, ∀ child ∈ t.childrenOf p, (t.span p).contains (t.span child) = true
  sorted : ∀ p : Nat, (t.childrenOf p).Pairwise fun a b => (t.span a).start ≤ (t.span b).start
  apart : ∀ p : Nat, (t.childrenOf p).Pairwise fun a b => (t.span a).stop ≤ (t.span b).start
  walks : t.Walks [t.root] t.preorder
  once : t.preorder.Perm (List.range t.size)
  in_order : t.preorder.Pairwise fun a b => (t.span a).start ≤ (t.span b).start

theorem isTreeOver_of_nested (hlinked : t.WellLinked) (hnested : t.Nested text) :
    t.IsTreeOver text := by
  have hwalks := hlinked.walks_preorder
  refine ⟨hnested.whole, ?_, ?_, hnested.inside, ?_, hnested.apart, hwalks,
    hlinked.preorder_perm_range, hwalks.pairwise_start hnested (List.pairwise_singleton _ _)⟩
  · cases hparent : t.parent? t.root with
    | none => rfl
    | some p => exact absurd ((hlinked.parent?_iff t.root p).1 hparent) (hlinked.root_free p)
  · intro id hid hroot
    rcases hlinked.covered id hid with rfl | ⟨p, hp⟩
    · exact absurd rfl hroot
    · have hparent := (hlinked.parent?_iff id p).2 hp
      refine ⟨p, hlinked.lt_size hp, hparent, ?_⟩
      intro q
      rw [hlinked.count_childrenOf, hparent]
      simp only [Option.some.injEq, eq_comm]
  · intro p
    refine (hnested.apart p).imp ?_
    intro a b hab
    have := (hnested.placed a).le
    omega

end Tree

namespace Source

variable {path : String} {text : Text} {doc : Json} {s : Source}

theorem nested_of_ofDocument (h : ofDocument path text doc = .ok s) :
    s.text = text ∧ s.tree.Nested text := by
  obtain ⟨nodes, tree, hnodes, htree, rfl⟩ := ofDocument_eq_ok h
  exact ⟨rfl, Tree.nested_of_load hnodes htree⟩

theorem text_of_load {document : Text} (h : load path text document = .ok s) : s.text = text := by
  obtain ⟨doc, -, h⟩ := exists_ofDocument_of_load h
  exact (nested_of_ofDocument h).1

/-- Loading gives a tree over the text, or else fails for another reason than a missing child or one
with two parents. -/
theorem isTreeOver_of_load (path : String) (text document : Text) :
    (∀ s, load path text document = .ok s → s.text = text ∧ s.tree.IsTreeOver text) ∧
    (∀ parent child, load path text document ≠ .error (.tree (.danglingChild parent child))) ∧
    ∀ child, load path text document ≠ .error (.tree (.sharedChild child)) := by
  have herror (e : TreeError) (h : load path text document = .error (.tree e)) :
      Tree.SpanError e := by
    unfold load at h
    split at h
    · cases h
    · exact treeError_of_ofDocument h
  refine ⟨?_, ?_, ?_⟩
  · intro s h
    obtain ⟨doc, -, h⟩ := exists_ofDocument_of_load h
    obtain ⟨htext, hnested⟩ := nested_of_ofDocument h
    exact ⟨htext, Tree.isTreeOver_of_nested (wellLinked_of_ofDocument h) hnested⟩
  · intro parent child h
    obtain ⟨_, _, _, _, hspan⟩ | ⟨_, _, _, hspan⟩ := herror _ h <;> cases hspan
  · intro child h
    obtain ⟨_, _, _, _, hspan⟩ | ⟨_, _, _, hspan⟩ := herror _ h <;> cases hspan

/-- A node with two parts, of which the first member stands last in the text. -/
def swappedDocument : Json := .obj [
  ("body", .arr [.obj [
    ("a", .obj [("range", .arr [.nat 2, .nat 3]), ("type", .str "X")]),
    ("b", .obj [("range", .arr [.nat 0, .nat 1]), ("type", .str "Y")]),
    ("range", .arr [.nat 0, .nat 3]), ("type", .str "Z")]]),
  ("type", .str "Program")]

def swappedDocumentText : Text :=
  ("\x7b\"body\":[\x7b\"a\":\x7b\"range\":[2,3],\"type\":\"X\"\x7d," ++
    "\"b\":\x7b\"range\":[0,1],\"type\":\"Y\"\x7d,\"range\":[0,3],\"type\":\"Z\"\x7d]," ++
    "\"type\":\"Program\"\x7d").toList

set_option maxRecDepth 10000 in
theorem parse?_swappedDocumentText : Json.parse? swappedDocumentText = some swappedDocument := by
  rfl

def swappedSource : Source where
  path := "a.js"
  text := "é b".toList
  tree :=
    { nodes := #[
        ⟨.other "Y" [], ⟨0, 2⟩⟩,
        ⟨.other "X" [], ⟨3, 4⟩⟩,
        ⟨.other "Z" [1, 0], ⟨0, 4⟩⟩,
        ⟨.program [2] .script, ⟨0, 4⟩⟩]
      children := #[[], [], [0, 1], [2]]
      parents := #[some 2, some 2, some 3, none]
      root := 3 }
  tokens := ⟨#[], #[]⟩

theorem load_swappedSource :
    load "a.js" swappedSource.text swappedDocumentText = .ok swappedSource := by
  have hnodes : Loader.load swappedSource.text swappedDocument = .ok swappedSource.tree.nodes := by
    decide +kernel
  have htree : Tree.ofNodes swappedSource.tree.nodes 3 = .ok swappedSource.tree := by cbv
  have htokens : TokenIndex.ofList (Loader.tokens swappedSource.text swappedDocument) =
      swappedSource.tokens := by cbv
  rw [load_eq_ofDocument parse?_swappedDocumentText, ofDocument_eq "a.js" hnodes htree, htokens]
  rfl

theorem isTreeOver_of_load_swapped :
    load "a.js" swappedSource.text swappedDocumentText = .ok swappedSource ∧
      swappedSource.tree.IsTreeOver swappedSource.text ∧
      swappedSource.tree.preorder = [3, 2, 0, 1] :=
  ⟨load_swappedSource, ((isTreeOver_of_load _ _ _).1 swappedSource load_swappedSource).2,
    by decide +kernel⟩

end Source

end ScriptLint
