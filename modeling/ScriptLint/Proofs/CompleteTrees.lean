import ScriptLint.Proofs.KeptMembers
import ScriptLint.Proofs.LoadedTree
import ScriptLint.Proofs.TreeWalk

/-! What of a document stands in its tree. Every node was made from one object, and its children
from objects inside that one. A tree is complete if every object with a type has its node; members
that a known type does not read have none, and nothing below them is seen. -/
namespace ScriptLint

open Json
open Document (typeOf text? typedUnder Excepted Keeps)

def NodeKind.ReadFrom (kind : NodeKind NodeId) (text : Text) (origin : NodeId → Object)
    (o : Object) : Prop :=
  ∃ k, Document.kind text o (typeOf o) = .ok k ∧ kind = k.number kind.inReadingOrder ∧
    k.inReadingOrder = kind.inReadingOrder.map fun child => .obj (origin child)

theorem NodeKind.ReadFrom.congr {text : Text} {origin origin' : NodeId → Object} {o : Object}
    {kind : NodeKind NodeId} (h : kind.ReadFrom text origin o)
    (hsame : ∀ child ∈ kind.inReadingOrder, origin' child = origin child) :
    kind.ReadFrom text origin' o := by
  obtain ⟨k, hk, hkind, hchildren⟩ := h
  refine ⟨k, hk, hkind, ?_⟩
  rw [hchildren]
  exact List.map_congr_left fun child hchild => by rw [hsame child hchild]

namespace Loader

variable {t : Text} {arena arena' : Array Node} {origin : NodeId → Object}

/-- Every node so far was made from its origin, and names earlier nodes. -/
def Origins (t : Text) (arena : Array Node) (origin : NodeId → Object) : Prop :=
  ∀ (n : Nat) (node : Node), arena[n]? = some node →
    node.kind.ReadFrom t origin (origin n) ∧ ∀ child ∈ node.kind.inReadingOrder, child < n

/-- Nodes are added, and those there keep their origins. -/
structure Extends (t : Text) (arena : Array Node) (origin : NodeId → Object) (arena' : Array Node)
    (origin' : NodeId → Object) : Prop where
  origins : Origins t arena' origin'
  size_le : arena.size ≤ arena'.size
  same : ∀ n < arena.size, origin' n = origin n

theorem Extends.trans {arena'' : Array Node} {origin' origin'' : NodeId → Object}
    (h : Extends t arena origin arena' origin') (h' : Extends t arena' origin' arena'' origin'') :
    Extends t arena origin arena'' origin'' := by
  refine ⟨h'.origins, h.size_le.trans h'.size_le, fun n hn => ?_⟩
  rw [h'.same n (hn.trans_le h.size_le), h.same n hn]

theorem Origins.push {o : Object} {k : NodeKind Json} {ids : List NodeId} {span : Span}
    (horigin : Origins t arena origin) (hk : Document.kind t o (typeOf o) = .ok k)
    (hids : ∀ id ∈ ids, id < arena.size)
    (hdocs : k.inReadingOrder = ids.map fun id => .obj (origin id)) :
    Extends t arena origin (arena.push ⟨k.number ids, span⟩)
      (Function.update origin arena.size o) := by
  have hsame (n : Nat) (hn : n < arena.size) :
      Function.update origin arena.size o n = origin n :=
    Function.update_of_ne hn.ne _ _
  have hlength : ids.length = k.inReadingOrder.length := by rw [hdocs, List.length_map]
  have hchildren : (k.number ids).inReadingOrder = ids :=
    NodeKind.inReadingOrder_number hlength
  refine ⟨fun n node hnode => ?_, by simp, hsame⟩
  rw [Array.getElem?_push] at hnode
  split at hnode
  · rename_i hn
    cases hnode
    rw [hn, Function.update_self, hchildren]
    have hread : (k.number ids).ReadFrom t origin o := by
      refine ⟨k, hk, ?_, ?_⟩
      · rw [hchildren]
      · rw [hchildren, hdocs]
    refine ⟨hread.congr fun id hid => ?_, hids⟩
    rw [hchildren] at hid
    exact hsame id (hids id hid)
  · obtain ⟨hread, hbelow⟩ := horigin n node hnode
    have hn := (Array.getElem?_eq_some_iff.1 hnode).1
    rw [hsame n hn]
    exact ⟨hread.congr fun child hchild => hsame child ((hbelow child hchild).trans hn), hbelow⟩

theorem exists_extends_of_loadNode {doc : Json} (h : loadNode t arena doc = .ok arena')
    (horigin : Origins t arena origin) :
    ∃ origin', Extends t arena origin arena' origin' ∧ 0 < arena'.size ∧
      doc = .obj (origin' (arena'.size - 1)) := by
  refine loadNode_induction
    (P := fun arena doc arena' => ∀ origin, Origins t arena origin →
      ∃ origin', Extends t arena origin arena' origin' ∧ 0 < arena'.size ∧
        doc = .obj (origin' (arena'.size - 1)))
    (Q := fun arena docs arena' ids => ∀ origin, Origins t arena origin →
      ∃ origin', Extends t arena origin arena' origin' ∧ (∀ id ∈ ids, id < arena'.size) ∧
        docs = ids.map fun id => .obj (origin' id)) ?_ ?_ ?_ h origin horigin
  · intro arena o span kind mid ids _ hkind hchildren origin horigin
    obtain ⟨origin₁, hext, hids, hdocs⟩ := hchildren origin horigin
    exact ⟨_, hext.trans (hext.origins.push hkind hids hdocs), by simp, by simp⟩
  · intro arena origin horigin
    exact ⟨origin, ⟨horigin, Nat.le_refl _, fun _ _ => rfl⟩, by simp, rfl⟩
  · intro arena doc docs mid ids arena' hchildren hnode origin horigin
    obtain ⟨origin₁, hext₁, hids, hdocs⟩ := hchildren origin horigin
    obtain ⟨origin₂, hext₂, hpos, rfl⟩ := hnode origin₁ hext₁.origins
    refine ⟨origin₂, hext₁.trans hext₂, ?_, ?_⟩
    · rw [List.forall_mem_cons]
      exact ⟨Nat.sub_lt hpos Nat.one_pos, fun id hid => (hids id hid).trans_le hext₂.size_le⟩
    · rw [List.map_cons, hdocs]
      congr 1
      exact List.map_congr_left fun id hid => by rw [hext₂.same id (hids id hid)]

end Loader

/-- An object with a type under a member of another object that has to be kept. -/
def Document.IsMember (text : Text) (o m : Object) : Prop :=
  ∃ name, ¬Excepted text o name ∧ m ∈ typedUnder o name

namespace Tree

variable {t : Tree} {text : Text} {program : Object} {origin : NodeId → Object}

structure MadeFrom (t : Tree) (text : Text) (program : Object) (origin : NodeId → Object) :
    Prop where
  root : origin t.root = program
  nodes : ∀ n < t.size, (t.kind n).ReadFrom text origin (origin n)

/-- The members of the object of a node have their nodes among its children. -/
def CompleteAt (t : Tree) (text : Text) (origin : NodeId → Object) (n : NodeId) : Prop :=
  Keeps text (origin n) ((t.childrenOf n).map origin)

theorem madeFrom_of_ofDocument {path : String} {doc : Json} {s : Source}
    (h : Source.ofDocument path text doc = .ok s) :
    ∃ program origin, doc = .obj program ∧ s.tree.MadeFrom text program origin := by
  obtain ⟨nodes, tree, hnodes, htree, rfl⟩ := Source.ofDocument_eq_ok h
  have hnone : Loader.Origins text #[] fun _ => [] := by
    intro n node hnode
    simp at hnode
  obtain ⟨_, _, _, hloaded⟩ := Loader.load_eq_ok hnodes
  obtain ⟨origin, hext, -, rfl⟩ := Loader.exists_extends_of_loadNode hloaded hnone
  obtain ⟨links, -, rfl⟩ := ofNodes_eq_ok htree
  refine ⟨_, origin, rfl, rfl, fun n hn => ?_⟩
  have hnode : nodes[n]? = some nodes[n] := Array.getElem?_eq_getElem hn
  have hkind : kind ⟨nodes, links.children, links.parents, nodes.size - 1⟩ n = nodes[n].kind := by
    simp [kind, node, hnode]
  rw [hkind]
  exact (hext.origins n nodes[n] hnode).1

namespace MadeFrom

variable (h : t.MadeFrom text program origin) (hlinked : t.WellLinked)
include h hlinked

theorem completeAt_iff {n : NodeId} (hn : n < t.size) :
    t.CompleteAt text origin n ↔ Document.NamesTyped text (origin n) := by
  obtain ⟨k, hk, -, hchildren⟩ := h.nodes n hn
  have hobjects : k.inReadingOrder = ((t.kind n).inReadingOrder.map origin).map .obj := by
    rw [hchildren, List.map_map]
    rfl
  have hperm := (hlinked.perm n).map origin
  rw [← Document.keeps_iff hk hobjects]
  constructor
  · exact fun hkeeps names hnodup hnames => (hkeeps names hnodup hnames).trans hperm.subperm
  · exact fun hkeeps names hnodup hnames => (hkeeps names hnodup hnames).trans hperm.symm.subperm

theorem exists_of_reaches (hcomplete : ∀ n < t.size, t.CompleteAt text origin n) {m : Object}
    (hreaches : Relation.ReflTransGen (Document.IsMember text) program m) :
    ∃ n < t.size, origin n = m := by
  induction hreaches with
  | refl => exact ⟨t.root, Nat.lt_of_succ_le (Nat.le_of_eq hlinked.root_eq), h.root⟩
  | tail _ hmember ih =>
    obtain ⟨n, hn, rfl⟩ := ih
    obtain ⟨name, hname, hm⟩ := hmember
    have hkept := hcomplete n hn [name] (by simp) (by simpa using hname)
    obtain ⟨child, hchild, rfl⟩ := List.mem_map.1 (hkept.subset (by simpa using hm))
    exact ⟨child, (hlinked.below n child hchild).trans hn, rfl⟩

omit hlinked in
theorem identifierName?_eq {n : NodeId} (hn : n < t.size) (hty : typeOf (origin n) = "Identifier") :
    ∃ name, text? (origin n) "name" = some name ∧ t.identifierName? n = some name := by
  obtain ⟨k, hk, hkind, -⟩ := h.nodes n hn
  rw [hty] at hk
  obtain ⟨cells, hcells, rfl⟩ := Document.kind_eq_ok.1 hk
  obtain ⟨name, hname, hcells⟩ := bind_eq_ok.1 hcells
  obtain ⟨_, -, hcells⟩ := bind_eq_ok.1 hcells
  cases hcells
  refine ⟨name, ?_, ?_⟩
  · change Document.text (origin n) "Identifier" "name" = .ok name at hname
    unfold Document.text at hname
    split at hname
    · rename_i htext
      cases hname
      exact htext
    · cases hname
  · unfold identifierName?
    rw [hkind]
    rfl

end MadeFrom

end Tree

namespace Source

variable {path : String} {text document : Text} {s : Source}

/-- Every node of a loaded tree keeps the typed members of its object exactly if the type of the
object is unknown or names them, and if all nodes do, every identifier is met. -/
theorem completeAt_iff_of_load (h : load path text document = .ok s) :
    ∃ program origin, Json.parse? document = some (.obj program) ∧
      s.tree.MadeFrom text program origin ∧
      (∀ n < s.tree.size,
        s.tree.CompleteAt text origin n ↔ Document.NamesTyped text (origin n)) ∧
      ((∀ n < s.tree.size, s.tree.CompleteAt text origin n) →
        ∀ m, Relation.ReflTransGen (Document.IsMember text) program m →
          ∃ n ∈ s.tree.preorder, origin n = m ∧
            (typeOf m = "Identifier" →
              ∃ name, text? m "name" = some name ∧ s.tree.identifierName? n = some name)) := by
  obtain ⟨doc, hdoc, h⟩ := exists_ofDocument_of_load h
  have hlinked := wellLinked_of_ofDocument h
  obtain ⟨program, origin, rfl, hmade⟩ := Tree.madeFrom_of_ofDocument h
  refine ⟨program, origin, hdoc, hmade, fun n hn => hmade.completeAt_iff hlinked hn, ?_⟩
  intro hcomplete m hreaches
  obtain ⟨n, hn, rfl⟩ := hmade.exists_of_reaches hlinked hcomplete hreaches
  exact ⟨n, hlinked.mem_preorder.2 hn, rfl, hmade.identifierName?_eq hn⟩

def namedType : Object :=
  [("name", .str "T"), ("range", .arr [.nat 14, .nat 15]), ("type", .str "Identifier")]

def typeReference : Object :=
  [("range", .arr [.nat 14, .nat 15]), ("type", .str "TSTypeReference"),
    ("typeName", .obj namedType)]

def returnedType : Object :=
  [("range", .arr [.nat 12, .nat 15]), ("type", .str "TSTypeAnnotation"),
    ("typeAnnotation", .obj typeReference)]

def annotatedFunction : Object :=
  [("body", .obj [("body", .arr []), ("range", .arr [.nat 16, .nat 18]),
      ("type", .str "BlockStatement")]),
    ("id", .obj [("name", .str "f"), ("range", .arr [.nat 9, .nat 10]),
      ("type", .str "Identifier")]),
    ("params", .arr []),
    ("range", .arr [.nat 0, .nat 18]),
    ("returnType", .obj returnedType),
    ("type", .str "FunctionDeclaration")]

def annotatedProgram : Object :=
  [("body", .arr [.obj annotatedFunction]), ("type", .str "Program")]

def annotatedDocumentText : Text :=
  ["\x7b\"body\":[\x7b\"body\":\x7b\"body\":[],\"range\":[16,18],",
    "\"type\":\"BlockStatement\"\x7d,",
    "\"id\":\x7b\"name\":\"f\",\"range\":[9,10],\"type\":\"Identifier\"\x7d,\"params\":[],",
    "\"range\":[0,18],\"returnType\":\x7b\"range\":[12,15],\"type\":\"TSTypeAnnotation\",",
    "\"typeAnnotation\":\x7b\"range\":[14,15],\"type\":\"TSTypeReference\",",
    "\"typeName\":\x7b\"name\":\"T\",\"range\":[14,15],\"type\":\"Identifier\"\x7d\x7d\x7d,",
    "\"type\":\"FunctionDeclaration\"\x7d],\"type\":\"Program\"\x7d"].flatMap String.toList

set_option maxRecDepth 10000 in
theorem parse?_annotatedDocumentText :
    Json.parse? annotatedDocumentText = some (.obj annotatedProgram) := by
  rfl

def annotatedSource : Source where
  path := "a.ts"
  text := "function f(): T \x7b\x7d".toList
  tree :=
    { nodes := #[
        ⟨.blockStatement [], ⟨16, 18⟩⟩,
        ⟨.identifier "f" none false, ⟨9, 10⟩⟩,
        ⟨.functionDeclaration ⟨some 1, [], 0, false, false⟩, ⟨0, 18⟩⟩,
        ⟨.program [2] .script, ⟨0, 18⟩⟩]
      children := #[[], [], [1, 0], [2]]
      parents := #[some 2, some 2, some 3, none]
      root := 3 }
  tokens := ⟨#[], #[]⟩

theorem load_annotatedSource :
    load "a.ts" annotatedSource.text annotatedDocumentText = .ok annotatedSource := by
  have hnodes : Loader.load annotatedSource.text (.obj annotatedProgram) =
      .ok annotatedSource.tree.nodes := by
    decide
  have htree : Tree.ofNodes annotatedSource.tree.nodes 3 = .ok annotatedSource.tree := by cbv
  have htokens : TokenIndex.ofList (Loader.tokens annotatedSource.text (.obj annotatedProgram)) =
      annotatedSource.tokens := by cbv
  rw [load_eq_ofDocument parse?_annotatedDocumentText, ofDocument_eq "a.ts" hnodes htree, htokens]
  rfl

theorem reaches_namedType :
    Relation.ReflTransGen (Document.IsMember annotatedSource.text) annotatedProgram namedType := by
  have hfunction : Document.IsMember annotatedSource.text annotatedProgram annotatedFunction :=
    ⟨"body", by decide, List.mem_singleton.2 rfl⟩
  have hreturned : Document.IsMember annotatedSource.text annotatedFunction returnedType :=
    ⟨"returnType", by decide, List.mem_singleton.2 rfl⟩
  have hreference : Document.IsMember annotatedSource.text returnedType typeReference :=
    ⟨"typeAnnotation", by decide, List.mem_singleton.2 rfl⟩
  have hname : Document.IsMember annotatedSource.text typeReference namedType :=
    ⟨"typeName", by decide, List.mem_singleton.2 rfl⟩
  exact .head hfunction (.head hreturned (.head hreference (.single hname)))

theorem identifierName?_annotatedSource_ne (n : NodeId) :
    annotatedSource.tree.identifierName? n ≠ some "T" := by
  match n with
  | 0 | 1 | 2 | 3 => decide
  | n + 4 => simp [Tree.identifierName?, Tree.kind, Tree.node, annotatedSource, Node.missing]

theorem namedType_unseen :
    load "a.ts" annotatedSource.text annotatedDocumentText = .ok annotatedSource ∧
      Json.parse? annotatedDocumentText = some (.obj annotatedProgram) ∧
      Relation.ReflTransGen (Document.IsMember annotatedSource.text) annotatedProgram namedType ∧
      typeOf namedType = "Identifier" ∧ text? namedType "name" = some "T" ∧
      ∀ n, annotatedSource.tree.identifierName? n ≠ some "T" :=
  ⟨load_annotatedSource, parse?_annotatedDocumentText, reaches_namedType, by decide, by decide,
    identifierName?_annotatedSource_ne⟩

theorem completeAt_iff_of_load_annotated :
    load "a.ts" annotatedSource.text annotatedDocumentText = .ok annotatedSource ∧
      ∃ origin, annotatedSource.tree.MadeFrom annotatedSource.text annotatedProgram origin ∧
        ∃ n < annotatedSource.tree.size,
          ¬annotatedSource.tree.CompleteAt annotatedSource.text origin n ∧
          ¬Document.NamesTyped annotatedSource.text (origin n) := by
  refine ⟨load_annotatedSource, ?_⟩
  obtain ⟨program, origin, hparse, hmade, hiff, hseen⟩ :=
    completeAt_iff_of_load load_annotatedSource
  rw [parse?_annotatedDocumentText, Option.some.injEq, Json.obj.injEq] at hparse
  subst hparse
  refine ⟨origin, hmade, ?_⟩
  by_contra hnone
  push Not at hnone
  have hcomplete (n : NodeId) (hn : n < annotatedSource.tree.size) :
      annotatedSource.tree.CompleteAt annotatedSource.text origin n := by
    by_contra hlost
    exact hlost ((hiff n hn).2 (hnone n hn hlost))
  obtain ⟨n, -, -, hname⟩ := hseen hcomplete namedType reaches_namedType
  obtain ⟨name, htext, hnode⟩ := hname (by decide)
  have hT : text? namedType "name" = some "T" := by decide
  rw [hT, Option.some.injEq] at htext
  exact identifierName?_annotatedSource_ne n (by rw [hnode, ← htext])

end Source

end ScriptLint
