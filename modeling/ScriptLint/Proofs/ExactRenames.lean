import ScriptLint.Proofs.CompatibleEdits
import ScriptLint.Proofs.Enclosure
import ScriptLint.Proofs.FittingFixes
import ScriptLint.Proofs.StableSorting

/-! Renames on the text. The occurrences of a variable are words that stand apart from one another,
so that a rename which is not declined respells each of them where it stands and leaves the rest of
the text alone. -/
namespace ScriptLint

open ScopeGraph

namespace NodeKind

variable {α : Type}

theorem inReadingOrder_identifier (name : String) (typeAnn : Option α) (optional : Bool) :
    (identifier name typeAnn optional).inReadingOrder = typeAnn.toList := by
  cases typeAnn <;> rfl

theorem inReadingOrder_exportSpecifier (binding : α) (renamed : Option α) :
    (exportSpecifier binding renamed).inReadingOrder = binding :: renamed.toList := by
  cases renamed <;> rfl

end NodeKind

namespace Tree

/-- The places in which one identifier is an outward name as well as the name of a variable. -/
inductive Outward (t : Tree) (id : NodeId) : Shorthand → Prop
  | property {owner : NodeId} {kind : PropertyKind} {computed method : Bool}
      (howner : t.kind owner = .property id none kind computed method) : Outward t id .property
  | defaulted {owner pattern right : NodeId} {kind : PropertyKind} {computed method : Bool}
      (howner : t.kind owner = .property pattern none kind computed method)
      (hpattern : t.kind pattern = .assignmentPattern id right) : Outward t id .property
  | exported {specifier : NodeId} (h : t.kind specifier = .exportSpecifier id none) :
      Outward t id .exported
  | imported {specifier : NodeId} (h : t.kind specifier = .importSpecifier id none) :
      Outward t id .imported

section Linked

variable {t : Tree}

theorem isShorthandOf_iff {p id : NodeId} :
    t.isShorthandOf p id = true ↔ ∃ value kind computed method,
      t.kind p = .property value none kind computed method ∧ t.keyOf value none = id := by
  unfold isShorthandOf
  split
  · rename_i value kind computed method hkind
    rw [beq_iff_eq]
    constructor
    · exact fun hkey => ⟨value, kind, computed, method, hkind, hkey⟩
    · rintro ⟨value', _, _, _, hkind', hkey⟩
      cases hkind.symm.trans hkind'
      exact hkey
  · rename_i hother
    simp only [Bool.false_eq_true, false_iff]
    rintro ⟨value, kind, computed, method, hkind, -⟩
    exact hother value kind computed method hkind

theorem keyOf_eq_self {id : NodeId} (hname : (usedName? t id).isSome) : t.keyOf id none = id := by
  unfold keyOf
  unfold usedName? at hname
  split at hname <;> simp_all

variable (h : t.WellLinked)
include h

theorem outward_of_shorthand? {id : NodeId} {form : Shorthand} (hform : t.shorthand? id = some form) :
    t.Outward id form := by
  obtain ⟨p, hp, hform⟩ := Option.bind_eq_some_iff.1 hform
  have hchild : id ∈ (t.kind p).inReadingOrder :=
    (h.perm p).subset ((h.parent?_iff id p).1 hp)
  -- Whatever has the identifier as the target of its default is its parent.
  have hdefault {value right : NodeId} (hpattern : t.kind value = .assignmentPattern id right) :
      p = value := by
    have hvalue : t.parent? id = some value :=
      parent?_of_mem h (by rw [hpattern]; exact NodeKind.left_mem_assignmentPattern ..)
    exact Option.some.inj (hp.symm.trans hvalue)
  split at hform
  · rename_i hkind
    split at hform
    · rename_i hshort
      cases hform
      obtain ⟨value, kind, computed, method, hkind', hkey⟩ := isShorthandOf_iff.1 hshort
      rcases keyOf_cases (t := t) value with heq | ⟨right, hpattern⟩ <;> rw [hkey] at *
      · exact .property (heq ▸ hkind')
      · rw [hdefault hpattern, hpattern] at hkind
        cases hkind
    · cases hform
  · rename_i left right hkind
    split at hform
    · rename_i hleft
      subst hleft
      obtain ⟨owner, howner, hform⟩ := Option.bind_eq_some_iff.1 hform
      split at hform
      · rename_i hshort
        cases hform
        obtain ⟨value, kind, computed, method, hkind', hkey⟩ := isShorthandOf_iff.1 hshort
        have hvalue : t.parent? value = some owner :=
          parent?_of_mem h (by rw [hkind']; exact NodeKind.value_mem_property ..)
        rcases keyOf_cases (t := t) value with heq | ⟨right', hpattern⟩ <;> rw [hkey] at *
        · rw [← heq, hp, Option.some.injEq] at hvalue
          rw [hvalue, hkind'] at hkind
          cases hkind
        · exact .defaulted hkind' hpattern
      · cases hform
    · cases hform
  · rename_i binding hkind
    cases hform
    rw [hkind, NodeKind.inReadingOrder_exportSpecifier] at hchild
    cases List.mem_singleton.1 hchild
    exact .exported hkind
  · rename_i binding hkind
    cases hform
    rw [hkind, NodeKind.inReadingOrder_importSpecifier] at hchild
    cases List.mem_singleton.1 hchild
    exact .imported hkind
  · cases hform

theorem shorthand?_of_outward {id : NodeId} (hname : (usedName? t id).isSome) {form : Shorthand}
    (hout : t.Outward id form) : t.shorthand? id = some form := by
  have hself := keyOf_eq_self hname
  cases hout with
  | @property owner kind computed method howner =>
    have hp : t.parent? id = some owner :=
      parent?_of_mem h (by rw [howner]; exact NodeKind.value_mem_property ..)
    have hshort : t.isShorthandOf owner id = true :=
      isShorthandOf_iff.2 ⟨id, kind, computed, method, howner, hself⟩
    simp [shorthand?, hp, howner, hshort]
  | @defaulted owner pattern right kind computed method howner hpattern =>
    have hp : t.parent? id = some pattern :=
      parent?_of_mem h (by rw [hpattern]; exact NodeKind.left_mem_assignmentPattern ..)
    have hp' : t.parent? pattern = some owner :=
      parent?_of_mem h (by rw [howner]; exact NodeKind.value_mem_property ..)
    have hkey : t.keyOf pattern none = id := by simp [keyOf, hpattern]
    have hshort : t.isShorthandOf owner id = true :=
      isShorthandOf_iff.2 ⟨pattern, kind, computed, method, howner, hkey⟩
    simp [shorthand?, hp, hp', hpattern, hshort]
  | @exported specifier hkind =>
    have hp : t.parent? id = some specifier :=
      parent?_of_mem h (by simp [hkind, NodeKind.inReadingOrder_exportSpecifier])
    simp [shorthand?, hp, hkind]
  | @imported specifier hkind =>
    have hp : t.parent? id = some specifier :=
      parent?_of_mem h (by simp [hkind, NodeKind.inReadingOrder_importSpecifier])
    simp [shorthand?, hp, hkind]

theorem shorthand?_eq_some_iff {id : NodeId} (hname : (usedName? t id).isSome) {form : Shorthand} :
    t.shorthand? id = some form ↔ t.Outward id form :=
  ⟨outward_of_shorthand? h, shorthand?_of_outward h hname⟩

end Linked

end Tree

def Shorthand.spell (old new : String) : Shorthand → String
  | .property => old ++ ": " ++ new
  | .exported => new ++ " as " ++ old
  | .imported => old ++ " as " ++ new

/-- What a rename writes for the old name: outward names stay. -/
inductive Tree.Spelled (t : Tree) (old new : String) (id : NodeId) : String → Prop
  | shared {form : Shorthand} (h : t.Outward id form) : Spelled t old new id (form.spell old new)
  | plain (h : ∀ form, ¬t.Outward id form) : Spelled t old new id new

theorem Tree.span_renameEdit (t : Tree) (old new : String) (id : NodeId) :
    (t.renameEdit old new id).span = .sized (t.span id).start old.utf8ByteSize := rfl

theorem Tree.WellLinked.spelled_renameEdit {t : Tree} (h : t.WellLinked) {id : NodeId}
    (hname : (usedName? t id).isSome) (old new : String) :
    t.Spelled old new id (t.renameEdit old new id).replacement := by
  unfold Tree.renameEdit
  cases hform : t.shorthand? id with
  | none =>
    refine .plain fun form hout => ?_
    rw [(Tree.shorthand?_eq_some_iff h hname).2 hout] at hform
    cases hform
  | some form =>
    have hout : t.Spelled old new id (form.spell old new) :=
      .shared ((Tree.shorthand?_eq_some_iff h hname).1 hform)
    cases form <;> exact hout

/-- Two texts with the same stretches between the places where some nodes begin. At these places one
has a word where the other has what is written for it. -/
inductive Respelled (t : Tree) (word : String) (writes : NodeId → String → Prop) :
    Nat → List NodeId → Text → Text → Prop
  | rest (offset : Nat) (u : Text) : Respelled t word writes offset [] u u
  | place {offset : Nat} {id : NodeId} {ids : List NodeId} {gap u u' : Text} {written : String}
      (hstart : (t.span id).start = offset + gap.size) (hwrites : writes id written)
      (h : Respelled t word writes (offset + gap.size + word.utf8ByteSize) ids u u') :
      Respelled t word writes offset (id :: ids) (gap ++ word.toList ++ u)
        (gap ++ written.toList ++ u')

namespace Source

/-- Identifiers, those of JSX included, begin with their names, and a type annotation comes after the
name. -/
structure NamesInPlace (s : Source) : Prop where
  nonempty : ∀ id name, usedName? s.tree id = some name → name ≠ ""
  begins : ∀ id name, usedName? s.tree id = some name → name.toList <+: s.nodeText id
  annotated : ∀ id name annotation isOptional,
    s.tree.kind id = .identifier name (some annotation) isOptional →
    (s.tree.span id).start + name.utf8ByteSize ≤ (s.tree.span annotation).start

namespace NamesInPlace

variable {s : Source} (hnames : s.NamesInPlace) (h : s.tree.WellLinked)
  (hnested : s.tree.Nested s.text) {id : NodeId} {name : String}

include hnames

theorem size_pos (hid : usedName? s.tree id = some name) : 0 < name.utf8ByteSize := by
  refine Nat.pos_of_ne_zero fun hzero => hnames.nonempty id name hid ?_
  rw [← Text.size_toList] at hzero
  exact String.toList_eq_nil_iff.1 (Text.eq_nil_of_size_eq_zero hzero)

include hnested

theorem textOf_name (hid : usedName? s.tree id = some name) :
    s.textOf (.sized (s.tree.span id).start name.utf8ByteSize) = name.toList ∧
      (s.tree.span id).start + name.utf8ByteSize ≤ (s.tree.span id).stop := by
  have hspan := hnested.placed id
  obtain ⟨u, v, w, htext, hu, huv⟩ :=
    Text.exists_append_of_boundaries hspan.start hspan.stop hspan.le
  obtain ⟨rest, hrest⟩ := hnames.begins id name hid
  rw [nodeText, textOf, htext, ← hu, ← huv, Text.slice_append] at hrest
  subst hrest
  have hsize : (u ++ name.toList).size = (s.tree.span id).start + name.utf8ByteSize := by
    rw [Text.size_append, hu, Text.size_toList]
  constructor
  · have hslice := Text.slice_append u name.toList (rest ++ w)
    rw [hu, hsize, List.append_assoc] at hslice
    rw [textOf, htext, List.append_assoc, List.append_assoc]
    exact hslice
  · rw [← hsize, ← huv]
    simp only [Text.size_append]
    omega

theorem placed_name (hid : usedName? s.tree id = some name) :
    (Span.sized (s.tree.span id).start name.utf8ByteSize).Placed s.text :=
  placed_of_isPrefix (hnested.placed id) (hnames.begins id name hid)

include h

theorem le_start_of_under {below : NodeId} (hid : usedName? s.tree id = some name)
    (hunder : s.tree.Under below id) (hne : below ≠ id) :
    (s.tree.span id).start + name.utf8ByteSize ≤ (s.tree.span below).start := by
  obtain ⟨child, hchild, hbelow⟩ := Tree.Under.exists_child h hunder hne
  have hinside := (Tree.Under.inside h hnested hbelow).1
  have hmem := (h.perm id).subset hchild
  unfold usedName? at hid
  split at hid
  · rename_i annotation isOptional hkind
    cases hid
    rw [hkind, NodeKind.inReadingOrder_identifier, Option.mem_toList] at hmem
    subst hmem
    exact Nat.le_trans (hnames.annotated id name child isOptional hkind) hinside
  · rename_i word hkind
    rw [hkind] at hmem
    cases hmem
  · cases hid

theorem apart {other : NodeId} (hid : usedName? s.tree id = some name)
    (hother : usedName? s.tree other = some name) (hne : id ≠ other) :
    (s.tree.span id).start + name.utf8ByteSize ≤ (s.tree.span other).start ∨
      (s.tree.span other).start + name.utf8ByteSize ≤ (s.tree.span id).start := by
  have hlt {node : NodeId} (hnode : usedName? s.tree node = some name) : node < s.tree.size := by
    refine Nat.lt_of_not_le fun hle => ?_
    simp [usedName?, Tree.kind_of_size_le hle] at hnode
  have hstop := (hnames.textOf_name hnested hid).2
  have hstop' := (hnames.textOf_name hnested hother).2
  rcases Tree.under_or_apart h hnested (hlt hid) (hlt hother) with hunder | hunder | hapart | hapart
  · exact .inr (hnames.le_start_of_under h hnested hother hunder hne)
  · exact .inl (hnames.le_start_of_under h hnested hid hunder hne.symm)
  · exact .inl (Nat.le_trans hstop hapart)
  · exact .inr (Nat.le_trans hstop' hapart)

theorem follows_renameEdits {ids : List NodeId} (hids : ∀ id ∈ ids, usedName? s.tree id = some name)
    (hnodup : ids.Nodup)
    (hsorted : ids.Pairwise fun a b => (s.tree.span a).start ≤ (s.tree.span b).start)
    (new : String) : (ids.map (s.tree.renameEdit name new)).Pairwise Edit.Follows := by
  refine List.pairwise_map.2 ((hsorted.and hnodup).imp_of_mem ?_)
  rintro a b ha hb ⟨hab, hne⟩
  have hpos := hnames.size_pos (hids a ha)
  have hapart := hnames.apart h hnested (hids a ha) (hids b hb) hne
  simp only [Edit.Follows, Tree.span_renameEdit, Span.sized]
  omega

end NamesInPlace

end Source

/-- Words in order, each where a node begins, are respelled by edits of just these words. -/
theorem respelled_spliced {t : Tree} {text : Text} {word : String} {writes : NodeId → String → Prop}
    {edit : NodeId → Edit} {ids : List NodeId}
    (hedit : ∀ id ∈ ids, writes id (edit id).replacement ∧
      (edit id).span = .sized (t.span id).start word.utf8ByteSize ∧
      text.slice (edit id).span.start (edit id).span.stop = word.toList)
    {offset : Nat} (hoffset : text.isBoundary offset = true)
    (horder : Patch.InOrder text offset (ids.map edit)) :
    Respelled t word writes offset ids (text.slice offset text.size)
      (Patch.spliced text offset (ids.map edit)) := by
  induction ids generalizing offset with
  | nil => exact .rest offset _
  | cons id ids ih =>
    obtain ⟨hwrites, hspan, hword⟩ := hedit id (by simp)
    obtain ⟨hle, hspan_le, hstart, hstop, hrest⟩ := horder
    have htail := ih (fun id' hid' => hedit id' (List.mem_cons_of_mem _ hid')) hstop hrest
    have hgap := Text.size_slice hoffset hstart hle
    have hsplit : text.slice offset text.size = text.slice offset (edit id).span.start ++
        word.toList ++ text.slice (edit id).span.stop text.size := by
      have hend := Text.le_size_of_isBoundary hstop
      rw [← hword, Text.slice_append_slice hoffset hstart hstop hle hspan_le,
        Text.slice_append_slice hoffset hstop text.isBoundary_size (by omega) hend]
    have hplace : (t.span id).start = offset + (text.slice offset (edit id).span.start).size := by
      have : (t.span id).start = (edit id).span.start := by rw [hspan]; rfl
      omega
    have hnext : (edit id).span.stop =
        offset + (text.slice offset (edit id).span.start).size + word.utf8ByteSize := by
      rw [← hplace, hspan]
      rfl
    rw [hsplit, List.map_cons, Patch.spliced]
    rw [hnext] at htail ⊢
    exact .place hplace hwrites htail

namespace SourceFile

/-- None of the reasons for which a rename is declined. -/
structure MayRename (f : SourceFile) (v : VariableId) (target : Variable) (new : String) : Prop where
  renames : target.name ≠ new
  valid : isValidIdentifier new = true
  free : f.scopes.findInScope? target.scope new = none
  uncaptured : f.isCaptured v target new = false
  unshadowed : f.shadowsOuterUse target new = false
  unexported : target.identifiers.any f.tree.isExported = false

theorem MayRename.rename?_eq {f : SourceFile} {v : VariableId} {target : Variable} {new : String}
    (h : f.MayRename v target new) (hv : f.scopes.varAt? v = some target) :
    f.rename? v new = (Patch.ofEdits
      ((f.occurrences v target).map (f.tree.renameEdit target.name new))).toOption := by
  simp only [rename?, hv, Option.bind_some, h.renames, h.valid, h.free, h.uncaptured, h.unshadowed,
    h.unexported, decide_false, Bool.not_true, Bool.or_false, Bool.false_eq_true, ↓reduceIte,
    Option.isSome_none]

theorem exists_sorted {α : Type} (l : List α) (key : α → Nat) :
    ∃ l' : List α, l'.Perm l ∧ l'.Pairwise fun a b => key a ≤ key b :=
  ⟨l.mergeSort fun a b => key a ≤ key b, List.mergeSort_perm .., pairwise_mergeSort_key key l⟩

theorem nodup_distinct (ids : List Nat) : (distinct ids).Nodup := by
  have hsorted : (ids.mergeSort fun a b => a ≤ b).Pairwise (· ≤ ·) := pairwise_mergeSort_key id ids
  exact (Tree.pairwise_dedupNeighbours id hsorted fun _ _ _ _ h => h).imp Nat.ne_of_lt

theorem occurrences_ne_nil {s : Source} {v : VariableId} {target : Variable}
    (hv : (ofSource s).scopes.varAt? v = some target) :
    (ofSource s).occurrences v target ≠ [] := by
  obtain ⟨id, hid⟩ := List.exists_mem_of_ne_nil _
    (identifiers_ne_nil_run s.tree (getElem?_vars_run hv))
  exact List.ne_nil_of_mem (mem_occurrences.2 (.inl hid))

/-- A patch that respells the occurrences of a variable, each once and where it stands. -/
structure IsRenaming (s : Source) (v : VariableId) (target : Variable) (new : String) (patch : Patch)
    (ids : List NodeId) (fixed : Text) : Prop where
  nodup : ids.Nodup
  mem_iff : ∀ id, id ∈ ids ↔ id ∈ target.identifiers ∨
    ∃ r ∈ (ofSource s).scopes.referencesOf v, r.identifier = id
  spans : patch.edits.map Edit.span =
    ids.map fun id => .sized (s.tree.span id).start target.name.utf8ByteSize
  words : ∀ e ∈ patch.edits, s.textOf e.span = target.name.toList
  applies : patch.apply s.text = .ok fixed
  respelled : Respelled s.tree target.name (s.tree.Spelled target.name new) 0 ids s.text fixed

/-- A rename that is not declined gives a patch, and this respells the occurrences of the variable
and nothing else. -/
theorem exists_isRenaming {path : String} {text : Text} {doc : Json} {s : Source}
    (h : Source.ofDocument path text doc = .ok s) (hnames : s.NamesInPlace) {v : VariableId}
    {target : Variable} {new : String} (hv : (ofSource s).scopes.varAt? v = some target)
    (hmay : (ofSource s).MayRename v target new) :
    ∃ patch ids fixed, (ofSource s).rename? v new = some patch ∧
      IsRenaming s v target new patch ids fixed := by
  have hlinked := Source.wellLinked_of_ofDocument h
  have hnested := (Source.nested_of_ofDocument h).1 ▸ (Source.nested_of_ofDocument h).2
  let edit := s.tree.renameEdit target.name new
  let found := (ofSource s).occurrences v target
  obtain ⟨ids, hperm, hsorted⟩ : ∃ ids : List NodeId, ids.Perm found ∧
      ids.Pairwise fun a b => (s.tree.span a).start ≤ (s.tree.span b).start :=
    exists_sorted found fun id => (s.tree.span id).start
  have hnodup : ids.Nodup := hperm.nodup_iff.2 (nodup_distinct _)
  have hname {id : NodeId} (hid : id ∈ ids) : usedName? s.tree id = some target.name :=
    usedName?_of_mem_occurrences hv (hperm.mem_iff.1 hid)
  have hfollows : (ids.map edit).Pairwise Edit.Follows :=
    hnames.follows_renameEdits hlinked hnested (fun _ hid => hname hid) hnodup hsorted new
  have hplaced : ∀ e ∈ ids.map edit, e.span.Placed s.text :=
    List.forall_mem_map.2 fun id hid => hnames.placed_name hnested (hname hid)
  have hword : ∀ e ∈ ids.map edit, s.textOf e.span = target.name.toList :=
    List.forall_mem_map.2 fun id hid => (hnames.textOf_name hnested (hname hid)).1
  have horder : Patch.InOrder s.text 0 (ids.map edit) :=
    Patch.Consistent.inOrder_of_placed hfollows hplaced fun _ _ => Nat.zero_le _
  have hpatch : Patch.ofEdits (found.map edit) = .ok ⟨ids.map edit⟩ := by
    rw [Patch.ofEdits_perm (hperm.map edit).symm fun e he => (hplaced e he).le]
    refine Patch.ofEdits_eq_ok ?_ ?_ (hfollows.imp And.right)
    · rw [ne_eq, List.map_eq_nil_iff]
      exact fun hnil => occurrences_ne_nil hv (hnil ▸ hperm).nil_eq.symm
    · exact List.forall_mem_map.2 fun id hid =>
        Nat.lt_add_of_pos_right (hnames.size_pos (hname hid))
  have hrespelled : Respelled s.tree target.name (s.tree.Spelled target.name new) 0 ids
      (s.text.slice 0 s.text.size) (Patch.spliced s.text 0 (ids.map edit)) := by
    refine respelled_spliced (fun id hid => ⟨?_, rfl, ?_⟩) s.text.isBoundary_zero horder
    · exact hlinked.spelled_renameEdit (Option.isSome_of_eq_some (hname hid)) target.name new
    · exact hword _ (List.mem_map_of_mem hid)
  rw [Text.slice_zero_size] at hrespelled
  refine ⟨⟨ids.map edit⟩, ids, _, ?_, hnodup, ?_, ?_, hword, Patch.apply_eq_ok horder, hrespelled⟩
  · rw [hmay.rename?_eq hv, toOption_eq_some]
    exact hpatch
  · intro id
    rw [hperm.mem_iff]
    exact mem_occurrences
  · rw [List.map_map]
    rfl

/-- An import that is handed on: both of its specifiers are shorthands. -/
def handedOnDocument : Json := .obj [
  ("body", .arr [
    .obj [
      ("source", .obj [("range", .arr [.nat 18, .nat 21]), ("raw", .str "'m'"),
        ("type", .str "Literal"), ("value", .str "m")]),
      ("specifiers", .arr [.obj [
        ("imported", .obj [("name", .str "a"), ("range", .arr [.nat 9, .nat 10]),
          ("type", .str "Identifier")]),
        ("local", .obj [("name", .str "a"), ("range", .arr [.nat 9, .nat 10]),
          ("type", .str "Identifier")]),
        ("range", .arr [.nat 9, .nat 10]), ("type", .str "ImportSpecifier")]]),
      ("range", .arr [.nat 0, .nat 22]), ("type", .str "ImportDeclaration")],
    .obj [
      ("specifiers", .arr [.obj [
        ("exported", .obj [("name", .str "a"), ("range", .arr [.nat 32, .nat 33]),
          ("type", .str "Identifier")]),
        ("local", .obj [("name", .str "a"), ("range", .arr [.nat 32, .nat 33]),
          ("type", .str "Identifier")]),
        ("range", .arr [.nat 32, .nat 33]), ("type", .str "ExportSpecifier")]]),
      ("range", .arr [.nat 23, .nat 36]), ("type", .str "ExportNamedDeclaration")]]),
  ("sourceType", .str "module"), ("type", .str "Program")]

def handedOnSource : Source where
  path := "a.js"
  text := "import \x7b a \x7d from 'm'; export \x7b a \x7d;".toList
  tree :=
    { nodes := #[
        ⟨.identifier "a" none false, ⟨32, 33⟩⟩,
        ⟨.exportSpecifier 0 none, ⟨32, 33⟩⟩,
        ⟨.exportNamedDeclaration none [1] none, ⟨23, 36⟩⟩,
        ⟨.literal (.string "m") "'m'", ⟨18, 21⟩⟩,
        ⟨.identifier "a" none false, ⟨9, 10⟩⟩,
        ⟨.importSpecifier 4 none, ⟨9, 10⟩⟩,
        ⟨.importDeclaration [5] 3, ⟨0, 22⟩⟩,
        ⟨.program [6, 2] .esModule, ⟨0, 36⟩⟩]
      children := #[[], [0], [1], [], [], [4], [5, 3], [6, 2]]
      parents := #[some 1, some 2, some 7, some 6, some 5, some 6, some 7, none]
      root := 7 }
  tokens := TokenIndex.ofList []

theorem ofDocument_handedOn :
    Source.ofDocument "a.js" handedOnSource.text handedOnDocument = .ok handedOnSource := by
  have hload : Loader.load handedOnSource.text handedOnDocument =
      .ok handedOnSource.tree.nodes := by decide +kernel
  have htree : Tree.ofNodes handedOnSource.tree.nodes 7 = .ok handedOnSource.tree := by cbv
  have htokens : Loader.tokens handedOnSource.text handedOnDocument = [] := by rfl
  rw [Source.ofDocument_eq "a.js" hload htree, htokens]
  rfl

theorem namesInPlace_handedOn : handedOnSource.NamesInPlace := by
  have hids {id : NodeId} {name : String} (h : usedName? handedOnSource.tree id = some name) :
      (id = 0 ∨ id = 4) ∧ name = "a" := by
    match id with
    | 0 | 4 =>
      cases h
      simp
    | 1 | 2 | 3 | 5 | 6 | 7 | _ + 8 => cases h
  refine ⟨?_, ?_, ?_⟩
  · intro id name h
    rw [(hids h).2]
    decide
  · intro id name h
    obtain ⟨rfl | rfl, rfl⟩ := hids h <;> decide
  · intro id name annotation isOptional h
    have hname : usedName? handedOnSource.tree id = some name := by simp [usedName?, h]
    obtain ⟨rfl | rfl, -⟩ := hids hname <;> cases h

theorem exists_isRenaming_handedOn :
    Source.ofDocument "a.js" handedOnSource.text handedOnDocument = .ok handedOnSource ∧
    handedOnSource.NamesInPlace ∧
    ∃ target, (ofSource handedOnSource).scopes.varAt? 0 = some target ∧
      (ofSource handedOnSource).MayRename 0 target "b" ∧
      ∃ patch ids fixed, (ofSource handedOnSource).rename? 0 "b" = some patch ∧
        IsRenaming handedOnSource 0 target "b" patch ids fixed := by
  have htarget : (ofSource handedOnSource).scopes.varAt? 0 =
      some ⟨"a", 1, .importBinding, [4], [5], [0]⟩ := by cbv
  have hmay : (ofSource handedOnSource).MayRename 0 ⟨"a", 1, .importBinding, [4], [5], [0]⟩ "b" :=
    ⟨by decide, by decide, by cbv, by cbv, by cbv, by cbv⟩
  exact ⟨ofDocument_handedOn, namesInPlace_handedOn, _, htarget, hmay,
    exists_isRenaming ofDocument_handedOn namesInPlace_handedOn htarget hmay⟩

end SourceFile

end ScriptLint
