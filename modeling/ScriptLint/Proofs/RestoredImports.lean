import ScriptLint.Proofs.ExactRenames
import ScriptLint.Proofs.ShiftedPlaces

/-! Named imports that get their own names back. The fix is the renaming of the variable with the edit
at the binding widened to the left, so the text around the binding is what the other edits of the
renaming make of it. -/
namespace ScriptLint

theorem Edit.perm_cons_filter {es : List Edit} {e : Edit} (he : e ∈ es)
    (hstarts : es.Pairwise fun a b => a.span.start ≠ b.span.start) :
    es.Perm (e :: es.filter fun x => x.span.start != e.span.start) := by
  have hnodup : es.Nodup := hstarts.imp fun hne heq => hne (by rw [heq])
  have hsame : es.erase e = es.filter fun x => x.span.start != e.span.start := by
    rw [hnodup.erase_eq_filter]
    refine List.filter_congr fun x hx => ?_
    rw [bne_eq, bne_eq, Bool.not_inj_iff, Bool.beq_eq_decide_eq, Bool.beq_eq_decide_eq,
      decide_eq_decide]
    refine ⟨fun heq => by rw [heq], fun heq => ?_⟩
    by_contra hne
    rcases pairwise_or hstarts hx he hne with h | h
    · exact h heq
    · exact h heq.symm
  rw [← hsame]
  exact List.perm_cons_erase he

namespace Text

/-- Around one of the edits the text is what the other edits make of it. -/
theorem replaceAll_around {e : Edit} {es : List Edit} {u cut w : Text}
    (hstart : e.span.start = u.size) (hstop : e.span.stop = (u ++ cut).size)
    (hapart : (e :: es).Pairwise fun a b => a.conflictsWith b = false)
    (hle : ∀ x ∈ es, x.span.start ≤ x.span.stop) :
    replaceAll (e :: es) 0 (u ++ cut ++ w) =
      replaceAll es 0 u ++ e.replacement.toList ++ replaceAll es e.span.stop w := by
  obtain ⟨hother, hothers⟩ := List.pairwise_cons.1 hapart
  have hsize : (u ++ cut).size = u.size + cut.size := size_append u cut
  have hside : ∀ x ∈ es, (x.span.start < u.size ∧ x.span.stop ≤ u.size) ∨
      (u.size < x.span.start ∧ e.span.stop ≤ x.span.start) := by
    intro x hx
    have hspan := hle x hx
    have hfree := hother x hx
    simp only [Edit.conflictsWith, Bool.or_eq_false_iff, beq_eq_false_iff_ne, Bool.and_eq_false_iff,
      decide_eq_false_iff_not] at hfree
    omega
  let q (x : Edit) : Bool := decide (x.span.start < u.size)
  have hbefore : ∀ x ∈ es, q x = true → x.span.stop ≤ 0 + u.size := by
    intro x hx hq
    have := hside x hx
    simp only [q, decide_eq_true_eq] at hq
    omega
  have hbehind : ∀ x ∈ es, q x = false → 0 + u.size ≤ x.span.start := by
    intro x _ hq
    simp only [q, decide_eq_false_iff_not] at hq
    omega
  have hcut : replaceAll (e :: es) 0 (u ++ (cut ++ w)) = replaceAll (es.filter q) 0 u ++
      replaceAll (e :: es.filter fun x => !q x) (0 + u.size) (cut ++ w) := by
    have hq : q e = false := by simp [q, hstart]
    have hsplit := replaceAll_filter (cut ++ w) q hapart
      (List.forall_mem_cons.2 ⟨by omega, hle⟩)
      (List.forall_mem_cons.2 ⟨by simp [hq], hbefore⟩)
      (List.forall_mem_cons.2 ⟨fun _ => by omega, hbehind⟩)
    rwa [List.filter_cons_of_neg (by simp [hq]), List.filter_cons_of_pos (by simp [hq])] at hsplit
  have hfront : replaceAll es 0 u = replaceAll (es.filter q) 0 u := by
    have hsplit := replaceAll_filter [] q hothers hle hbefore hbehind
    rw [List.append_nil] at hsplit
    rw [hsplit, replaceAll, putIn_eq_nil, List.append_nil]
    intro x hx
    have := hside x (List.mem_of_mem_filter hx)
    omega
  have hback : replaceAll es e.span.stop w =
      replaceAll (es.filter fun x => !q x) e.span.stop w := by
    rw [replaceAll_perm (List.filter_append_perm q es).symm (hothers.imp Edit.start_ne_of_conflictsWith)]
    refine replaceAll_append_of_past (fun x hx => ?_) w
    obtain ⟨hx, hq⟩ := List.mem_filter.1 hx
    have := hside x hx
    simp only [q, decide_eq_true_eq] at hq
    exact ⟨by omega, by omega⟩
  have hfollows : ∀ x ∈ es.filter fun x => !q x, e.Follows x := by
    intro x hx
    obtain ⟨hx, hq⟩ := List.mem_filter.1 hx
    have := hside x hx
    simp only [q, Bool.not_eq_true', decide_eq_false_iff_not] at hq
    exact ⟨by omega, by omega⟩
  rw [List.append_assoc u, hcut, Nat.zero_add, ← hstart, replaceAll_cons_append w (by omega) hfollows,
    hfront, hback, List.append_assoc]

end Text

namespace SourceFile

theorem perm_edits_of_rename? {s : Source} (hnames : s.NamesPlaced) {v : VariableId}
    {target : Variable} {new : String} {renamed : Patch}
    (hv : (ofSource s).scopes.varAt? v = some target)
    (hrename : (ofSource s).rename? v new = some renamed) {id : NodeId}
    (hid : id ∈ (ofSource s).occurrences v target) :
    renamed.edits.Perm (s.tree.renameEdit target.name new id ::
      renamed.edits.filter fun e => e.span.start != (s.tree.span id).start) := by
  have hpatched := (accepts_of_rename? hv hrename).patched
  refine Edit.perm_cons_filter ?_ (Source.fits_of_rename? hnames hrename).consistent.starts_ne
  exact (Patch.perm_of_ofEdits hpatched).mem_iff.2 (List.mem_map_of_mem hid)

end SourceFile

namespace ImportShape

open SourceFile

variable {s : Source} {b : NamedBinding}

/-- A text with the imported name for what stands between an offset inside the specifier and the end
of the variable's name. Everything else is as other edits leave it. -/
def KeepsUpTo (s : Source) (b : NamedBinding) (offset : Nat) (others : List Edit) (fixed : Text) :
    Prop :=
  fixed = Text.replaceAll others 0 (s.text.slice 0 (s.tree.span b.node).start) ++
    s.text.slice (s.tree.span b.node).start offset ++ b.imported.toList ++
    Text.replaceAll others (s.tree.nameSpan b.identifier).stop
      (s.text.slice (s.tree.nameSpan b.identifier).stop s.text.size)

theorem KeepsUpTo.iff_start_eq (hnested : s.tree.Nested s.text) {others : List Edit} {fixed : Text}
    (h : KeepsUpTo s b (s.tree.span b.node).start others fixed) {key : NodeId}
    (hkey : (s.tree.span b.node).start ≤ (s.tree.span key).start) :
    KeepsUpTo s b (s.tree.span key).start others fixed ↔
      (s.tree.span b.node).start = (s.tree.span key).start := by
  have hnode := (hnested.placed b.node).start
  have hsize := Text.size_slice hnode (hnested.placed key).start hkey
  constructor
  · intro hkeeps
    have hsame := congrArg Text.size (h.symm.trans hkeeps)
    simp only [Text.size_append, Text.slice_self s.text hnode, Text.size_nil] at hsame
    omega
  · intro heq
    rw [← heq]
    exact h

/-- The fix takes the edit at the binding out of the renaming and replaces the specifier up to the end
of the variable's name. -/
theorem exists_fixed_of_unrename? (hnested : s.tree.Nested s.text) (hnames : s.NamesPlaced)
    (hb : Begins s b) {patch : Patch} (hpatch : unrename? (.ofSource s) b = some patch) :
    ∃ v renamed fixed, (ofSource s).scopes.binding? b.identifier = some v ∧
      (ofSource s).rename? v b.imported = some renamed ∧ patch.apply s.text = .ok fixed ∧
      KeepsUpTo s b (s.tree.span b.node).start
        (renamed.edits.filter fun e => e.span.start != (s.tree.span b.identifier).start) fixed := by
  have hfits := fits_of_unrename? hnested hnames hb hpatch
  have hplaced := placed_of_begins hnested hnames hb
  have happly := hfits.consistent.apply_eq_ok hfits.placed
  simp only [unrename?, Option.bind_eq_bind, Option.bind_eq_some_iff] at hpatch
  obtain ⟨v, hv, renamed, hrename, hpatch⟩ := hpatch
  rw [show (ofSource s).tree = s.tree from rfl,
    (Source.placed_nameSpan hnested hnames b.identifier).2, toOption_eq_some] at hpatch
  refine ⟨v, renamed, _, hv, hrename, happly, ?_⟩
  rw [KeepsUpTo, hfits.consistent.eq_replaceAll happly, Text.slice_self s.text hplaced.start,
    List.append_nil]
  have hperm := (Patch.perm_of_ofEdits hpatch).trans (List.perm_append_singleton ..)
  have hle := fun e he => hfits.consistent.span_le e (hperm.mem_iff.2 he)
  have hapart := (Patch.ofEdits_eq_ok_iff fun e he =>
    hle e ((List.perm_append_singleton ..).mem_iff.1 he)).1 hpatch
  replace hapart := ((List.perm_append_singleton ..).pairwise_iff Edit.conflictsWith_symm).1 hapart.2.1
  rw [Text.replaceAll_perm hperm hfits.consistent.starts_ne]
  -- The text is what stands before the specifier, what is replaced, and the rest.
  obtain ⟨u, cut, w, htext, hu, hcut⟩ :=
    Text.exists_append_of_boundaries hplaced.start hplaced.stop hplaced.le
  have hleft : s.text.slice 0 (s.tree.span b.node).start = u := by
    rw [htext, ← hu]
    simpa using Text.slice_append [] u (cut ++ w)
  have hright : s.text.slice (s.tree.nameSpan b.identifier).stop s.text.size = w := by
    rw [htext, ← hcut]
    simpa using Text.slice_append (u ++ cut) w []
  rw [hleft, hright, htext]
  exact Text.replaceAll_around hu.symm hcut.symm hapart (List.forall_mem_cons.1 hle).2

/-- A named import or property that gets its own name back. What stands between the start of the
specifier and the imported name is lost; all other text is kept, and all other occurrences are renamed
as they would be by themselves. -/
theorem keepsUpTo_imported_iff_of_checkNamed {path : String} {text : Text} {doc : Json}
    (h : Source.ofDocument path text doc = .ok s)
    (hbegins : ∀ id name, ScopeGraph.usedName? s.tree id = some name →
      name.toList <+: s.nodeText id)
    {id : NodeId} {shape : Shape} (hshape : shape? s.tree id = some shape) (hb : b ∈ shape.named)
    {r : ShapeRule} {specifier : String} {x : Finding}
    (hcheck : checkNamed (.ofSource s) r specifier b = some x) {fix : Fix}
    (hfix : x.fix = some fix) :
    ∃ v target renamed others fixed, (ofSource s).scopes.binding? b.identifier = some v ∧
      (ofSource s).scopes.varAt? v = some target ∧
      (ofSource s).rename? v b.imported = some renamed ∧
      renamed.edits.Perm (s.tree.renameEdit target.name b.imported b.identifier :: others) ∧
      fix.patch.apply s.text = .ok fixed ∧
      KeepsUpTo s b (s.tree.span b.node).start others fixed ∧
      (KeepsUpTo s b (s.tree.span (s.tree.importedNode b.node)).start others fixed ↔
        (s.tree.span b.node).start = (s.tree.span (s.tree.importedNode b.node)).start) := by
  have hlinked := Source.wellLinked_of_ofDocument h
  obtain ⟨rfl, hnested⟩ := Source.nested_of_ofDocument h
  have hnames := Source.namesPlaced_of_begins hnested hbegins
  have hunder := s.tree.importedNode_under hlinked b.node
  obtain ⟨patch, hpatch, hsame⟩ : ∃ patch, unrename? (.ofSource s) b = some patch ∧
      fix.patch = patch := by
    unfold checkNamed at hcheck
    split at hcheck
    · cases hcheck
      cases hfix
    · split at hcheck
      · cases hcheck
        obtain ⟨patch, hpatch, rfl⟩ := Option.map_eq_some_iff.1 hfix
        exact ⟨patch, hpatch, rfl⟩
      · cases hcheck
  obtain ⟨v, renamed, fixed, hv, hrename, happly, hkeeps⟩ :=
    exists_fixed_of_unrename? hnested hnames (begins_of_shape? hlinked hnested hshape b hb) hpatch
  obtain ⟨target, htarget, hid⟩ := ((integrity_ofSource h).binding_iff _ _).1 hv
  refine ⟨v, target, renamed, _, fixed, hv, htarget, hrename, ?_, hsame ▸ happly, hkeeps,
    hkeeps.iff_start_eq hnested (hunder.inside hlinked hnested).1⟩
  exact perm_edits_of_rename? hnames htarget hrename (mem_occurrences.2 (.inl hid))

def typedDocument : Json := .obj [
  ("body", .arr [
    .obj [
      ("range", .arr [.nat 0, .nat 40]),
      ("source", .obj [("range", .arr [.nat 36, .nat 39]), ("raw", .str "'m'"),
        ("type", .str "Literal"), ("value", .str "m")]),
      ("specifiers", .arr [
        .obj [
          ("imported", .obj [("name", .str "a"), ("range", .arr [.nat 9, .nat 10]),
            ("type", .str "Identifier")]),
          ("local", .obj [("name", .str "b"), ("range", .arr [.nat 14, .nat 15]),
            ("type", .str "Identifier")]),
          ("range", .arr [.nat 9, .nat 15]), ("type", .str "ImportSpecifier")],
        .obj [
          ("imported", .obj [("name", .str "c"), ("range", .arr [.nat 22, .nat 23]),
            ("type", .str "Identifier")]),
          ("local", .obj [("name", .str "d"), ("range", .arr [.nat 27, .nat 28]),
            ("type", .str "Identifier")]),
          ("range", .arr [.nat 17, .nat 28]), ("type", .str "ImportSpecifier")]]),
      ("type", .str "ImportDeclaration")],
    .obj [
      ("expression", .obj [("name", .str "b"), ("range", .arr [.nat 41, .nat 42]),
        ("type", .str "Identifier")]),
      ("range", .arr [.nat 41, .nat 43]), ("type", .str "ExpressionStatement")]]),
  ("sourceType", .str "module"), ("type", .str "Program")]

def typedSource : Source where
  path := "a.ts"
  text := "import \x7b a as b, type c as d \x7d from 'm'; b;".toList
  tree :=
    { nodes := #[
        ⟨.identifier "b" none false, ⟨41, 42⟩⟩,
        ⟨.expressionStatement 0 none, ⟨41, 43⟩⟩,
        ⟨.literal (.string "m") "'m'", ⟨36, 39⟩⟩,
        ⟨.identifier "d" none false, ⟨27, 28⟩⟩,
        ⟨.identifier "c" none false, ⟨22, 23⟩⟩,
        ⟨.importSpecifier 4 (some 3), ⟨17, 28⟩⟩,
        ⟨.identifier "b" none false, ⟨14, 15⟩⟩,
        ⟨.identifier "a" none false, ⟨9, 10⟩⟩,
        ⟨.importSpecifier 7 (some 6), ⟨9, 15⟩⟩,
        ⟨.importDeclaration [8, 5] 2, ⟨0, 40⟩⟩,
        ⟨.program [9, 1] .esModule, ⟨0, 43⟩⟩]
      children := #[[], [0], [], [], [], [4, 3], [], [], [7, 6], [8, 5, 2], [9, 1]]
      parents := #[some 1, some 10, some 9, some 5, some 5, some 9, some 8, some 8, some 9, some 10,
        none]
      root := 10 }
  tokens := TokenIndex.ofList []

def keepNames : ShapeRule where
  pattern := ⟨⟨⟨#[.accept, .save 1 0, .look .textEnd 1, .chars ⟨[(109, 109)]⟩ 2, .look .textStart 3,
    .save 0 4], 5⟩, 1⟩⟩
  defaultBinding := none
  namespaceBinding := none
  named := none
  mayRename := false
  case := none

theorem ofDocument_typed :
    Source.ofDocument "a.ts" typedSource.text typedDocument = .ok typedSource := by
  have hload : Loader.load typedSource.text typedDocument = .ok typedSource.tree.nodes := by
    decide +kernel
  have htree : Tree.ofNodes typedSource.tree.nodes 10 = .ok typedSource.tree := by cbv
  have htokens : Loader.tokens typedSource.text typedDocument = [] := by rfl
  rw [Source.ofDocument_eq "a.ts" hload htree, htokens]
  rfl

theorem shape?_typed :
    shape? typedSource.tree 9 = some ⟨none, none, [⟨8, "a", 6⟩, ⟨5, "c", 3⟩]⟩ := by
  cbv

theorem begins_typed (id : NodeId) (name : String)
    (hname : ScopeGraph.usedName? typedSource.tree id = some name) :
    name.toList <+: typedSource.nodeText id := by
  have hall : ∀ id ∈ List.range 11, (ScopeGraph.usedName? typedSource.tree id).all
      (fun name => name.toList.isPrefixOf (typedSource.nodeText id)) = true := by decide
  have hid : id < 11 := by
    refine Nat.lt_of_not_le fun hle => ?_
    rw [ScopeGraph.usedName?, Tree.kind_of_size_le (t := typedSource.tree) hle] at hname
    cases hname
  have hprefix := hall id (List.mem_range.2 hid)
  rw [hname, Option.all_some, List.isPrefixOf_iff_prefix] at hprefix
  exact hprefix

theorem keepsUpTo_imported_iff_of_checkNamed_typed :
    let b : NamedBinding := ⟨8, "a", 6⟩
    let fix : Fix := .safe ⟨[⟨⟨9, 15⟩, "a"⟩, ⟨⟨41, 42⟩, "a"⟩]⟩ "Import \"a\" under its own name."
    checkNamed (.ofSource typedSource) keepNames "m" b =
        some ⟨⟨9, 15⟩, "Do not rename the named import \"a\".", some fix⟩ ∧
      ∃ others fixed, fix.patch.apply typedSource.text = .ok fixed ∧
        KeepsUpTo typedSource b 9 others fixed := by
  intro b fix
  have hcheck : checkNamed (.ofSource typedSource) keepNames "m" b =
      some ⟨⟨9, 15⟩, "Do not rename the named import \"a\".", some fix⟩ := by cbv
  obtain ⟨-, -, -, others, fixed, -, -, -, -, happly, -, hkeeps⟩ :=
    keepsUpTo_imported_iff_of_checkNamed ofDocument_typed begins_typed shape?_typed (by simp [b]) hcheck rfl
  exact ⟨hcheck, others, fixed, happly, hkeeps.2 rfl⟩

theorem not_keepsUpTo_imported_typed :
    let b : NamedBinding := ⟨5, "c", 3⟩
    let patch : Patch := ⟨[⟨⟨17, 28⟩, "c"⟩]⟩
    let fixed : Text := "import \x7b a as b, c \x7d from 'm'; b;".toList
    Source.ofDocument "a.ts" typedSource.text typedDocument = .ok typedSource ∧
      checkNamed (.ofSource typedSource) keepNames "m" b =
        some ⟨⟨17, 28⟩, "Do not rename the named import \"c\".",
          some (.safe patch "Import \"c\" under its own name.")⟩ ∧
      ((ofSource typedSource).scopes.binding? 3).bind
          (fun v => (ofSource typedSource).rename? v "c") =
        some ⟨[typedSource.tree.renameEdit "d" "c" 3]⟩ ∧
      patch.apply typedSource.text = .ok fixed ∧
      ¬KeepsUpTo typedSource b (typedSource.tree.span (typedSource.tree.importedNode 5)).start []
        fixed := by
  intro b patch fixed
  refine ⟨ofDocument_typed, by cbv, by cbv, by decide, ?_⟩
  rw [KeepsUpTo]
  decide

end ImportShape

end ScriptLint
