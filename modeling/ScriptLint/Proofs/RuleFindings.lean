import ScriptLint.Proofs.TokenNavigation
import ScriptLint.Rule.Registry

/-! What rules report. Whatever its options and the other files are, a rule points at places of a few
sorts and makes its fixes in a few ways. Facts about all findings are proved from these, sort by sort
and not rule by rule. -/
namespace ScriptLint

namespace Rule

theorem exists_of_mem_run {r : Rule} {options : Option Json} {files : FileSystem} {file : SourceFile}
    {asked : FileCache} {d : Diagnostic} (hd : d ∈ r.run options files file asked) :
    ∃ check, r.withOptions options = some check ∧
      ∃ x ∈ ((check files file).run asked).1, file.diagnose r.info.id x = d := by
  unfold run findings at hd
  split at hd
  · rename_i check hcheck
    exact ⟨check, hcheck, List.mem_map.1 hd⟩
  · cases hd

theorem fst_run_attempt {r : Rule} {options : Option Json} {files : FileSystem} {file : SourceFile}
    {asked : FileCache} : ((r.attempt options files file).run asked).1 =
      if (r.run options files file asked).all Diagnostic.isOrdered then
        some (r.run options files file asked) else none := rfl

theorem exists_of_withOptions {O : Type} {info : RuleInfo} {schema : Json} {default : O}
    {decode : Json → Option O} {check : O → FileSystem → SourceFile → Cached (List Finding)}
    {options : Option Json} {run : FileSystem → SourceFile → Cached (List Finding)}
    (hrun : (ofCached info schema default decode check).withOptions options = some run) :
    ∃ o, run = check o := by
  cases options with
  | none =>
    cases hrun
    exact ⟨default, rfl⟩
  | some v =>
    obtain ⟨o, -, rfl⟩ := Option.map_eq_some_iff.1 hrun
    exact ⟨o, rfl⟩

theorem forall_of_cachedCheck {O : Type} {info : RuleInfo} {schema : Json} {default : O}
    {decode : Json → Option O} {check : O → FileSystem → SourceFile → Cached (List Finding)}
    {file : SourceFile} {P : Finding → Prop}
    (h : ∀ o files asked, ∀ x ∈ ((check o files file).run asked).1, P x) {options : Option Json}
    {run : FileSystem → SourceFile → Cached (List Finding)}
    (hrun : (ofCached info schema default decode check).withOptions options = some run)
    (files : FileSystem) (asked : FileCache) : ∀ x ∈ ((run files file).run asked).1, P x := by
  obtain ⟨o, rfl⟩ := exists_of_withOptions hrun
  exact h o files asked

theorem forall_of_check {O : Type} {info : RuleInfo} {schema : Json} {default : O}
    {decode : Json → Option O} {check : O → FileSystem → SourceFile → List Finding}
    {file : SourceFile} {P : Finding → Prop} (h : ∀ o files, ∀ x ∈ check o files file, P x)
    {options : Option Json} {run : FileSystem → SourceFile → Cached (List Finding)}
    (hrun : (of info schema default decode check).withOptions options = some run)
    (files : FileSystem) (asked : FileCache) : ∀ x ∈ ((run files file).run asked).1, P x := by
  obtain ⟨o, rfl⟩ := exists_of_withOptions hrun
  exact h o files

end Rule

namespace Source

/-- Places that rules report. -/
inductive Reports (s : Source) : Span → Prop where
  | node (id : NodeId) : Reports s (s.tree.span id)
  | token {comments : Bool} {t : Token} : t ∈ s.tokens.select comments → Reports s t.span
  /-- An opening brace up to the token behind it. -/
  | blockStart {opening first : Token} : opening ∈ s.tokens.all →
      s.tokens.after? opening.span.stop true = some first →
      Reports s ⟨opening.span.start, first.span.start⟩
  /-- What is behind the last token of a block, with the closing brace. -/
  | blockEnd {last closing : Token} : closing ∈ s.tokens.select false →
      s.tokens.before? closing.span.start true = some last →
      Reports s ⟨last.span.stop, closing.span.stop⟩

/-- Nodes of one list of the tree, in their order there. -/
inductive Listed (s : Source) : List NodeId → Prop where
  | statements {id : NodeId} {all elements : List NodeId} :
      (s.tree.kind id).statements? = some all → elements.Sublist all → Listed s elements
  | properties {id : NodeId} {all elements : List NodeId} :
      s.tree.kind id = .objectExpression all → elements.Sublist all → Listed s elements

theorem Listed.sublist {s : Source} {elements sub : List NodeId} (h : s.Listed elements)
    (hsub : sub.Sublist elements) : s.Listed sub := by
  cases h with
  | statements hid hall => exact .statements hid (hsub.trans hall)
  | properties hid hall => exact .properties hid (hsub.trans hall)

/-- Ways in which rules make the patches of their fixes. -/
inductive Makes (s : Source) : Patch → Prop where
  | rename {v : VariableId} {name : String} {patch : Patch} :
      (SourceFile.ofSource s).rename? v name = some patch → Makes s patch
  /-- The own name for a named import. -/
  | unrename {id : NodeId} {shape : ImportShape.Shape} {b : ImportShape.NamedBinding}
      {patch : Patch} : ImportShape.shape? s.tree id = some shape → b ∈ shape.named →
      ImportShape.unrename? (.ofSource s) b = some patch → Makes s patch
  | replaceNode (id : NodeId) (text : String) : Makes s (.single ⟨s.tree.span id, text⟩)
  | insertBefore (id : NodeId) (text : String) :
      Makes s (.single (.insert (s.tree.span id).start text))
  | insertBehind (id : NodeId) (text : String) :
      Makes s (.single (.insert (s.tree.span id).stop text))
  | replaceToken {t : Token} : t ∈ s.tokens.all → (text : String) →
      Makes s (.single ⟨t.span, text⟩)
  /-- A blank line between two statements. -/
  | padding {a b : NodeId} {e : Edit} : s.Listed [a, b] →
      s.ensureBlankLine? (PaddingAroundMultiline.gap s (s.tree.span a).stop (s.tree.span b).start).1
        (PaddingAroundMultiline.gap s (s.tree.span a).stop (s.tree.span b).start).2 = some e →
      Makes s (.single e)
  | keepOneLine {opening first : Token} {e : Edit} : opening ∈ s.tokens.all →
      s.tokens.after? opening.span.stop true = some first →
      BlockPadding.keepOneLine? s opening first = some e → Makes s (.single e)
  | collapse {first next : Nat} {e : Edit} : s.collapseBlankLines? first next = some e →
      Makes s (.single e)
  | reorder {elements : List NodeId} {order : List Nat} {separator : Separator} {patch : Patch} :
      s.Listed elements → s.reorder? elements order separator = some patch → Makes s patch

end Source

structure Finding.IsMade (s : Source) (x : Finding) : Prop where
  place : s.Reports x.span
  fix : ∀ fix, x.fix = some fix → s.Makes fix.patch

variable {s : Source}

theorem Finding.isMade_node (id : NodeId) (message : String) :
    Finding.IsMade s ⟨s.tree.span id, message, none⟩ :=
  ⟨.node id, by simp⟩

theorem Finding.isMade_rename (id : NodeId) (message : String) (bound : Option VariableId)
    (actual expected : String) : Finding.IsMade s ⟨s.tree.span id, message,
      bound.bind fun v => (SourceFile.ofSource s).renameFix? v actual expected⟩ := by
  refine ⟨.node id, fun fix hfix => ?_⟩
  obtain ⟨v, -, hfix⟩ := Option.bind_eq_some_iff.1 hfix
  obtain ⟨patch, hpatch, rfl⟩ := Option.map_eq_some_iff.1 hfix
  exact .rename hpatch

/-! Names of imports and exports. -/

theorem ImportName.isMade_of_mem_check (o : Options) (files : FileSystem) :
    ∀ x ∈ check o files (.ofSource s), x.IsMade s := by
  intro x hx
  obtain ⟨id, -, hx⟩ := List.mem_flatMap.1 hx
  unfold checkNode at hx
  split at hx
  · obtain ⟨b, -, hx⟩ := List.mem_filterMap.1 hx
    simp only [checkBinding, Option.bind_eq_bind, Option.bind_eq_some_iff] at hx
    obtain ⟨actual, -, expected, -, hx⟩ := hx
    split at hx
    · cases hx
    · cases hx
      exact Finding.isMade_rename ..
  · simp at hx

theorem ExportName.isMade_of_mem_check (o : Options) (files : FileSystem) :
    ∀ x ∈ check o files (.ofSource s), x.IsMade s := by
  intro x hx
  obtain ⟨id, -, hx⟩ := List.mem_filterMap.1 hx
  unfold checkNode at hx
  split at hx
  · simp only [Option.bind_eq_bind, Option.bind_eq_some_iff] at hx
    obtain ⟨e, -, actual, -, base, -, hx⟩ := hx
    split at hx
    · cases hx
    · cases hx
      exact Finding.isMade_rename ..
  · cases hx

/-! Shapes of imports. -/

namespace ImportShape

theorem isMade_of_checkBinding {statement : NodeId} {specifier label : String}
    {binding : Option NodeId} {requirement : Option Requirement} {nameOf : String → String}
    {x : Finding}
    (hx : checkBinding (.ofSource s) statement specifier label binding requirement nameOf = some x) :
    x.IsMade s := by
  unfold checkBinding at hx
  split at hx
  · cases hx
    exact Finding.isMade_node ..
  · cases hx
    exact Finding.isMade_node ..
  · cases hx
    exact Finding.isMade_node ..
  · simp only [Option.bind_eq_bind, Option.bind_eq_some_iff] at hx
    obtain ⟨actual, -, hx⟩ := hx
    split at hx
    · cases hx
    · cases hx
      exact Finding.isMade_rename ..
  · cases hx

theorem isMade_of_checkNamed {id : NodeId} {shape : Shape} (hshape : shape? s.tree id = some shape)
    {b : NamedBinding} (hb : b ∈ shape.named) {r : ShapeRule} {specifier : String} {x : Finding}
    (hx : checkNamed (.ofSource s) r specifier b = some x) : x.IsMade s := by
  unfold checkNamed at hx
  split at hx
  · cases hx
    exact Finding.isMade_node ..
  · split at hx
    · cases hx
      refine ⟨.node _, fun fix hfix => ?_⟩
      obtain ⟨patch, hpatch, rfl⟩ := Option.map_eq_some_iff.1 hfix
      exact .unrename hshape hb hpatch
    · cases hx

theorem isMade_of_mem_check (o : Options) (files : FileSystem) :
    ∀ x ∈ check o files (.ofSource s), x.IsMade s := by
  intro x hx
  obtain ⟨id, -, hx⟩ := List.mem_flatMap.1 hx
  unfold checkNode at hx
  split at hx
  · simp at hx
  · dsimp only at hx
    split at hx
    · rename_i hshape
      simp only [checkShape, List.mem_append, Option.mem_toList, List.mem_filterMap] at hx
      rcases hx with (hx | hx) | ⟨b, hb, hx⟩
      · exact isMade_of_checkBinding hx
      · exact isMade_of_checkBinding hx
      · exact isMade_of_checkNamed hshape hb hx
    · simp at hx

end ImportShape

/-! Places of imports. -/

/-- What a run over a list gives comes from one of its turns. -/
theorem Cached.exists_of_mem_mapM {α β : Type} {f : α → Cached β} {l : List α} {c : FileCache} {b : β}
    (hb : b ∈ ((l.mapM f).run c).1) : ∃ a ∈ l, ∃ c', ((f a).run c').1 = b := by
  induction l generalizing c with
  | nil => cases hb
  | cons a l ih =>
    rw [List.mapM_cons, StateT.run_bind] at hb
    rcases List.mem_cons.1 hb with rfl | hb
    · exact ⟨a, List.mem_cons_self, c, rfl⟩
    · obtain ⟨a', ha', h⟩ := ih hb
      exact ⟨a', List.mem_cons_of_mem a ha', h⟩

namespace TypeExports

theorem isMade_of_checkSpecifier {d : TypeDefinition} {package : String} {isAlone : Bool}
    {id : NodeId} {x : Finding} (hx : checkSpecifier s.tree d package isAlone id = some x) :
    x.IsMade s := by
  unfold checkSpecifier at hx
  split at hx
  · split at hx
    · cases hx
    · cases hx
      refine ⟨.node _, fun fix hfix => ?_⟩
      split at hfix
      · obtain ⟨name, -, rfl⟩ := Option.map_eq_some_iff.1 hfix
        exact .replaceNode id _
      · cases hfix
  · simp only [Option.bind_eq_bind, Option.bind_eq_some_iff] at hx
    obtain ⟨name, -, hx⟩ := hx
    split at hx
    · cases hx
    · cases hx
      exact Finding.isMade_node ..
  · cases hx

theorem exists_of_mem_checkNode {files : FileSystem} {file : SourceFile} {id : NodeId}
    {asked : FileCache} {x : Finding} (hx : x ∈ ((checkNode files file id).run asked).1) :
    ∃ d package isAlone specifier,
      checkSpecifier file.tree d package isAlone specifier = some x := by
  unfold checkNode at hx
  split at hx
  · split at hx
    · split at hx
      · cases hx
      · rw [StateT.run_bind] at hx
        generalize (Cached.declarations files _ _).run asked = looked at hx
        obtain ⟨found, asked'⟩ := looked
        cases found with
        | some d =>
          obtain ⟨specifier, -, hx⟩ := List.mem_filterMap.1 hx
          exact ⟨d, _, _, specifier, hx⟩
        | none => cases hx
    · cases hx
  · cases hx

/-- Whatever has been asked before, what is found is found at a specifier. -/
theorem exists_of_mem_check {o : Unit} {files : FileSystem} {file : SourceFile} {asked : FileCache}
    {x : Finding} (hx : x ∈ ((check o files file).run asked).1) :
    ∃ d package isAlone specifier,
      checkSpecifier file.tree d package isAlone specifier = some x := by
  obtain ⟨found, hfound, hx⟩ := List.mem_flatten.1 hx
  obtain ⟨id, -, asked', rfl⟩ := Cached.exists_of_mem_mapM hfound
  exact exists_of_mem_checkNode hx

theorem isMade_of_mem_check (o : Unit) (files : FileSystem) (asked : FileCache) :
    ∀ x ∈ ((check o files (.ofSource s)).run asked).1, x.IsMade s := by
  intro x hx
  obtain ⟨d, package, isAlone, specifier, hx⟩ := exists_of_mem_check hx
  exact isMade_of_checkSpecifier hx

end TypeExports

theorem IndexImportPath.isMade_of_mem_check (o : Unit) (files : FileSystem) :
    ∀ x ∈ check o files (.ofSource s), x.IsMade s := by
  intro x hx
  obtain ⟨id, -, hx⟩ := List.mem_filterMap.1 hx
  simp only [checkNode, Option.bind_eq_bind, Option.bind_eq_some_iff] at hx
  obtain ⟨request, -, directory, -, hx⟩ := hx
  split at hx
  · cases hx
  · split at hx
    · cases hx
    · cases hx
      refine ⟨.node _, fun fix hfix => ?_⟩
      cases hfix
      exact .replaceNode request.literal _

theorem NearestIndexImport.isMade_of_mem_check (o : Unit) (files : FileSystem) :
    ∀ x ∈ check o files (.ofSource s), x.IsMade s := by
  intro x hx
  obtain ⟨id, -, hx⟩ := List.mem_filterMap.1 hx
  simp only [checkNode, Option.bind_eq_bind, Option.bind_eq_some_iff] at hx
  obtain ⟨request, -, name, -, hx⟩ := hx
  split at hx
  · cases hx
  · split at hx
    · cases hx
    · obtain ⟨index, -, hx⟩ := Option.bind_eq_some_iff.1 hx
      cases hx
      refine ⟨.node _, fun fix hfix => ?_⟩
      cases hfix
      exact .replaceNode request.literal _

/-! Comments and calls. -/

theorem CommentStyle.isMade_of_mem_check (o : Unit) (files : FileSystem) :
    ∀ x ∈ check o files (.ofSource s), x.IsMade s := by
  intro x hx
  obtain ⟨comment, hcomment, hx⟩ := List.mem_filterMap.1 hx
  have hmem : comment ∈ s.tokens.select true :=
    Array.mem_toList_iff.1 (List.mem_of_mem_filter hcomment)
  simp only [checkComment, Option.bind_eq_bind, Option.bind_eq_some_iff] at hx
  obtain ⟨v, -, hx⟩ := hx
  cases hx
  refine ⟨.token hmem, fun fix hfix => ?_⟩
  obtain ⟨content, -, rfl⟩ := Option.map_eq_some_iff.1 hfix
  exact .replaceToken hmem _

namespace Concurrency

theorem makes_of_edit? {limit : Nat} {arguments : List NodeId} {e : Edit}
    (he : edit? s.tree limit arguments = some e) : s.Makes (.single e) := by
  unfold edit? at he
  dsimp only at he
  split at he
  · cases he
    exact .insertBehind ..
  · split at he
    · cases he
      exact .replaceNode ..
    · split at he
      · cases he
      · cases he
        exact .insertBefore ..
    · cases he
  · cases he

theorem isMade_of_mem_check (o : Options) (files : FileSystem) :
    ∀ x ∈ check o files (.ofSource s), x.IsMade s := by
  intro x hx
  obtain ⟨call, -, hx⟩ := List.mem_filterMap.1 hx
  simp only [checkCall, Option.bind_eq_bind, Option.bind_eq_some_iff] at hx
  obtain ⟨reference, -, v, -, hx⟩ := hx
  split at hx
  · cases hx
  · obtain ⟨edit, hedit, hx⟩ := Option.bind_eq_some_iff.1 hx
    cases hx
    refine ⟨.node _, fun fix hfix => ?_⟩
    cases hfix
    exact makes_of_edit? hedit

end Concurrency

/-! Blank lines. -/

theorem makes_of_lineFix? {edit : Option Edit} {description : String} {fix : Fix}
    (hfix : lineFix? edit description = some fix) (h : ∀ e, edit = some e → s.Makes (.single e)) :
    s.Makes fix.patch := by
  obtain ⟨e, he, rfl⟩ := Option.map_eq_some_iff.1 hfix
  exact h e he

namespace PaddingAroundMultiline

theorem isMade_of_checkPair {a b : NodeId} (hab : s.Listed [a, b]) {x : Finding}
    (hx : checkPair s a b = some x) : x.IsMade s := by
  unfold checkPair at hx
  dsimp only at hx
  split at hx
  · cases hx
  · cases hx
    exact ⟨.node _, fun fix hfix => makes_of_lineFix? hfix fun e he => .padding hab he⟩

theorem isMade_of_checkPairs {statements : List NodeId} (hlisted : s.Listed statements) :
    ∀ x ∈ checkPairs s statements, x.IsMade s := by
  fun_induction checkPairs s statements with
  | case1 a b rest ih =>
    intro x hx
    rcases List.mem_append.1 hx with hx | hx
    · exact isMade_of_checkPair (hlisted.sublist (by simp)) (Option.mem_toList.1 hx)
    · exact ih (hlisted.sublist (List.sublist_cons_self _ _)) x hx
  | case2 => simp

theorem isMade_of_mem_check (o : Unit) (files : FileSystem) :
    ∀ x ∈ check o files (.ofSource s), x.IsMade s := by
  intro x hx
  obtain ⟨id, -, hx⟩ := List.mem_flatMap.1 hx
  split at hx
  · rename_i hid
    exact isMade_of_checkPairs (.statements hid (List.Sublist.refl _)) x hx
  · simp at hx

end PaddingAroundMultiline

namespace BlockPadding

theorem isMade_of_checkStart {id : NodeId} {opening first : Token}
    (hopening : opening ∈ s.tokens.all)
    (hfirst : s.tokens.after? opening.span.stop true = some first) {x : Finding}
    (hx : checkStart s id opening first = some x) : x.IsMade s := by
  unfold checkStart at hx
  dsimp only at hx
  split at hx
  · split at hx
    · cases hx
    · cases hx
      exact ⟨.blockStart hopening hfirst, fun fix hfix => makes_of_lineFix? hfix fun e he =>
        .keepOneLine hopening hfirst he⟩
  · split at hx
    · cases hx
      exact ⟨.blockStart hopening hfirst, fun fix hfix => makes_of_lineFix? hfix fun e he =>
        .collapse he⟩
    · cases hx

theorem isMade_of_checkEnd {last closing : Token} (hclosing : closing ∈ s.tokens.select false)
    (hlast : s.tokens.before? closing.span.start true = some last) {x : Finding}
    (hx : checkEnd s last closing = some x) : x.IsMade s := by
  unfold checkEnd at hx
  split at hx
  · cases hx
    exact ⟨.blockEnd hclosing hlast, fun fix hfix => makes_of_lineFix? hfix fun e he =>
      .collapse he⟩
  · cases hx

theorem isMade_of_mem_check (o : Unit) (files : FileSystem) :
    ∀ x ∈ check o files (.ofSource s), x.IsMade s := by
  intro x hx
  obtain ⟨id, -, hx⟩ := List.mem_flatMap.1 hx
  unfold checkBlock at hx
  dsimp only at hx
  split at hx
  · rename_i opening closing hopening hclosing
    have hopening := TokenIndex.mem_all_of_mem_within (List.mem_of_find?_eq_some hopening)
    have hclosing := (Option.filter_eq_some_iff.1 (Option.filter_eq_some_iff.1 hclosing).1).1
    split at hx
    · rename_i first last hfirst hlast
      split at hx
      · simp at hx
      · rcases List.mem_append.1 hx with hx | hx
        · exact isMade_of_checkStart hopening hfirst (Option.mem_toList.1 hx)
        · exact isMade_of_checkEnd (TokenIndex.mem_select_of_before? hclosing) hlast
            (Option.mem_toList.1 hx)
    · simp at hx
  · simp at hx

end BlockPadding

theorem NoBlankLinesInChain.isMade_of_mem_check (o : Unit) (files : FileSystem) :
    ∀ x ∈ check o files (.ofSource s), x.IsMade s := by
  intro x hx
  obtain ⟨id, -, hx⟩ := List.mem_filterMap.1 hx
  split at hx
  · simp only [checkMember, Option.bind_eq_bind, Option.bind_eq_some_iff] at hx
    obtain ⟨dot, hdot, previous, -, hx⟩ := hx
    have hmem := TokenIndex.mem_select_of_before? (Option.filter_eq_some_iff.1 hdot).1
    split at hx
    · cases hx
      exact ⟨.token hmem, fun fix hfix => makes_of_lineFix? hfix fun e he => .collapse he⟩
    · cases hx
  · cases hx

/-! Orders. -/

theorem sublist_of_mem_collect {name? : NodeId → Option Text} {elements : List NodeId}
    {segment : Segment} (h : segment ∈ segments.collect name? elements) :
    (segment.map Prod.fst).Sublist elements := by
  fun_induction segments.collect name? elements generalizing segment with
  | case1 => simp_all
  | case2 id ids name s ss hcollect hname ih =>
    -- The element joins the run that comes next; the runs behind it are not touched.
    rcases List.mem_cons.1 h with rfl | h
    · exact (ih (by simp [hcollect])).cons_cons id
    · exact (ih (by simp [hcollect, h])).cons id
  | case3 id ids name hcollect hname ih =>
    rw [List.mem_singleton.1 h]
    simp
  | case4 id ids hname ih =>
    rcases List.mem_cons.1 h with rfl | h
    · simp
    · exact (ih h).cons id

theorem Source.Listed.segment {elements : List NodeId} (h : s.Listed elements)
    {name? : NodeId → Option Text} {segment : Segment} (hsegment : segment ∈ segments name? elements) :
    s.Listed (segment.map Prod.fst) :=
  h.sublist (sublist_of_mem_collect (List.mem_of_mem_filter hsegment))

theorem PropertyOrder.isMade_of_mem_check (priorities : List Priority) (files : FileSystem) :
    ∀ x ∈ check priorities files (.ofSource s), x.IsMade s := by
  intro x hx
  unfold check at hx
  split at hx
  · simp at hx
  · obtain ⟨id, -, hx⟩ := List.mem_flatMap.1 hx
    split at hx
    · rename_i properties hid
      obtain ⟨segment, hsegment, hx⟩ := List.mem_filterMap.1 hx
      have hlisted := (Source.Listed.properties hid (List.Sublist.refl _)).segment hsegment
      simp only [checkSegment, Option.bind_eq_bind, Option.bind_eq_some_iff] at hx
      obtain ⟨d, -, hx⟩ := hx
      cases hx
      refine ⟨.node _, fun fix hfix => ?_⟩
      obtain ⟨patch, hpatch, rfl⟩ := Option.map_eq_some_iff.1 hfix
      split at hpatch
      · exact .reorder hlisted hpatch
      · cases hpatch
    · simp at hx

theorem ImportOrder.isMade_of_mem_check (priorities : List Priority) (files : FileSystem) :
    ∀ x ∈ check priorities files (.ofSource s), x.IsMade s := by
  intro x hx
  unfold check at hx
  split at hx
  · simp at hx
  · obtain ⟨id, -, hx⟩ := List.mem_flatMap.1 hx
    split at hx
    · rename_i body isModule hid
      obtain ⟨segment, hsegment, hx⟩ := List.mem_filterMap.1 hx
      have hbody : (s.tree.kind id).statements? = some body := by
        rw [show s.tree.kind id = _ from hid]
        rfl
      have hlisted :=
        (Source.Listed.statements hbody (List.takeWhile_sublist _)).segment hsegment
      simp only [checkSegment, Option.bind_eq_bind, Option.bind_eq_some_iff] at hx
      obtain ⟨d, -, hx⟩ := hx
      cases hx
      refine ⟨.node _, fun fix hfix => ?_⟩
      obtain ⟨patch, hpatch, rfl⟩ := Option.map_eq_some_iff.1 hfix
      exact .reorder hlisted hpatch
    · simp at hx

namespace Rule

theorem isMade_of_mem_all {r : Rule} (hr : r ∈ all) {options : Option Json}
    {run : FileSystem → SourceFile → Cached (List Finding)}
    (hrun : r.withOptions options = some run) (files : FileSystem) (asked : FileCache) :
    ∀ x ∈ ((run files (.ofSource s)).run asked).1, x.IsMade s := by
  simp only [all, List.mem_cons, List.not_mem_nil, or_false] at hr
  rcases hr with rfl | rfl | rfl | rfl | rfl | rfl | rfl | rfl | rfl | rfl | rfl | rfl | rfl
  · exact forall_of_check ImportName.isMade_of_mem_check hrun files asked
  · exact forall_of_check ExportName.isMade_of_mem_check hrun files asked
  · exact forall_of_check ImportShape.isMade_of_mem_check hrun files asked
  · exact forall_of_cachedCheck TypeExports.isMade_of_mem_check hrun files asked
  · exact forall_of_check IndexImportPath.isMade_of_mem_check hrun files asked
  · exact forall_of_check NearestIndexImport.isMade_of_mem_check hrun files asked
  · exact forall_of_check PaddingAroundMultiline.isMade_of_mem_check hrun files asked
  · exact forall_of_check BlockPadding.isMade_of_mem_check hrun files asked
  · exact forall_of_check NoBlankLinesInChain.isMade_of_mem_check hrun files asked
  · exact forall_of_check PropertyOrder.isMade_of_mem_check hrun files asked
  · exact forall_of_check ImportOrder.isMade_of_mem_check hrun files asked
  · exact forall_of_check CommentStyle.isMade_of_mem_check hrun files asked
  · exact forall_of_check Concurrency.isMade_of_mem_check hrun files asked

/-- A diagnostic is a finding that is made in one of the ways above, with the line and the column of
its start. -/
theorem exists_isMade_of_mem_run {r : Rule} (hr : r ∈ all) {options : Option Json}
    {files : FileSystem} {asked : FileCache} {d : Diagnostic}
    (hd : d ∈ r.run options files (.ofSource s) asked) :
    ∃ x : Finding, x.IsMade s ∧ s.diagnose r.info.id x = d := by
  obtain ⟨check, hcheck, x, hx, hsame⟩ := exists_of_mem_run hd
  exact ⟨x, isMade_of_mem_all hr hcheck files asked x hx, hsame⟩

end Rule

end ScriptLint
