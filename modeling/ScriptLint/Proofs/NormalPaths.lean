import ScriptLint.ModuleRequest
import ScriptLint.Proofs.ResolvedPaths

/-! Normal forms of paths. Normalization leaves components that resolution leaves as they are, and
resolution goes on from a resolved path as it does from the path itself. So a normalized path is its
own normal form, and a way can be normalized after each step or once at its end. -/
namespace ScriptLint.Path

variable {p q r : Path}

theorem isAbsolute_iff : p.isAbsolute = true ↔ .root ∈ p.components := by
  have hparts : .root ∉ parts p.text := fun h => isStep_of_mem_parts h
  rw [components_eq, List.mem_append, or_iff_left hparts, lead]
  cases p.isAbsolute <;> cases p.startsWithDot <;> simp

/-- A path without detours: no dots, and double dots only at the start of a relative path. -/
structure IsNormal (p : Path) : Prop where
  current_not_mem : .current ∉ p.components
  parent_not_mem : p.isAbsolute = true → .parent ∉ p.components
  leading : p.isAbsolute = false →
    ∃ k names, p.components = List.replicate k .parent ++ names ∧ ∀ c ∈ names, ∃ n, c = .name n

theorem IsNormal.reduced (h : p.IsNormal) : Reduced p.components := by
  by_cases habs : p.isAbsolute = true
  · have hcomponents : p.components = [.root] ++ parts p.text := by
      rw [components_eq, lead, if_pos habs]
    refine ⟨_, _, hcomponents, .inl rfl, fun c hc => ⟨isStep_of_mem_parts hc, ?_⟩⟩
    rintro rfl
    exact h.parent_not_mem habs (hcomponents ▸ List.mem_append_right _ hc)
  · obtain ⟨k, names, hcomponents, hnames⟩ := h.leading (Bool.eq_false_iff.2 habs)
    refine ⟨_, names, hcomponents, .inr ⟨k, rfl⟩, fun c hc => ?_⟩
    obtain ⟨n, rfl⟩ := hnames c hc
    exact isName_of_mem_components (hcomponents ▸ List.mem_append_right _ hc) rfl

theorem Reduced.isNormal (h : Reduced p.components) : p.IsNormal := by
  have hcurrent := h.current_not_mem
  obtain ⟨base, names, hcomponents, hbase, hnames⟩ := h
  have hroot : .root ∉ names := fun hc => (hnames _ hc).1
  have hparent : .parent ∉ names := fun hc => (hnames _ hc).2 rfl
  have habs := isAbsolute_iff (p := p)
  rw [hcomponents, List.mem_append, or_iff_left hroot] at habs
  refine ⟨hcurrent, fun h => ?_, fun h => ?_⟩
  · rw [hcomponents, List.mem_append, or_iff_left hparent]
    rcases hbase with rfl | ⟨k, rfl⟩
    · decide
    · exact absurd (List.eq_of_mem_replicate (habs.1 h)) Component.noConfusion
  · rcases hbase with rfl | ⟨k, rfl⟩
    · rw [habs.2 (by decide)] at h
      cases h
    · exact ⟨k, names, hcomponents, fun c hc => (hnames c hc).eq⟩

theorem isNormal_iff : p.IsNormal ↔ resolve p.components = p.components := by
  refine ⟨fun h => resolve_of_reduced h.reduced, fun h => Reduced.isNormal ?_⟩
  exact h ▸ reduced_resolve (wellFormed_components p)

theorem isNormal_normalize (p : Path) : p.normalize.IsNormal := by
  refine Reduced.isNormal ?_
  rw [components_normalize]
  exact reduced_resolve (wellFormed_components p)

theorem same_normalize_iff : p.normalize.same p = true ↔ p.IsNormal := by
  rw [same, beq_iff_eq, components_normalize, isNormal_iff]

theorem normalize_normalize (p : Path) : p.normalize.normalize = p.normalize := by
  rw [normalize, isNormal_iff.1 (isNormal_normalize p), components_normalize]
  rfl

theorem isAbsolute_normalize (p : Path) : p.normalize.isAbsolute = p.isAbsolute := by
  rw [Bool.eq_iff_iff, isAbsolute_iff, isAbsolute_iff, components_normalize,
    (wellFormed_components p).root_mem_resolve_iff]

/-! Ways that go on. -/

theorem resolve_append (cs ds : List Component) :
    resolve (cs ++ ds) = (ds.foldl resolveStep (resolve cs).reverse).reverse := by
  rw [resolve, List.foldl_append, resolve, List.reverse_reverse]

theorem normalize_join_eq (p : Path) (hq : q.isAbsolute = false) :
    (p.join q).normalize =
      ofComponents ((parts q.text).foldl resolveStep (resolve p.components).reverse).reverse := by
  rw [normalize, resolve_components_join hq, resolve_append]

theorem normalize_join (p : Path) (hq : q.isAbsolute = false) :
    (p.join q).normalize = (p.normalize.join q).normalize := by
  rw [normalize_join_eq p hq, normalize_join_eq _ hq, isNormal_iff.1 (isNormal_normalize p),
    components_normalize]

theorem normalize_join_name_parent (p : Path) {n : Text} (hn : (Component.name n).IsStep) :
    ((p.join ⟨n⟩).join ⟨['.', '.']⟩).normalize = p.normalize := by
  have hname : (p.join ⟨n⟩).components = p.components ++ [.name n] := components_join_text hn
  rw [normalize_join_eq _ rfl, hname, resolve_append, List.reverse_reverse]
  change ofComponents (resolve p.components).reverse.reverse = p.normalize
  rw [List.reverse_reverse, normalize]

theorem normalize_join_parent_of_root (hp : p.components = [.root]) :
    (p.join ⟨['.', '.']⟩).normalize = p.normalize := by
  rw [normalize_join_eq p rfl, normalize, hp]
  rfl

def stem (p : Path) : Text :=
  if p.text.isEmpty || p.text.getLast? == some '/' then p.text else p.text ++ ['/']

theorem join_eq_stem (p : Path) (hq : q.isAbsolute = false) : p.join q = ⟨p.stem ++ q.text⟩ := by
  rw [join, hq, if_neg Bool.false_ne_true, stem]
  split
  · rfl
  · rw [List.append_assoc, List.singleton_append]

theorem stem_eq_nil_or (p : Path) : p.stem = [] ∨ p.stem.getLast? = some '/' := by
  rw [stem]
  split
  · next h => rwa [Bool.or_eq_true, List.isEmpty_iff, beq_iff_eq] at h
  · exact .inr List.getLast?_concat

theorem stem_of_ends {t : Text} (h : t = [] ∨ t.getLast? = some '/') : stem ⟨t⟩ = t :=
  if_pos (by rwa [Bool.or_eq_true, List.isEmpty_iff, beq_iff_eq])

theorem stem_append {t : Text} (ht : t ≠ []) (s : Text) : stem ⟨s ++ t⟩ = s ++ stem ⟨t⟩ := by
  have hempty : (s ++ t).isEmpty = t.isEmpty := by
    rw [List.isEmpty_eq_false_iff.2 ht, List.isEmpty_eq_false_iff]
    exact List.append_ne_nil_of_right_ne_nil s ht
  simp only [stem, hempty, List.getLast?_append_of_ne_nil s ht]
  split
  · rfl
  · rw [List.append_assoc]

theorem stem_of_text_eq_nil (ht : p.text = []) : p.stem = [] := by
  rw [stem, ht]
  rfl

theorem text_prefix_stem (p : Path) : p.text <+: p.stem := by
  rw [stem]
  split
  · exact List.prefix_rfl
  · exact List.prefix_append _ _

theorem isAbsolute_join (hq : q.isAbsolute = false) (hr : r.isAbsolute = false) :
    (q.join r).isAbsolute = false := by
  rw [join_eq_stem q hr]
  by_cases ht : q.text = []
  · rw [stem_of_text_eq_nil ht]
    exact hr
  · obtain ⟨t, hstem⟩ := q.text_prefix_stem
    rw [← hstem, List.append_assoc, isAbsolute, List.head?_append_of_ne_nil _ ht]
    exact hq

theorem join_assoc (p : Path) (hq : q.isAbsolute = false) (hr : r.isAbsolute = false) :
    (p.join q).join r = p.join (q.join r) := by
  rw [join_eq_stem p (isAbsolute_join hq hr), join_eq_stem _ hr, join_eq_stem q hr,
    join_eq_stem p hq, ← List.append_assoc]
  by_cases ht : q.text = []
  · rw [ht, List.append_nil, stem_of_ends p.stem_eq_nil_or, stem_of_text_eq_nil ht,
      List.append_nil]
  · rw [stem_append ht]

theorem normalize_join_join (p : Path) (hq : q.isAbsolute = false) (hr : r.isAbsolute = false) :
    (p.join (q.join r)).normalize = ((p.join q).normalize.join r).normalize := by
  rw [← join_assoc p hq hr, normalize_join (p.join q) hr]

/-- Normalization gives a path its normal form, whatever is done with the path afterwards. -/
structure Normalizes (p : Path) : Prop where
  normal : p.normalize.IsNormal
  idempotent : p.normalize.normalize = p.normalize
  /-- A path without detours is at most spelled in another way. -/
  fixed : p.normalize.same p = true ↔ p.IsNormal
  absolute : p.normalize.isAbsolute = p.isAbsolute
  /-- Double dots take back a name, and lead nowhere from the root. -/
  back : ∀ n, (Component.name n).IsStep → ((p.join ⟨n⟩).join ⟨['.', '.']⟩).normalize = p.normalize
  top : p.components = [.root] → (p.join ⟨['.', '.']⟩).normalize = p.normalize
  /-- From the normal form the same way leads to the same place, -/
  join : ∀ q : Path, q.isAbsolute = false → (p.join q).normalize = (p.normalize.join q).normalize
  /-- so a way can be gone step by step, -/
  steps : ∀ q r : Path, q.isAbsolute = false → r.isAbsolute = false →
    (p.join (q.join r)).normalize = ((p.join q).normalize.join r).normalize
  /-- and a specifier resolved from the directory of its file step by step. -/
  specifier : ∀ s : Source, s.directory = p → ∀ q r : Path, q.isAbsolute = false →
    r.isAbsolute = false → s.resolveSpecifier (q.join r).text =
      ((s.resolveSpecifier q.text).join r).normalize

theorem normalizes (p : Path) : p.Normalizes where
  normal := isNormal_normalize p
  idempotent := normalize_normalize p
  fixed := same_normalize_iff
  absolute := isAbsolute_normalize p
  back _ hn := normalize_join_name_parent p hn
  top := normalize_join_parent_of_root
  join _ hq := normalize_join p hq
  steps _ _ hq hr := normalize_join_join p hq hr
  specifier s _ _ _ hq hr := normalize_join_join s.directory hq hr

example : normalize ⟨"/a/./b//../../../c".toList⟩ = ⟨"/c".toList⟩ ∧
    normalize ⟨"a/../../b/..".toList⟩ = ⟨"..".toList⟩ := by decide

end ScriptLint.Path
