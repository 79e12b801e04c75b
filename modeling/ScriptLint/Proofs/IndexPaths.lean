import Mathlib.Data.List.TakeWhile
import ScriptLint.Files.Memory
import ScriptLint.Proofs.ResolvedPaths
import ScriptLint.Proofs.LoaderRun
import ScriptLint.Rule.IndexImport

/-! Where imports through an index module lead. The specifier that the rule writes is made from the
directory of the importing file as it stands, while the module is found from the resolved path; the
two agree as long as dots and double dots do not come between them. -/
namespace ScriptLint

namespace Text

theorem dropPrefix?_append (t w : Text) : dropPrefix? (w ++ t) w = some t := by
  induction w with
  | nil => cases t <;> rfl
  | cons c w ih => rw [List.cons_append, dropPrefix?, if_pos rfl, ih]

theorem endsWith_append (t w : Text) : endsWith (t ++ w) w = true := by
  rw [endsWith, dropSuffix?, List.reverse_append, dropPrefix?_append]
  rfl

end Text

namespace Path

open Component (leadsDown)

/-! The target without its extension. -/

theorem splitName_eq {n stem ext : Text} (h : splitName n = (stem, some ext)) :
    n = stem ++ '.' :: ext ∧ stem ≠ [] := by
  set w := n.reverse.takeWhile fun c => c != '.' with hw
  set v := n.reverse.dropWhile fun c => c != '.' with hv
  have hn : n = v.reverse ++ w.reverse := by
    rw [← List.reverse_append, List.takeWhile_append_dropWhile, List.reverse_reverse]
  unfold splitName at h
  rw [← hw] at h
  simp only at h
  split at h
  · cases h
  · next hcond =>
    obtain ⟨rfl, hext⟩ := Prod.mk.inj h
    cases hext
    simp only [Bool.or_eq_true, decide_eq_true_eq, not_or] at hcond
    obtain ⟨⟨hlength, hstem⟩, -⟩ := hcond
    refine ⟨?_, fun h => hstem (List.isEmpty_iff.2 h)⟩
    cases hd : v with
    | nil => rw [hd] at hn; exact absurd (congrArg List.length hn.symm) hlength
    | cons c u =>
      have hc : c = '.' := by
        have hhead := List.head?_dropWhile_not (fun c => c != '.') n.reverse
        rw [← hv, hd] at hhead
        simpa using hhead
      rw [hd, List.reverse_cons, hc, List.append_assoc] at hn
      have htake : n.length - w.reverse.length - 1 = u.reverse.length := by
        have := congrArg List.length hn
        simp only [List.length_append, List.length_singleton] at this
        omega
      rw [htake]
      conv_lhs => rw [hn]
      conv_rhs => rw [hn, List.take_left]
      rfl

/-- A text that is nothing or ends with a separator. -/
def Ends (d : Text) : Prop := d = [] ∨ ∃ e, d = e ++ ['/']

theorem exists_text_join (p : Path) :
    ∃ d, Ends d ∧ ∀ u, isAbsolute ⟨u⟩ = false → p.join ⟨u⟩ = ⟨d ++ u⟩ := by
  by_cases ht : p.text = []
  · exact ⟨[], .inl rfl, fun u hu => by simp [join, hu, ht]⟩
  · by_cases hlast : p.text.getLast? = some '/'
    · exact ⟨p.text, .inr (List.getLast?_eq_some_iff.1 hlast), fun u hu => by
        simp [join, hu, hlast]⟩
    · exact ⟨p.text ++ ['/'], .inr ⟨_, rfl⟩, fun u hu => by simp [join, hu, hlast, ht]⟩

theorem cutLast_append {d u : Text} (hd : Ends d) (hu : '/' ∉ u) : (cutLast (d ++ u)).2 = u := by
  rcases hd with rfl | ⟨e, rfl⟩
  · rw [List.nil_append, cutLast_of_not_mem hu]
  · rw [List.append_assoc, List.singleton_append, cutLast_append_cons hu]

section DropExtension

variable {d n : Text}

theorem leadLength_le_of_ends (hd : Ends d) (hn : (Component.name n).IsStep) :
    leadLength ⟨d ++ n⟩ ≤ d.length := by
  unfold leadLength
  split
  · next h =>
    rcases hd with rfl | ⟨e, rfl⟩
    · rw [Bool.or_eq_true, startsWithDot_iff] at h
      rcases h with h | h | ⟨t, h⟩
      · obtain ⟨t, ht⟩ := List.head?_eq_some_iff.1 (beq_iff_eq.1 h)
        exact absurd (show '/' ∈ n by rw [show n = _ from ht]; exact List.mem_cons_self) hn.2.2.2
      · exact absurd h hn.2.1
      · exact absurd (show '/' ∈ n by rw [show n = _ from h]; simp) hn.2.2.2
    · simp
  · exact Nat.zero_le _

theorem ends_drop_leadLength (hd : Ends d) (p : Path) : Ends (d.drop p.leadLength) := by
  unfold leadLength
  split
  · rcases hd with rfl | ⟨_ | ⟨c, e⟩, rfl⟩
    · exact .inl rfl
    · exact .inl rfl
    · exact .inr ⟨e, rfl⟩
  · exact hd

theorem body_append (hd : Ends d) (hn : (Component.name n).IsStep) :
    body ⟨d ++ n⟩ = d.drop (leadLength ⟨d ++ n⟩) ++ n := by
  have hne : (d.drop (leadLength ⟨d ++ n⟩) ++ n).isEmpty = false := by simp [hn.1]
  have hlast := cutLast_append (ends_drop_leadLength hd ⟨d ++ n⟩) hn.2.2.2
  rw [body, List.drop_append_of_le_length (leadLength_le_of_ends hd hn), trimEnd, hne,
    if_neg Bool.false_ne_true, hlast, show component? n = _ from component?_text hn]
  rfl

/-- An extension is taken off together with its dot, unless that leaves only a dot. -/
theorem dropExtension_append {stem ext : Text} (hd : Ends d) (hn : (Component.name n).IsStep)
    (hname : fileName? ⟨d ++ n⟩ = some n) (h : splitName n = (stem, some ext)) :
    dropExtension ⟨d ++ n⟩ = ⟨d ++ if stem = ['.'] then ['.', '.'] else stem⟩ := by
  obtain ⟨hsplit, -⟩ := splitName_eq h
  have hslash : '/' ∉ stem ++ ['.'] := by
    have := hn.2.2.2
    rw [hsplit] at this
    simp_all
  have hext : extension? ⟨d ++ n⟩ = some ext := by rw [extension?, hname, Option.bind_some, h]
  have hdotted : (body ⟨d ++ n⟩).take ((body ⟨d ++ n⟩).length - ext.length) =
      d.drop (leadLength ⟨d ++ n⟩) ++ (stem ++ ['.']) := by
    have hbody : body ⟨d ++ n⟩ = (d.drop (leadLength ⟨d ++ n⟩) ++ (stem ++ ['.'])) ++ ext := by
      rw [body_append hd hn, List.append_assoc]
      congr 1
      rw [hsplit, List.append_assoc]
      rfl
    rw [hbody, List.length_append, Nat.add_sub_cancel, List.take_left]
  have hends : Text.endsWith (d ++ n) ext = true := by
    have := Text.endsWith_append (d ++ (stem ++ ['.'])) ext
    rwa [List.append_assoc, List.append_assoc, List.singleton_append, ← hsplit] at this
  have htake : (d ++ n).take (leadLength ⟨d ++ n⟩) ++ d.drop (leadLength ⟨d ++ n⟩) = d := by
    rw [List.take_append_of_le_length (leadLength_le_of_ends hd hn), List.take_append_drop]
  unfold dropExtension
  simp only [hext, hdotted, cutLast_append (ends_drop_leadLength hd _) hslash, hends,
    Bool.and_true, beq_iff_eq]
  by_cases hstem : stem = ['.']
  · rw [if_pos hstem, if_pos (by rw [hstem]; rfl), ← List.append_assoc, htake, hstem]
    rfl
  · have hne : stem ++ ['.'] ≠ ['.', '.'] := fun h => hstem (List.append_cancel_right h)
    rw [if_neg hstem, if_neg hne, ← List.append_assoc, List.dropLast_concat, ← List.append_assoc,
      htake]

end DropExtension

section Target

variable {p : Path} {init : List Component} {n : Text}

theorem fileName?_eq_some_iff :
    p.fileName? = some n ↔ ∃ init, p.components = init ++ [.name n] := by
  rw [← List.getLast?_eq_some_iff, fileName?]
  split <;> simp_all

theorem exists_step_of_not_mem {u : Text} (hslash : '/' ∉ u) (hnil : u ≠ []) (hdot : u ≠ ['.']) :
    ∃ c : Component, c.IsStep ∧ c.text = u := by
  by_cases hdots : u = ['.', '.']
  · exact ⟨.parent, trivial, hdots.symm⟩
  · exact ⟨.name u, ⟨hnil, hdot, hdots, hslash⟩, rfl⟩

theorem components_dropExtension {stem ext : Text} (hcs : Reduced (init ++ [.name n]))
    (h : splitName n = (stem, some ext)) :
    ∃ c, (ofComponents (init ++ [.name n])).dropExtension.components = init ++ [c] := by
  have hn : (Component.name n).IsStep := hcs.isStep_of_mem (by simp) Component.noConfusion
  have hjoin (c : Component) (hc : c.IsStep) : isAbsolute ⟨c.text⟩ = false :=
    isAbsolute_eq_false_of_not_mem (not_mem_text hc)
  obtain ⟨d, hd, htext⟩ := exists_text_join (ofComponents init)
  have hwhole : ofComponents (init ++ [.name n]) = ⟨d ++ n⟩ := by
    rw [ofComponents_concat]
    exact htext n (hjoin _ hn)
  have hname : fileName? ⟨d ++ n⟩ = some n :=
    hwhole ▸ fileName?_eq_some_iff.2 ⟨init, components_ofComponents hcs.readable⟩
  obtain ⟨hstem, hnil⟩ := splitName_eq h
  obtain ⟨c, hc, hshort⟩ : ∃ c : Component, c.IsStep ∧
      c.text = if stem = ['.'] then ['.', '.'] else stem := by
    split
    · exact ⟨.parent, trivial, rfl⟩
    · next hdot =>
      have hslash := hn.2.2.2
      rw [hstem, List.mem_append, not_or] at hslash
      exact exists_step_of_not_mem hslash.1 hnil hdot
  refine ⟨c, ?_⟩
  rw [hwhole, dropExtension_append hd hn hname h, ← hshort, ← htext c.text (hjoin c hc),
    components_join_text hc, components_ofComponents hcs.append_left.readable]

theorem components_stripModuleExtension {cs : List Component} (hcs : Reduced cs) {name : Text}
    (h : (ofComponents cs).stripModuleExtension.fileName? = some name) :
    ∃ init n, cs = init ++ [.name n] ∧
      (ofComponents cs).stripModuleExtension.components = init ++ [.name name] := by
  have hofc := components_ofComponents hcs.readable
  unfold stripModuleExtension at h ⊢
  split at h
  · next hmodule =>
    rw [if_pos hmodule]
    obtain ⟨ext, hext, -⟩ := (Option.any_eq_true _ _).1 hmodule
    obtain ⟨n, hn, hsplit⟩ := Option.bind_eq_some_iff.1 hext
    obtain ⟨init, hinit⟩ := fileName?_eq_some_iff.1 hn
    rw [hofc] at hinit
    subst hinit
    obtain ⟨c, hdrop⟩ := components_dropExtension hcs
      (show splitName n = ((splitName n).1, some ext) by rw [← hsplit])
    obtain ⟨init', hinit'⟩ := fileName?_eq_some_iff.1 h
    rw [hdrop] at hinit' ⊢
    exact ⟨init, n, rfl, by rw [(List.append_inj' hinit' rfl).2]⟩
  · next hmodule =>
    rw [if_neg hmodule]
    obtain ⟨init, hinit⟩ := fileName?_eq_some_iff.1 h
    exact ⟨init, name, by rw [← hofc, hinit], hinit⟩

end Target

/-! The components that two paths share at their start. -/

section Shared

variable {cs ds es : List Component}

theorem commonComponents_prefix_left : commonComponents cs ds <+: cs := by
  fun_induction commonComponents cs ds with
  | case1 a as bs ih => exact List.cons_prefix_cons.2 ⟨rfl, ih⟩
  | case2 => exact List.nil_prefix
  | case3 => exact List.nil_prefix

theorem commonComponents_prefix_right : commonComponents cs ds <+: ds := by
  fun_induction commonComponents cs ds with
  | case1 a as bs ih => exact List.cons_prefix_cons.2 ⟨rfl, ih⟩
  | case2 => exact List.nil_prefix
  | case3 => exact List.nil_prefix

theorem prefix_commonComponents (hc : es <+: cs) (hd : es <+: ds) :
    es <+: commonComponents cs ds := by
  fun_induction commonComponents cs ds generalizing es with
  | case1 a as bs ih =>
    cases es with
    | nil => exact List.nil_prefix
    | cons e es =>
      rw [List.cons_prefix_cons] at hc hd ⊢
      exact ⟨hc.1, ih hc.2 hd.2⟩
  | case2 a as b bs hne =>
    cases es with
    | nil => exact List.nil_prefix
    | cons e es =>
      rw [List.cons_prefix_cons] at hc hd
      exact absurd (hc.1.symm.trans hd.1) hne
  | case3 cs ds h =>
    cases es with
    | nil => exact List.nil_prefix
    | cons e es =>
      obtain ⟨_, rfl⟩ := hc
      obtain ⟨_, rfl⟩ := hd
      exact absurd rfl (h e _ e _ rfl)

end Shared

/-! The components of the specifier that the rule writes. -/

theorem parts_intercalate {names : List Text} (h : ∀ n ∈ names, (Component.name n).IsStep) :
    parts (List.intercalate ['/'] names) = names.map .name := by
  induction names with
  | nil => rfl
  | cons n names ih =>
    rw [List.forall_mem_cons] at h
    cases names with
    | nil => rw [List.intercalate_singleton]; exact parts_text h.1
    | cons m names =>
      rw [List.intercalate_cons_cons, List.append_assoc, List.singleton_append,
        parts_append_cons, ih h.2]
      exact congrArg (· ++ _) (parts_text h.1)

theorem map_name_filterMap (cs : List Component) :
    (cs.filterMap fun c => match c with
      | .name n => some n
      | _ => none).map .name = cs.filter leadsDown := by
  induction cs with
  | nil => rfl
  | cons c cs ih =>
    cases c with
    | root | current | parent => exact ih
    | name n => exact congrArg (.name n :: ·) ih

theorem parts_namesOf {cs : List Component} (h : ∀ c ∈ cs, c.leadsDown = true → c.IsName) :
    parts (namesOf cs) = cs.filter leadsDown := by
  refine (parts_intercalate fun n hn => ?_).trans (map_name_filterMap cs)
  obtain ⟨c, hc, hname⟩ := List.mem_filterMap.1 hn
  cases c with
  | root | current | parent => cases hname
  | name m => cases hname; exact (h _ hc rfl).1

theorem parts_relativeSpecifier (importer directory : Path) (k : Nat) :
    parts (importer.relativeSpecifier directory k) =
      List.replicate (importer.components.length - k) .parent ++
        (directory.components.drop k).filter leadsDown := by
  have hnames : parts (namesOf (directory.components.drop k)) =
      (directory.components.drop k).filter leadsDown :=
    parts_namesOf fun c hc => isName_of_mem_components (List.mem_of_mem_drop hc)
  have hups : ∀ m t, parts ((List.replicate m ['.', '.', '/']).flatten ++ t) =
      List.replicate m .parent ++ parts t := by
    intro m t
    induction m with
    | zero => rfl
    | succ m ih =>
      rw [List.replicate_succ, List.flatten_cons, List.append_assoc]
      exact (parts_append_cons ['.', '.'] _).trans (congrArg (Component.parent :: ·) ih)
  unfold relativeSpecifier
  simp only
  split
  · next h =>
    rw [h, ← hnames]
    exact parts_append_cons ['.'] _
  · rw [hups, hnames]

theorem isAbsolute_relativeSpecifier (importer directory : Path) (k : Nat) :
    isAbsolute ⟨importer.relativeSpecifier directory k⟩ = false := by
  unfold relativeSpecifier
  simp only
  split
  · rfl
  · next h =>
    obtain ⟨m, hm⟩ := Nat.exists_eq_succ_of_ne_zero h
    rw [hm]
    rfl

/-! Resolving the specifier. -/

section Resolve

variable {cs shared rest : List Component}

/-- The way back up from a directory that shares its beginning with the resolved path. -/
theorem resolve_replicate_parent (hshared : Reduced shared) (hrest : .root ∉ rest)
    {names : List Component} (hnames : ∀ c ∈ names, c.IsName) :
    resolve (shared ++ rest ++ (List.replicate rest.length .parent ++ names)) =
      (climb (2 * rest.count .parent + rest.count .current) shared.reverse).reverse ++ names := by
  rw [resolve, ← List.append_assoc, List.foldl_append, List.foldl_append, List.foldl_append,
    foldl_of_reduced hshared, foldl_names hnames, List.reverse_append, List.reverse_reverse]
  congr 2
  exact climb_length_foldl hrest

end Resolve

end Path

namespace NearestIndexImport

variable {files : FileSystem} {f : SourceFile} {id : NodeId}

def target (f : SourceFile) (request : ModuleRequest) : Path :=
  (f.resolveSpecifier request.specifier.toList).stripModuleExtension

/-- What the directory of a file has in common with a module, as far as it is written alike. -/
def shared (f : SourceFile) (target : Path) : List Path.Component :=
  Path.commonComponents f.directory.components target.components

def replacement (f : SourceFile) (target index : Path) : Text :=
  f.directory.relativeSpecifier index (shared f target).length

def wayUp (f : SourceFile) (target : Path) : List Path.Component :=
  f.directory.components.drop (shared f target).length

def wayDown (f : SourceFile) (target index : Path) : List Path.Component :=
  index.components.drop (shared f target).length

/-- A directory is the nearest above a module that has an index module, of those strictly below what
the module has in common with an importing directory. -/
def IsNearestIndex (files : FileSystem) (importer : List Path.Component) (target index : Path) :
    Prop :=
  let below (p : Path) := Path.commonComponents importer target.components <+: p.components ∧
    p.components ≠ Path.commonComponents importer target.components
  ∃ near far, target.ancestors.drop 1 = near ++ index :: far ∧ below index ∧
    Id.run (files.hasIndexModule index) = true ∧
    ∀ p ∈ near, ¬(below p ∧ Id.run (files.hasIndexModule p) = true)

theorem isAbsolute_of_isRelativeSpecifier {t : Text} (h : isRelativeSpecifier t = true) :
    Path.isAbsolute ⟨t⟩ = false := by
  cases t with
  | nil => rfl
  | cons c t =>
    have hc : c = '.' := by
      by_contra hc
      simp [isRelativeSpecifier, Text.startsWith, Text.dropPrefix?, hc] at h
    rw [hc]
    rfl

theorem exists_of_checkNode {finding : Finding} (h : checkNode files f id = some finding) :
    ∃ request index isSafe, f.tree.moduleRequest? id = some request ∧
      isRelativeSpecifier request.specifier.toList = true ∧
      (target f request).fileName?.isSome = true ∧
      nearestIndex? files (target f request) (shared f (target f request)) = some index ∧
      finding.fix = some (.checked isSafe
        (f.replaceString request.literal (replacement f (target f request) index))
        s!"Import \"{String.ofList (replacement f (target f request) index)}\".") := by
  unfold checkNode at h
  obtain ⟨request, hrequest, h⟩ := Option.bind_eq_some_iff.1 h
  obtain ⟨name, hname, h⟩ := Option.bind_eq_some_iff.1 h
  split at h
  · cases h
  · next hrelative =>
    split at h
    · cases h
    · obtain ⟨index, hindex, h⟩ := Option.bind_eq_some_iff.1 h
      cases h
      refine ⟨request, index, _, hrequest, ?_, Option.isSome_of_eq_some hname, hindex, rfl⟩
      simp only [Bool.or_eq_true, not_or] at hrelative
      simpa using hrelative.1

section Found

variable {t index : Path} {sh : List Path.Component}

theorem eq_append_of_nearestIndex? (h : nearestIndex? files t sh = some index) :
    ∃ near far, t.ancestors.drop 1 = near ++ index :: far ∧
      (sh <+: index.components ∧ index.components ≠ sh) ∧
      Id.run (files.hasIndexModule index) = true ∧
      ∀ p ∈ near, ¬Id.run (files.hasIndexModule p) = true := by
  unfold nearestIndex? at h
  obtain ⟨hmodule, near, far, hinner, hnear⟩ := List.find?_eq_some_iff_append.1 h
  have hbelow := List.mem_takeWhile_imp (hinner ▸ List.mem_append_right near List.mem_cons_self)
  rw [Bool.and_eq_true, List.isPrefixOf_iff_prefix, bne_iff_ne] at hbelow
  refine ⟨near, far ++ (t.ancestors.drop 1).dropWhile fun p =>
    sh.isPrefixOf p.components && p.components != sh, ?_, hbelow, hmodule, fun p hp => ?_⟩
  · rw [← List.cons_append, ← List.append_assoc, ← hinner, List.takeWhile_append_dropWhile]
  · simpa using hnear p hp

/-- The directory found from the directory as it is written is the nearest one exactly if it does
not enclose the importing file. -/
theorem isNearestIndex_iff {importer : List Path.Component}
    (h : nearestIndex? files t sh = some index) :
    IsNearestIndex files importer t index ↔ ¬index.components <+: importer := by
  obtain ⟨near, far, happend, -, hmodule, hnear⟩ := eq_append_of_nearestIndex? h
  have hindex : index.components <+: t.components :=
    (Path.prefix_of_mem_ancestors (happend ▸ List.mem_append_right near List.mem_cons_self)).trans
      (List.dropLast_prefix _)
  constructor
  · rintro ⟨_, _, -, ⟨hbelow, hne⟩, -⟩ henclosing
    exact hne ((Path.prefix_commonComponents henclosing hindex).eq_of_length_le hbelow.length_le)
  · intro henclosing
    refine ⟨near, far, happend, ⟨?_, ?_⟩, hmodule, fun p hp hboth => hnear p hp hboth.2⟩
    · refine (List.prefix_or_prefix_of_prefix hindex Path.commonComponents_prefix_right).resolve_left
        fun hle => henclosing (hle.trans Path.commonComponents_prefix_left)
    · intro heq
      exact henclosing (heq ▸ Path.commonComponents_prefix_left)

variable {request : ModuleRequest}

theorem components_target (hrelative : isRelativeSpecifier request.specifier.toList = true)
    (hname : (target f request).fileName?.isSome = true) :
    ∃ init n name, (target f request).components = init ++ [.name name] ∧
      Path.Reduced (init ++ [.name n]) ∧
      (.root ∈ init ++ [.name n] ↔ .root ∈ f.directory.components) := by
  have habs := isAbsolute_of_isRelativeSpecifier hrelative
  have hwell := (Path.wellFormed_components f.directory).append
    fun c => Path.isStep_of_mem_parts (t := request.specifier.toList)
  obtain ⟨name, hname⟩ := Option.isSome_iff_exists.1 hname
  have hresolve := Path.resolve_components_join (p := f.directory) habs
  have hreduced := Path.reduced_resolve hwell
  unfold target Source.resolveSpecifier Path.normalize at hname ⊢
  rw [hresolve] at hname ⊢
  obtain ⟨init, n, hcs, htarget⟩ := Path.components_stripModuleExtension hreduced hname
  refine ⟨init, n, name, htarget, hcs ▸ hreduced, ?_⟩
  rw [← hcs, hwell.root_mem_resolve_iff, List.mem_append, or_iff_left]
  exact fun hmem => Path.isStep_of_mem_parts hmem

theorem exists_append_of_nearestIndex?
    (hrelative : isRelativeSpecifier request.specifier.toList = true)
    (hname : (target f request).fileName?.isSome = true)
    (hindex : nearestIndex? files (target f request) (shared f (target f request)) = some index) :
    ∃ up down, f.directory.components = shared f (target f request) ++ up ∧
      index.components = shared f (target f request) ++ down ∧
      Path.Reduced index.components ∧ .root ∉ up ∧ .root ∉ down := by
  obtain ⟨near, far, happend, ⟨⟨down, hdown⟩, -⟩, -⟩ := eq_append_of_nearestIndex? hindex
  obtain ⟨init, n, name, htarget, hreduced, hroot⟩ := components_target hrelative hname
  obtain ⟨up, hup⟩ : shared f (target f request) <+: f.directory.components :=
    Path.commonComponents_prefix_left
  have hinit : index.components <+: init := by
    have := Path.prefix_of_mem_ancestors (happend ▸ List.mem_append_right near List.mem_cons_self)
    rwa [htarget, List.dropLast_concat] at this
  have hindexReduced : Path.Reduced index.components := by
    obtain ⟨r, hr⟩ := hinit
    rw [← hr] at hreduced
    exact hreduced.append_left.append_left
  have hwell := Path.wellFormed_components f.directory
  have hshared : .root ∈ f.directory.components → .root ∈ shared f (target f request) := by
    intro hmem
    have htargetWell := Path.wellFormed_components (target f request)
    have hroot : .root ∈ (target f request).components := by
      have := hroot.2 hmem
      rw [htarget]
      simpa using this
    exact (Path.prefix_commonComponents (hwell.root_first hmem)
      (htargetWell.root_first hroot)).subset List.mem_cons_self
  refine ⟨up, down, hup.symm, hdown.symm, hindexReduced, ?_, ?_⟩
  · exact Path.WellFormed.root_not_mem_of_append (hup ▸ hwell) fun hmem => hshared (hup ▸ hmem)
  · refine Path.WellFormed.root_not_mem_of_append (hdown ▸ Path.wellFormed_components index)
      fun hmem => hshared (hroot.1 ?_)
    rw [hdown] at hmem
    exact List.mem_append_left _ (hinit.subset hmem)

/-- The specifier leads to the directory of the index exactly if the root stops the way up, or it
goes up from the shared part by as many steps as the directory does. -/
theorem components_resolveSpecifier_iff
    (hrelative : isRelativeSpecifier request.specifier.toList = true)
    (hname : (target f request).fileName?.isSome = true)
    (hindex : nearestIndex? files (target f request) (shared f (target f request)) = some index) :
    (f.resolveSpecifier (replacement f (target f request) index)).components = index.components ↔
      shared f (target f request) = [.root] ∨
        2 * (wayUp f (target f request)).count .parent +
            (wayUp f (target f request)).count .current =
          (wayDown f (target f request) index).count .parent := by
  obtain ⟨up, down, hup, hdown, hreduced, hrootUp, hrootDown⟩ :=
    exists_append_of_nearestIndex? hrelative hname hindex
  have hnames : ∀ c ∈ down.filter Path.Component.leadsDown, c.IsName := by
    intro c hc
    rw [List.mem_filter] at hc
    exact Path.isName_of_mem_components (hdown ▸ List.mem_append_right _ hc.1) hc.2
  have hresolved : (f.resolveSpecifier (replacement f (target f request) index)).components =
      (Path.climb (2 * up.count .parent + up.count .current)
        (shared f (target f request)).reverse).reverse ++ down.filter Path.Component.leadsDown := by
    rw [Source.resolveSpecifier, Path.components_normalize, replacement,
      Path.resolve_components_join (Path.isAbsolute_relativeSpecifier ..),
      Path.parts_relativeSpecifier, hup, hdown, List.length_append, Nat.add_sub_cancel_left,
      List.drop_left, Path.resolve_replicate_parent (hdown ▸ hreduced).append_left hrootUp hnames]
  rw [hresolved, wayUp, wayDown, hup, hdown, List.drop_left, List.drop_left,
    Path.climb_append_iff (hdown ▸ hreduced) hrootDown]

end Found

/-- Where the specifier that is written leads. It leads to the nearest directory with an index
module if that directory does not enclose the importing file, and if the way up from what both
share meets the root or as many double dots as it has steps to undo: two for a double dot of the
importing directory, and one for a dot at its start. -/
theorem leads_iff_of_checkNode {finding : Finding} (h : checkNode files f id = some finding) :
    ∃ request index isSafe, f.tree.moduleRequest? id = some request ∧
      nearestIndex? files (target f request) (shared f (target f request)) = some index ∧
      finding.fix = some (.checked isSafe
        (f.replaceString request.literal (replacement f (target f request) index))
        s!"Import \"{String.ofList (replacement f (target f request) index)}\".") ∧
      ((f.resolveSpecifier (replacement f (target f request) index)).components =
            index.components ∧
          IsNearestIndex files f.directory.normalize.components (target f request) index ↔
        ¬index.components <+: f.directory.normalize.components ∧
          (shared f (target f request) = [.root] ∨
            2 * (wayUp f (target f request)).count .parent +
                (wayUp f (target f request)).count .current =
              (wayDown f (target f request) index).count .parent)) := by
  obtain ⟨request, index, isSafe, hrequest, hrelative, hname, hindex, hfix⟩ :=
    exists_of_checkNode h
  refine ⟨request, index, isSafe, hrequest, hindex, hfix, ?_⟩
  rw [isNearestIndex_iff hindex, components_resolveSpecifier_iff hrelative hname hindex, and_comm]

/-! A module of a directory beside that of the importing file. -/

def siblingDocument : Json := .obj [
  ("body", .arr [.obj [("range", .arr [.nat 0, .nat 21]),
    ("source", .obj [("range", .arr [.nat 7, .nat 20]), ("type", .str "Literal"),
      ("value", .str "../api/http")]),
    ("specifiers", .arr []), ("type", .str "ImportDeclaration")]]),
  ("sourceType", .str "module"), ("type", .str "Program")]

def siblingSource (path : String) : Source where
  path := path
  text := "import '../api/http';".toList
  tree :=
    { nodes := #[⟨.literal (.string "../api/http") "", ⟨7, 20⟩⟩, ⟨.importDeclaration [] 0, ⟨0, 21⟩⟩,
        ⟨.program [1] .esModule, ⟨0, 21⟩⟩]
      children := #[[], [0], [1]]
      parents := #[some 1, some 2, none]
      root := 2 }
  tokens := ⟨#[], #[]⟩

def siblingFile (path : String) : SourceFile := .ofSource (siblingSource path)

def siblingFiles : FileSystem :=
  ((MemoryFiles.empty.add (.ofString "api/index.js") "").add (.ofString "api/http.js") "").access

def siblingFinding (specifier : String) : Finding where
  span := ⟨7, 20⟩
  message := s!"Import \"{specifier}\" instead of reaching into \"../api/http\"."
  fix := some (.suggestion (.single ⟨⟨7, 20⟩, s!"'{specifier}'"⟩) s!"Import \"{specifier}\".")

theorem ofDocument_sibling (path : String) :
    Source.ofDocument path (siblingSource path).text siblingDocument =
      .ok (siblingSource path) := by
  have hnodes : Loader.load (siblingSource path).text siblingDocument =
      .ok (siblingSource path).tree.nodes := by
    show Loader.load (siblingSource "").text siblingDocument = .ok (siblingSource "").tree.nodes
    decide
  have htree : Tree.ofNodes (siblingSource path).tree.nodes 2 = .ok (siblingSource path).tree := by
    cbv
  have htokens : TokenIndex.ofList (Loader.tokens (siblingSource path).text siblingDocument) =
      (siblingSource path).tokens := by cbv
  rw [Source.ofDocument_eq path hnodes htree, htokens]
  rfl

theorem checkNode_sibling : checkNode siblingFiles (siblingFile "app/main.js") 1 =
    some (siblingFinding "../api") := by
  decide

theorem checkNode_sibling_dotted : checkNode siblingFiles (siblingFile "./app/main.js") 1 =
    some (siblingFinding "../../api") := by
  decide

theorem leads_iff_of_checkNode_sibling :
    checkNode siblingFiles (siblingFile "app/main.js") 1 = some (siblingFinding "../api") ∧
      ((siblingFile "app/main.js").resolveSpecifier "../api".toList).components =
        (Path.ofString "api").components ∧
      IsNearestIndex siblingFiles [.name "app".toList] (.ofString "api/http") (.ofString "api") := by
  obtain ⟨request, index, -, hrequest, hindex, -, hiff⟩ := leads_iff_of_checkNode checkNode_sibling
  cases hrequest
  have hapi : index = .ofString "api" := by
    refine Option.some.inj (hindex.symm.trans ?_)
    decide
  subst hapi
  obtain ⟨hleads, hnearest⟩ := hiff.2 ⟨by decide, .inr (by decide)⟩
  exact ⟨checkNode_sibling, hleads, hnearest⟩

/-- The dot at the start of the path counts as a step of its own. -/
theorem not_leads_dotted :
    Source.ofDocument "./app/main.js" (siblingSource "./app/main.js").text siblingDocument =
        .ok (siblingSource "./app/main.js") ∧
      checkNode siblingFiles (siblingFile "./app/main.js") 1 =
        some (siblingFinding "../../api") ∧
      IsNearestIndex siblingFiles (siblingFile "./app/main.js").directory.normalize.components
        (.ofString "api/http") (.ofString "api") ∧
      ((siblingFile "./app/main.js").resolveSpecifier "../../api".toList).components ≠
        (Path.ofString "api").components := by
  have hindex : nearestIndex? siblingFiles (.ofString "api/http") [] = some (.ofString "api") := by
    decide
  exact ⟨ofDocument_sibling _, checkNode_sibling_dotted,
    (isNearestIndex_iff hindex).2 (by decide), by decide⟩

end NearestIndexImport

end ScriptLint
