import ScriptLint.Proofs.References
import ScriptLint.Refactor.Rename

/-! A rename captures nothing: after it, every use still means the variable it meant before. -/
namespace ScriptLint

namespace ScopeGraph

/-- The tables with one name of one scope replaced by another. -/
def renameEntry (g : ScopeGraph) (s : ScopeId) (old new : String) : ScopeGraph :=
  { g with scopes := g.scopes.modify s fun scope =>
      { scope with names := scope.names.map fun e => if e.1 = old then (new, e.2) else e } }

theorem lookup_map_rename {entries : List (String × VariableId)} {old new : String}
    (hne : old ≠ new) (hfree : entries.lookup new = none) (name : String) :
    (entries.map fun e => if e.1 = old then (new, e.2) else e).lookup name =
      if name = new then entries.lookup old
      else if name = old then none else entries.lookup name := by
  induction entries with
  | nil => simp
  | cons e entries ih =>
    obtain ⟨key, v⟩ := e
    rw [List.lookup_cons] at hfree
    split at hfree
    · simp at hfree
    · rename_i hkey
      have hkey : new ≠ key := by simpa using hkey
      have ih := ih hfree
      simp only [List.map_cons, List.lookup_cons] at ih ⊢
      by_cases hold : key = old <;> by_cases hn : name = new <;> by_cases ho : name = old <;>
        grind

theorem parent?_renameEntry (g : ScopeGraph) (s : ScopeId) (old new : String) (s' : ScopeId) :
    (g.renameEntry s old new).parent? s' = g.parent? s' := by
  simp only [renameEntry, parent?, Array.getElem?_modify]
  split
  · cases g.scopes[s']? <;> rfl
  · rfl

theorem outwards_renameEntry (g : ScopeGraph) (s : ScopeId) (old new : String) (s' : ScopeId) :
    (g.renameEntry s old new).outwards s' = g.outwards s' :=
  outwards_congr (g.parent?_renameEntry s old new) (by simp [renameEntry]) s'

theorem findInScope?_renameEntry (g : ScopeGraph) {s : ScopeId} {old new : String}
    (hne : old ≠ new) (hfree : g.findInScope? s new = none) (s' : ScopeId) (name : String) :
    (g.renameEntry s old new).findInScope? s' name =
      if s' = s then
        if name = new then g.findInScope? s old
        else if name = old then none else g.findInScope? s name
      else g.findInScope? s' name := by
  by_cases hs : s' = s
  · subst hs
    simp only [renameEntry, findInScope?, Array.getElem?_modify, ↓reduceIte] at hfree ⊢
    cases hscope : g.scopes[s']? with
    | none => simp
    | some scope =>
      rw [hscope] at hfree
      simp only [Option.map_some, Option.bind_some] at hfree ⊢
      exact lookup_map_rename hne hfree name
  · have hs' : ¬ s = s' := fun h => hs h.symm
    simp [renameEntry, findInScope?, Array.getElem?_modify, hs, hs']

theorem findSome?_eq_of_forall {α β : Type} {f f' : α → Option β} {l : List α}
    (h : ∀ a ∈ l, f a = f' a) : l.findSome? f = l.findSome? f' := by
  induction l with
  | nil => rfl
  | cons a l ih =>
    rw [List.findSome?_cons, List.findSome?_cons, h a (by simp), ih fun b hb => h b (by simp [hb])]

theorem WellFormed.findInScope?_home {g : ScopeGraph} (hwf : g.WellFormed) {v : VariableId}
    {target : Variable} (hv : g.varAt? v = some target) :
    g.findInScope? target.scope target.name = some v := by
  rw [hwf.find_iff, homes_getElem?, show g.vars[v]? = some target from hv]
  rfl

section Rename

variable {g : ScopeGraph} (hwf : g.WellFormed) {v : VariableId} {target : Variable} {new : String}
  (hv : g.varAt? v = some target) (hne : target.name ≠ new)
  (hfree : g.findInScope? target.scope new = none)

include hwf hv hne hfree

/-- A use of the variable finds it under the new name, unless the new name means something of a
scope inside the variable's own there. -/
theorem resolve?_renameEntry_use {s : ScopeId} {name : String} (hres : g.resolve? s name = some v)
    (hcapture : ∀ w home, g.resolve? s new = some w → g.homes[w]? = some (new, home) →
      target.scope ∉ g.outwards home) :
    (g.renameEntry target.scope target.name new).resolve? s new = some v := by
  obtain ⟨inner, home, outer, hchain, hfind, -⟩ := List.findSome?_eq_some_iff.1 hres
  obtain rfl : home = target.scope := by
    have h := (hwf.find_iff home name v).1 hfind
    rw [homes_getElem?, show g.vars[v]? = some target from hv] at h
    exact (Prod.mk.inj (Option.some.inj h)).2.symm
  have hlookup := g.findInScope?_renameEntry hne hfree
  rw [resolve?, outwards_renameEntry, hchain]
  refine List.findSome?_eq_some_iff.2 ⟨inner, target.scope, outer, rfl, ?_, ?_⟩
  · rw [hlookup, if_pos rfl, if_pos rfl]
    exact hwf.findInScope?_home hv
  · intro x hx
    have hpair := outwards_pairwise hwf.parentsPrecede s
    rw [hchain, List.pairwise_append] at hpair
    have hxne : x ≠ target.scope := Nat.ne_of_gt (hpair.2.2 x hx target.scope (by simp))
    rw [hlookup, if_neg hxne]
    -- The first inner scope that declares the new name would be what a use finds.
    cases hfound : inner.findSome? fun x => g.findInScope? x new with
    | none => exact List.findSome?_eq_none_iff.1 hfound x hx
    | some w =>
      have hresolve : g.resolve? s new = some w := by
        rw [resolve?, hchain, List.findSome?_append, hfound]
        rfl
      obtain ⟨home, hmem, hw⟩ := List.exists_of_findSome?_eq_some hfound
      have hhome := (hwf.find_iff home new w).1 hw
      exact absurd (mem_outwards_of_split hwf.parentsPrecede hchain hmem)
        (hcapture w home hresolve hhome)

omit hwf hv in
theorem findSome?_renameEntry {scopes : List ScopeId} (hnot : target.scope ∉ scopes)
    (name : String) :
    (scopes.findSome? fun x =>
      (g.renameEntry target.scope target.name new).findInScope? x name) =
    scopes.findSome? fun x => g.findInScope? x name := by
  refine findSome?_eq_of_forall fun x hx => ?_
  rw [g.findInScope?_renameEntry hne hfree, if_neg (ne_of_mem_of_not_mem hx hnot)]

omit hv in
theorem resolve?_renameEntry_new {s : ScopeId} {w : VariableId} {home : ScopeId}
    (hw : g.resolve? s new = some w) (hhome : g.homes[w]? = some (new, home))
    (hwithin : target.scope ∈ g.outwards home) :
    (g.renameEntry target.scope target.name new).resolve? s new = some w := by
  obtain ⟨inner, home', outer, hchain, hfind, -⟩ := List.findSome?_eq_some_iff.1 hw
  obtain rfl : home' = home := by
    have h := (hwf.find_iff home' new w).1 hfind
    rw [hhome] at h
    exact (Prod.mk.inj (Option.some.inj h)).2.symm
  have hpair := outwards_pairwise hwf.parentsPrecede s
  rw [hchain, List.pairwise_append] at hpair
  have hle := le_of_mem_outwards hwf.parentsPrecede hwithin
  have hinner : target.scope ∉ inner := fun hmem =>
    absurd hle (Nat.not_le_of_lt (hpair.2.2 _ hmem home' (by simp)))
  have hhome_ne : home' ≠ target.scope := by
    rintro rfl
    rw [hfree] at hfind
    simp at hfind
  rw [resolve?, hchain, List.findSome?_append] at hw
  rw [resolve?, outwards_renameEntry, hchain, List.findSome?_append,
    findSome?_renameEntry hne hfree hinner, ← hw, List.findSome?_cons, List.findSome?_cons,
    g.findInScope?_renameEntry hne hfree, if_neg hhome_ne, hfind]

/-- A use of the old name that does not mean the variable means something of a scope inside the
variable's own. -/
theorem resolve?_renameEntry_old {s : ScopeId} (hres : g.resolve? s target.name ≠ some v)
    (hin : target.scope ∈ g.outwards s) :
    (g.renameEntry target.scope target.name new).resolve? s target.name =
      g.resolve? s target.name := by
  obtain ⟨inner, outer, hchain⟩ := List.append_of_mem hin
  have hpair := outwards_pairwise hwf.parentsPrecede s
  rw [hchain, List.pairwise_append] at hpair
  have hinner : target.scope ∉ inner := fun hmem =>
    absurd (hpair.2.2 _ hmem target.scope (by simp)) (Nat.lt_irrefl _)
  rw [resolve?, hchain, List.findSome?_append, List.findSome?_cons,
    hwf.findInScope?_home hv] at hres
  rw [resolve?, resolve?, outwards_renameEntry, hchain, List.findSome?_append,
    List.findSome?_append, findSome?_renameEntry hne hfree hinner]
  cases hfound : inner.findSome? fun x => g.findInScope? x target.name with
  | some w => rfl
  | none =>
    rw [hfound] at hres
    exact absurd rfl hres

theorem resolve?_renameEntry_other {s : ScopeId} {name : String} (hres : g.resolve? s name ≠ some v)
    (hshadow : name = new → target.scope ∈ g.outwards s →
      ∃ w home, g.resolve? s new = some w ∧ g.homes[w]? = some (new, home) ∧
        target.scope ∈ g.outwards home) :
    (g.renameEntry target.scope target.name new).resolve? s name = g.resolve? s name := by
  by_cases hin : target.scope ∈ g.outwards s
  · by_cases hnew : name = new
    · subst hnew
      obtain ⟨w, home, hw, hhome, hwithin⟩ := hshadow rfl hin
      rw [hw]
      exact resolve?_renameEntry_new hwf hne hfree hw hhome hwithin
    · by_cases hold : name = target.name
      · subst hold
        exact resolve?_renameEntry_old hwf hv hne hfree hres hin
      · rw [resolve?, resolve?, outwards_renameEntry]
        refine findSome?_eq_of_forall fun x _ => ?_
        rw [g.findInScope?_renameEntry hne hfree, if_neg hnew, if_neg hold]
        split
        · rename_i hx
          rw [hx]
        · rfl
  · rw [resolve?, resolve?, outwards_renameEntry]
    exact findSome?_renameEntry hne hfree hin name

end Rename

end ScopeGraph

namespace SourceFile

/-- What a rename has checked when it gives a patch. -/
structure Accepts (f : SourceFile) (v : VariableId) (target : Variable) (name : String)
    (patch : Patch) : Prop where
  renames : target.name ≠ name
  valid : isValidIdentifier name = true
  free : f.scopes.findInScope? target.scope name = none
  uncaptured : f.isCaptured v target name = false
  unshadowed : f.shadowsOuterUse target name = false
  unexported : target.identifiers.any f.tree.isExported = false
  patched : Patch.ofEdits ((f.occurrences v target).map (f.tree.renameEdit target.name name)) =
    .ok patch

theorem accepts_of_rename? {f : SourceFile} {v : VariableId} {target : Variable} {name : String}
    {patch : Patch} (hv : f.scopes.varAt? v = some target) (h : f.rename? v name = some patch) :
    f.Accepts v target name patch := by
  rw [rename?, hv, Option.bind_some] at h
  split at h
  · simp at h
  split at h
  · simp at h
  split at h
  · simp at h
  split at h
  · simp at h
  split at h
  · simp at h
  rename_i hname hfree hcaptured hshadow hexported
  simp only [Bool.or_eq_true, decide_eq_true_eq, Bool.not_eq_true', not_or,
    Bool.not_eq_false] at hname
  refine ⟨hname.1, hname.2, by simpa using hfree, by simpa using hcaptured, by simpa using hshadow,
    by simpa using hexported, ?_⟩
  cases hp : Patch.ofEdits ((f.occurrences v target).map (f.tree.renameEdit target.name name)) with
  | error e => simp [hp, Except.toOption] at h
  | ok p => simpa [hp, Except.toOption] using h

variable {v : VariableId} {target : Variable} {new : String} {patch : Patch}

open ScopeGraph

theorem isDeclaredWithin_iff {f : SourceFile} {w : VariableId} {name : String}
    {home scope : ScopeId} (hhome : f.scopes.homes[w]? = some (name, home)) :
    f.isDeclaredWithin w scope = true ↔ scope ∈ f.scopes.outwards home := by
  obtain ⟨var, hvar, -, rfl⟩ := WellFormed.varAt?_of_home hhome
  rw [isDeclaredWithin, hvar, Option.any_some, isWithin, List.contains_iff_mem]

theorem Accepts.not_captured {f : SourceFile} (hacc : f.Accepts v target new patch)
    {r : Reference} (hr : r ∈ f.scopes.referencesOf v) {w : VariableId} {home : ScopeId}
    (hresolve : f.scopes.resolve? r.scope new = some w)
    (hhome : f.scopes.homes[w]? = some (new, home)) : target.scope ∉ f.scopes.outwards home := by
  intro hin
  have hcaptured := hacc.uncaptured
  rw [isCaptured, List.any_eq_false] at hcaptured
  refine absurd ?_ (hcaptured r hr)
  rw [hresolve, Option.any_some]
  exact (isDeclaredWithin_iff hhome).2 hin

theorem Accepts.declared_within {f : SourceFile} (hacc : f.Accepts v target new patch)
    (hwf : f.scopes.WellFormed) {r : Reference} (hr : r ∈ f.scopes.references)
    (hname : usedName? f.tree r.identifier = some new)
    (hres : r.resolved = f.scopes.resolve? r.scope new)
    (hin : target.scope ∈ f.scopes.outwards r.scope) :
    ∃ w home, f.scopes.resolve? r.scope new = some w ∧
      f.scopes.homes[w]? = some (new, home) ∧ target.scope ∈ f.scopes.outwards home := by
  have hshadow := hacc.unshadowed
  rw [shadowsOuterUse, Array.any_eq_false'] at hshadow
  have hthis := hshadow r hr
  simp only [Bool.and_eq_true, Bool.not_eq_true', not_and, Bool.not_eq_false,
    beq_iff_eq, isWithin] at hthis
  have hdeclared := hthis ⟨hname, List.contains_iff_mem.2 hin⟩
  obtain ⟨w, hw, hwithin⟩ := (Option.any_eq_true _ _).1 hdeclared
  rw [hw] at hres
  obtain ⟨home, -, hhome⟩ := hwf.home_of_resolve? hres.symm
  exact ⟨w, home, hres.symm, hhome, (isDeclaredWithin_iff hhome).1 hwithin⟩

/-- Capture-free renaming: put the new name in the place of the old one in the table of the
variable's scope, and every use, looked up under the name it then has, means what it meant. -/
theorem resolve?_renameEntry_of_rename? (s : Source) (v : VariableId) (target : Variable)
    (new : String) (patch : Patch) (hv : (ofSource s).scopes.varAt? v = some target)
    (h : (ofSource s).rename? v new = some patch) :
    (ofSource s).scopes.findInScope? target.scope target.name = some v ∧
    ∀ r ∈ (ofSource s).scopes.references, r.init = false →
      ∃ name, usedName? s.tree r.identifier = some name ∧
        ((ofSource s).scopes.renameEntry target.scope target.name new).resolve? r.scope
          (if r.resolved = some v then new else name) = r.resolved := by
  have hacc := accepts_of_rename? hv h
  have hwf : (ofSource s).scopes.WellFormed := wellFormed_ofTree s.tree
  refine ⟨hwf.findInScope?_home hv, ?_⟩
  intro r hr hinit
  cases recorded_ofTree hr with
  | init hname hrole hi => simp at hinit
  | @use id name access hname hrole =>
    refine ⟨name, hname, ?_⟩
    split
    · rename_i hres
      rw [hres]
      exact resolve?_renameEntry_use hwf hv hacc.renames hacc.free hres fun w home =>
        hacc.not_captured (mem_referencesOf_ofTree.2 ⟨hr, hres⟩)
    · rename_i hres
      refine resolve?_renameEntry_other hwf hv hacc.renames hacc.free hres fun hnew hin => ?_
      subst hnew
      exact hacc.declared_within hwf hr hname rfl hin

def nestedSource : Source where
  path := "a.js"
  text := "let a; { let b; b } a".toList
  tree :=
    { nodes := #[
        ⟨.identifier "a" none false, ⟨4, 5⟩⟩,
        ⟨.variableDeclarator 0 none, ⟨4, 5⟩⟩,
        ⟨.variableDeclaration .letDecl [1], ⟨0, 6⟩⟩,
        ⟨.identifier "b" none false, ⟨13, 14⟩⟩,
        ⟨.variableDeclarator 3 none, ⟨13, 14⟩⟩,
        ⟨.variableDeclaration .letDecl [4], ⟨9, 15⟩⟩,
        ⟨.identifier "b" none false, ⟨16, 17⟩⟩,
        ⟨.expressionStatement 6 none, ⟨16, 17⟩⟩,
        ⟨.blockStatement [5, 7], ⟨7, 19⟩⟩,
        ⟨.identifier "a" none false, ⟨20, 21⟩⟩,
        ⟨.expressionStatement 9 none, ⟨20, 21⟩⟩,
        ⟨.program [2, 8, 10] .script, ⟨0, 21⟩⟩]
      children := #[[], [0], [1], [], [3], [4], [], [6], [5, 7], [], [9], [2, 8, 10]]
      parents := #[some 1, some 2, some 11, some 4, some 5, some 8, some 7, some 8, some 11,
        some 10, some 11, none]
      root := 11 }
  tokens := TokenIndex.ofList []

/-- There `a` can be renamed to `b`, and the inner use goes on to mean the inner variable. -/
theorem resolve?_renameEntry_nested :
    (ofSource nestedSource).rename? 0 "b" = some ⟨[⟨⟨4, 5⟩, "b"⟩, ⟨⟨20, 21⟩, "b"⟩]⟩ ∧
    ∀ r ∈ (ofSource nestedSource).scopes.references, r.init = false →
      ∃ name, usedName? nestedSource.tree r.identifier = some name ∧
        ((ofSource nestedSource).scopes.renameEntry 0 "a" "b").resolve? r.scope
          (if r.resolved = some 0 then "b" else name) = r.resolved := by
  have hrename : (ofSource nestedSource).rename? 0 "b" =
      some ⟨[⟨⟨4, 5⟩, "b"⟩, ⟨⟨20, 21⟩, "b"⟩]⟩ := by cbv
  have htarget : (ofSource nestedSource).scopes.varAt? 0 =
      some ⟨"a", 0, .letBinding, [0], [1], [1]⟩ := by cbv
  exact ⟨hrename, (resolve?_renameEntry_of_rename? nestedSource 0 _ "b" _ htarget hrename).2⟩

end SourceFile

end ScriptLint
