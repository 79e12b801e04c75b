import ScriptLint.Proofs.PathComponents

/-! Resolution of dots and double dots. What it leaves begins at the root or with double dots and
has only names after that; going down a path and up again as many steps comes back only as far as
the way down had names. -/
namespace ScriptLint.Path

def Component.IsName (c : Component) : Prop := c.IsStep ∧ c ≠ .parent

theorem Component.IsName.eq {c : Component} (h : c.IsName) : ∃ n, c = .name n := by
  cases c with
  | root | current => exact h.1.elim
  | parent => exact absurd rfl h.2
  | name n => exact ⟨n, rfl⟩

def IsBase (cs : List Component) : Prop := cs = [.root] ∨ ∃ k, cs = List.replicate k .parent

def Reduced (cs : List Component) : Prop :=
  ∃ base names, cs = base ++ names ∧ IsBase base ∧ ∀ c ∈ names, c.IsName

def WellFormed (cs : List Component) : Prop :=
  ∃ first rest, cs = first ++ rest ∧ (first = [] ∨ first = [.root] ∨ first = [.current]) ∧
    ∀ c ∈ rest, c.IsStep

theorem wellFormed_components (p : Path) : WellFormed p.components := by
  refine ⟨p.lead, parts p.text, rfl, ?_, fun c => isStep_of_mem_parts⟩
  unfold lead
  cases p.isAbsolute <;> cases p.startsWithDot <;> simp

theorem WellFormed.append {cs ds : List Component} (h : WellFormed cs) (hd : ∀ c ∈ ds, c.IsStep) :
    WellFormed (cs ++ ds) := by
  obtain ⟨first, rest, rfl, hfirst, hrest⟩ := h
  exact ⟨first, rest ++ ds, List.append_assoc .., hfirst, List.forall_mem_append.2 ⟨hrest, hd⟩⟩

namespace Reduced

variable {cs ds : List Component}

theorem nil : Reduced [] := ⟨[], [], rfl, .inr ⟨0, rfl⟩, by simp⟩

theorem readable (h : Reduced cs) : Readable cs := by
  obtain ⟨base, names, rfl, rfl | ⟨k, rfl⟩, hnames⟩ := h
  · exact ⟨[.root], names, rfl, .inr rfl, fun c hc => (hnames c hc).1⟩
  · refine ⟨[], _, rfl, .inl rfl, List.forall_mem_append.2 ⟨fun c hc => ?_, fun c hc =>
      (hnames c hc).1⟩⟩
    rw [List.eq_of_mem_replicate hc]
    trivial

theorem isStep_of_mem (h : Reduced cs) {c : Component} (hc : c ∈ cs) (hne : c ≠ .root) :
    c.IsStep := by
  obtain ⟨first, rest, rfl, hfirst, hrest⟩ := h.readable
  rcases List.mem_append.1 hc with hc | hc
  · rcases hfirst with rfl | rfl
    · cases hc
    · exact absurd (List.mem_singleton.1 hc) hne
  · exact hrest c hc

theorem current_not_mem (h : Reduced cs) : .current ∉ cs :=
  fun hc => h.isStep_of_mem hc Component.noConfusion

theorem append_left (h : Reduced (cs ++ ds)) : Reduced cs := by
  obtain ⟨base, names, heq, hbase, hnames⟩ := h
  rcases List.append_eq_append_iff.1 heq with ⟨r, rfl, -⟩ | ⟨r, rfl, rfl⟩
  · refine ⟨cs, [], (List.append_nil _).symm, ?_, by simp⟩
    rcases hbase with hbase | ⟨k, hk⟩
    · rcases List.append_eq_singleton_iff.1 hbase with ⟨rfl, -⟩ | ⟨rfl, -⟩
      · exact .inr ⟨0, rfl⟩
      · exact .inl rfl
    · exact .inr ⟨_, (List.append_eq_replicate_iff.1 hk).2.1⟩
  · exact ⟨base, r, rfl, hbase, (List.forall_mem_append.1 hnames).1⟩

end Reduced

/-! What one step does to a stack. -/

variable {c : Component} {st : List Component}

theorem resolveStep_of_isName (h : c.IsName) : resolveStep st c = c :: st := by
  obtain ⟨n, rfl⟩ := h.eq
  rfl

theorem resolveStep_isName_parent (h : c.IsName) : resolveStep (c :: st) .parent = st := by
  obtain ⟨n, rfl⟩ := h.eq
  rfl

theorem foldl_names {names : List Component} (h : ∀ c ∈ names, c.IsName) :
    names.foldl resolveStep st = names.reverse ++ st := by
  induction names generalizing st with
  | nil => rfl
  | cons c names ih =>
    rw [List.forall_mem_cons] at h
    rw [List.foldl_cons, resolveStep_of_isName h.1, ih h.2, List.reverse_cons, List.append_assoc]
    rfl

theorem resolveStep_replicate (k : Nat) :
    resolveStep (List.replicate k .parent) .parent = List.replicate (k + 1) .parent := by
  cases k <;> rfl

def climb (m : Nat) (st : List Component) : List Component :=
  (List.replicate m Component.parent).foldl resolveStep st

theorem climb_succ (m : Nat) (st : List Component) :
    climb (m + 1) st = climb m (resolveStep st .parent) := rfl

theorem climb_succ' (m : Nat) (st : List Component) :
    climb (m + 1) st = resolveStep (climb m st) .parent := by
  rw [climb, List.replicate_succ', List.foldl_append]
  rfl

theorem climb_replicate (k m : Nat) :
    climb m (List.replicate k .parent) = List.replicate (k + m) .parent := by
  induction m with
  | zero => rfl
  | succ m ih => rw [climb_succ', ih, resolveStep_replicate, Nat.add_assoc]

theorem climb_root (m : Nat) : climb m [.root] = [.root] := by
  induction m with
  | zero => rfl
  | succ m ih => rw [climb_succ', ih]; rfl

theorem foldl_base {base : List Component} (h : IsBase base) :
    base.foldl resolveStep [] = base.reverse := by
  rcases h with rfl | ⟨k, rfl⟩
  · rfl
  · rw [List.reverse_replicate]
    exact (climb_replicate 0 k).trans (by rw [Nat.zero_add])

theorem foldl_of_reduced {cs : List Component} (h : Reduced cs) :
    cs.foldl resolveStep [] = cs.reverse := by
  obtain ⟨base, names, rfl, hbase, hnames⟩ := h
  rw [List.foldl_append, foldl_base hbase, foldl_names hnames, List.reverse_append]

theorem resolve_of_reduced {cs : List Component} (h : Reduced cs) : resolve cs = cs := by
  rw [resolve, foldl_of_reduced h, List.reverse_reverse]

theorem reduced_resolveStep (h : Reduced st.reverse) (hc : c.IsStep) :
    Reduced (resolveStep st c).reverse := by
  obtain ⟨base, names, hst, hbase, hnames⟩ := h
  by_cases hparent : c = .parent
  · subst hparent
    induction names using List.reverseRecOn with
    | nil =>
      rw [List.append_nil, List.reverse_eq_iff] at hst
      subst hst
      rcases hbase with rfl | ⟨k, rfl⟩
      · exact ⟨[.root], [], rfl, .inl rfl, by simp⟩
      · rw [List.reverse_replicate, resolveStep_replicate, List.reverse_replicate]
        exact ⟨_, [], (List.append_nil _).symm, .inr ⟨k + 1, rfl⟩, by simp⟩
    | append_singleton names d _ =>
      rw [List.forall_mem_append] at hnames
      rw [← List.append_assoc, List.reverse_eq_iff, List.reverse_concat] at hst
      rw [hst, resolveStep_isName_parent (hnames.2 d (by simp)), List.reverse_reverse]
      exact ⟨base, names, rfl, hbase, hnames.1⟩
  · rw [resolveStep_of_isName ⟨hc, hparent⟩, List.reverse_cons, hst, List.append_assoc]
    exact ⟨base, names ++ [c], rfl, hbase,
      List.forall_mem_append.2 ⟨hnames, by simpa using ⟨hc, hparent⟩⟩⟩

theorem reduced_foldl {cs : List Component} (h : Reduced st.reverse) (hcs : ∀ c ∈ cs, c.IsStep) :
    Reduced (cs.foldl resolveStep st).reverse := by
  induction cs generalizing st with
  | nil => exact h
  | cons c cs ih =>
    rw [List.forall_mem_cons] at hcs
    exact ih (reduced_resolveStep h hcs.1) hcs.2

theorem reduced_resolve {cs : List Component} (h : WellFormed cs) : Reduced (resolve cs) := by
  obtain ⟨first, rest, rfl, hfirst, hrest⟩ := h
  rw [resolve, List.foldl_append]
  refine reduced_foldl ?_ hrest
  rcases hfirst with rfl | rfl | rfl
  · exact .nil
  · exact ⟨[.root], [], rfl, .inl rfl, by simp⟩
  · exact .nil

/-! The root stays where it is. -/

theorem root_mem_resolveStep_iff (hc : c.IsStep) : .root ∈ resolveStep st c ↔ .root ∈ st := by
  cases c with
  | root | current => exact hc.elim
  | name n => simp [resolveStep]
  | parent => rcases st with _ | ⟨_ | _ | _ | n, st⟩ <;> simp [resolveStep]

theorem root_mem_foldl_iff {cs : List Component} (hcs : ∀ c ∈ cs, c.IsStep) :
    .root ∈ cs.foldl resolveStep st ↔ .root ∈ st := by
  induction cs generalizing st with
  | nil => rfl
  | cons c cs ih =>
    rw [List.forall_mem_cons] at hcs
    rw [List.foldl_cons, ih hcs.2, root_mem_resolveStep_iff hcs.1]

theorem WellFormed.root_mem_resolve_iff {cs : List Component} (h : WellFormed cs) :
    .root ∈ resolve cs ↔ .root ∈ cs := by
  obtain ⟨first, rest, rfl, hfirst, hrest⟩ := h
  have hroot : .root ∉ rest := fun hmem => hrest .root hmem
  rw [resolve, List.mem_reverse, List.foldl_append, root_mem_foldl_iff hrest, List.mem_append]
  simp only [hroot, or_false]
  rcases hfirst with rfl | rfl | rfl <;> simp [resolveStep]

theorem WellFormed.root_not_mem_of_append {cs ds : List Component} (h : WellFormed (cs ++ ds))
    (hroot : .root ∈ cs ++ ds → .root ∈ cs) : .root ∉ ds := by
  intro hmem
  obtain ⟨first, rest, heq, hfirst, hrest⟩ := h
  have hcount : (cs ++ ds).count .root ≤ 1 := by
    rw [heq, List.count_append, List.count_eq_zero.2 fun hmem => hrest .root hmem, Nat.add_zero]
    rcases hfirst with rfl | rfl | rfl <;> decide
  have hcs := List.count_pos_iff.2 (hroot (List.mem_append_right _ hmem))
  have hds := List.count_pos_iff.2 hmem
  rw [List.count_append] at hcount
  omega

theorem WellFormed.root_first {cs : List Component} (h : WellFormed cs) (hroot : .root ∈ cs) :
    [.root] <+: cs := by
  obtain ⟨first, rest, rfl, hfirst, hrest⟩ := h
  rcases List.mem_append.1 hroot with hmem | hmem
  · rcases hfirst with rfl | rfl | rfl
    · cases hmem
    · exact List.prefix_append _ _
    · simp at hmem
  · exact (hrest .root hmem).elim

theorem components_normalize (p : Path) : p.normalize.components = resolve p.components :=
  components_ofComponents (reduced_resolve (wellFormed_components p)).readable

theorem resolve_current (cs : List Component) : resolve (.current :: cs) = resolve cs := rfl

theorem resolve_components_join {p q : Path} (hq : q.isAbsolute = false) :
    resolve (p.join q).components = resolve (p.components ++ parts q.text) := by
  by_cases ht : p.text = []
  · have hjoin : p.join q = q := by simp [join, hq, ht]
    rw [hjoin, components_of_text_eq_nil ht, components_eq, lead, hq, if_neg Bool.false_ne_true]
    split
    · exact resolve_current _
    · rfl
  · rw [components_join ht hq]

/-! Down and up again. -/

/-- A way down and as many steps up: names are undone, a double dot on the way counts twice, and a
dot counts once. -/
theorem climb_length_foldl {rest : List Component} (h : .root ∉ rest) :
    climb rest.length (rest.foldl resolveStep st) =
      climb (2 * rest.count .parent + rest.count .current) st := by
  induction rest using List.reverseRecOn with
  | nil => rfl
  | append_singleton rest c ih =>
    rw [List.mem_append, not_or] at h
    have ih := ih h.1
    rw [List.length_append, List.length_singleton, List.foldl_append, List.foldl_cons,
      List.foldl_nil, List.count_append, List.count_append]
    cases c with
    | root => exact absurd List.mem_cons_self h.2
    | current =>
      calc climb (rest.length + 1) (rest.foldl resolveStep st)
        _ = resolveStep (climb (2 * rest.count .parent + rest.count .current) st) .parent := by
          rw [climb_succ', ih]
        _ = climb (2 * (rest.count .parent + 0) + (rest.count .current + 1)) st :=
          (climb_succ' _ st).symm
    | parent =>
      calc climb (rest.length + 1) (resolveStep (rest.foldl resolveStep st) .parent)
        _ = resolveStep (climb (rest.length + 1) (rest.foldl resolveStep st)) .parent := by
          rw [← climb_succ, climb_succ']
        _ = climb (2 * rest.count .parent + rest.count .current + 1 + 1) st := by
          rw [climb_succ', ih, climb_succ', climb_succ']
        _ = climb (2 * (rest.count .parent + 1) + (rest.count .current + 0)) st := by
          congr 1
          omega
    | name n =>
      calc climb (rest.length + 1) (.name n :: rest.foldl resolveStep st)
        _ = climb rest.length (rest.foldl resolveStep st) := climb_succ _ _
        _ = climb (2 * (rest.count .parent + 0) + (rest.count .current + 0)) st := ih

def Component.leadsDown : Component → Bool
  | .name _ => true
  | _ => false

theorem leadsDown_of_isName {c : Component} (h : c.IsName) : c.leadsDown = true := by
  obtain ⟨n, rfl⟩ := h.eq
  rfl

theorem isName_of_mem_components {p : Path} {c : Component} (hc : c ∈ p.components)
    (h : c.leadsDown = true) : c.IsName := by
  cases c with
  | root | current | parent => cases h
  | name n =>
    refine ⟨?_, Component.noConfusion⟩
    obtain ⟨first, rest, heq, hfirst, hrest⟩ := wellFormed_components p
    rw [heq] at hc
    rcases List.mem_append.1 hc with hc | hc
    · rcases hfirst with rfl | rfl | rfl <;> simp at hc
    · exact hrest _ hc

theorem filter_names {names : List Component} (h : ∀ c ∈ names, c.IsName) :
    names.filter Component.leadsDown = names :=
  List.filter_eq_self.2 fun c hc => leadsDown_of_isName (h c hc)

theorem count_parent_names {names : List Component} (h : ∀ c ∈ names, c.IsName) :
    names.count .parent = 0 :=
  List.count_eq_zero.2 fun hmem => (h _ hmem).2 rfl

theorem countP_climb_le (m : Nat) (st : List Component) :
    (climb m st).countP Component.leadsDown ≤ st.countP Component.leadsDown := by
  induction m with
  | zero => exact Nat.le_refl _
  | succ m ih =>
    have hstep : ∀ st, (resolveStep st .parent).countP Component.leadsDown ≤
        st.countP Component.leadsDown := by
      intro st
      rcases st with _ | ⟨_ | _ | _ | n, st⟩
      case cons.name => exact (List.sublist_cons_self _ _).countP_le
      all_goals exact Nat.le_refl _
    rw [climb_succ']
    exact (hstep _).trans ih

variable {shared rest names : List Component} {m : Nat}

theorem climb_base_iff (hbase : IsBase (shared ++ rest)) (hroot : .root ∉ rest)
    (hnames : ∀ c ∈ names, c.IsName) :
    (climb m shared.reverse).reverse ++ (rest ++ names).filter Component.leadsDown =
        shared ++ (rest ++ names) ↔
      shared = [.root] ∨ m = (rest ++ names).count .parent := by
  rw [List.filter_append, filter_names hnames, List.count_append, count_parent_names hnames]
  rcases hbase with hbase | ⟨k, hk⟩
  · rcases List.append_eq_singleton_iff.1 hbase with ⟨-, rfl⟩ | ⟨rfl, rfl⟩
    · exact absurd List.mem_cons_self hroot
    · simp [climb_root]
  · obtain ⟨i, rfl⟩ : ∃ i, shared = List.replicate i .parent :=
      ⟨_, (List.append_eq_replicate_iff.1 hk).2.1⟩
    obtain ⟨j, rfl⟩ : ∃ j, rest = List.replicate j .parent :=
      ⟨_, (List.append_eq_replicate_iff.1 hk).2.2⟩
    have hne : List.replicate i Component.parent ≠ [.root] := fun h =>
      Component.noConfusion (List.eq_of_mem_replicate (h ▸ List.mem_cons_self))
    have hfilter : (List.replicate j Component.parent).filter Component.leadsDown = [] := by
      rw [List.filter_replicate]; rfl
    rw [hfilter, List.nil_append, ← List.append_assoc, List.append_cancel_right_eq,
      List.replicate_append_replicate, List.reverse_replicate, climb_replicate,
      List.reverse_replicate, List.replicate_inj, List.count_replicate_self]
    simp only [hne, false_or, or_true, and_true]
    omega

/-- Going up `m` steps from a shared part and down by the names of the rest leads to the rest
exactly if the root stops the way up, or the rest begins with as many double dots. -/
theorem climb_append_iff (h : Reduced (shared ++ rest)) (hroot : .root ∉ rest) :
    (climb m shared.reverse).reverse ++ rest.filter Component.leadsDown = shared ++ rest ↔
      shared = [.root] ∨ m = rest.count .parent := by
  obtain ⟨base, names, heq, hbase, hnames⟩ := h
  rcases List.append_eq_append_iff.1 heq with ⟨r, rfl, rfl⟩ | ⟨r, rfl, rfl⟩
  · rw [List.mem_append, not_or] at hroot
    exact climb_base_iff hbase hroot.1 hnames
  · rw [List.forall_mem_append] at hnames
    induction r using List.reverseRecOn with
    | nil =>
      rw [List.append_nil] at *
      have hself : IsBase (base ++ []) := by rwa [List.append_nil]
      exact climb_base_iff hself List.not_mem_nil hnames.2
    | append_singleton r c _ =>
      -- A name at the end of the shared part is lost by the first step up.
      have hc : c.IsName := hnames.1 c (by simp)
      have hne : base ++ (r ++ [c]) ≠ [.root] := fun h => by
        have hmem : c ∈ [Component.root] := h ▸ by simp
        rw [List.mem_singleton.1 hmem] at hc
        exact hc.1
      rw [filter_names hnames.2, List.append_cancel_right_eq, count_parent_names hnames.2]
      simp only [hne, false_or]
      constructor
      · intro heq
        by_contra hm
        obtain ⟨m, rfl⟩ := Nat.exists_eq_succ_of_ne_zero hm
        have hle := countP_climb_le m (base ++ r).reverse
        rw [← List.append_assoc, List.reverse_concat, climb_succ, resolveStep_isName_parent hc] at heq
        have hcount := congrArg (List.countP Component.leadsDown) heq
        rw [List.countP_reverse, List.countP_append, List.countP_singleton,
          leadsDown_of_isName hc, if_pos rfl] at hcount
        rw [List.countP_reverse] at hle
        omega
      · rintro rfl
        exact List.reverse_reverse _

end ScriptLint.Path
