import Mathlib
import ScriptLint.Syntax.Tree

/-! The one traversal of node kinds, followed in the ways in which it is used: to list the children
of a node, to put others in their place and to give numbers to them one after the other. Every kind
of node is looked at here, and nowhere else: the children that are put in are the ones listed
afterwards. -/
namespace ScriptLint

variable {α β γ δ σ : Type}

namespace NodeKind

def note (a : α) : StateM (List α) α := modifyGet fun as => (a, a :: as)

/-! Noting. -/

theorem run_note (a : α) (as : List α) : (note a).run as = (a, a :: as) := rfl

theorem run_pure_note (c : γ) (s : σ) : (pure c : StateM σ γ).run s = (c, s) := rfl

theorem run_bind_note (x : StateM σ γ) (f : γ → StateM σ δ) (s : σ) :
    (x >>= f).run s = (f (x.run s).1).run (x.run s).2 := rfl

theorem run_mapM_note (l as : List α) :
    (l.mapM note : StateM (List α) (List α)).run as = (l, l.reverse ++ as) := by
  induction l generalizing as with
  | nil => rfl
  | cons a l ih =>
    simp only [List.mapM_cons, run_bind_note, run_note, ih, run_pure_note, List.reverse_cons,
      List.append_assoc, List.cons_append, List.nil_append]

theorem run_optionMapM_note (o : Option α) (as : List α) :
    (o.mapM note : StateM (List α) (Option α)).run as = (o, o.toList.reverse ++ as) := by
  cases o <;> rfl

theorem run_holes_note (l : List (Option α)) (as : List α) :
    (l.mapM (fun e => e.mapM note) : StateM (List α) (List (Option α))).run as =
      (l, (l.flatMap Option.toList).reverse ++ as) := by
  induction l generalizing as with
  | nil => rfl
  | cons a l ih =>
    simp only [List.mapM_cons, run_bind_note, run_optionMapM_note, ih, run_pure_note,
      List.flatMap_cons, List.reverse_append, List.append_assoc]

theorem inReadingOrder_eq (k : NodeKind α) :
    k.inReadingOrder = ((k.traverse note).run []).2.reverse := rfl

theorem traverse_map {m : Type → Type} [Monad m] [LawfulMonad m] (k : NodeKind α) (g : α → β)
    (h : β → m γ) : (k.map g).traverse h = k.traverse fun a => h (g a) := by
  have hoption (o : Option α) : (o.mapM fun a => (pure (g a) : Id β)) = pure (o.map g) := by
    cases o <;> rfl
  have hoptions (o : Option α) : (o.map g).mapM h = o.mapM fun a => h (g a) := by
    cases o <;> rfl
  cases k <;>
    simp only [map, traverse, FunctionShape.traverse, ClassShape.traverse, bind_assoc, pure_bind,
      List.mapM_pure, List.mapM_map, Id.run_pure, hoption, hoptions, Function.comp_def]

/-! Visiting and putting others in their place. -/

def takeNext [Inhabited β] (_ : α) : StateM (List β) β :=
  modifyGet fun bs => (bs.headD default, bs.tail)

def number (k : NodeKind α) (ids : List NodeId) : NodeKind NodeId :=
  ((k.traverse takeNext).run ids).1

theorem number_map (k : NodeKind α) (g : α → β) (ids : List NodeId) :
    (k.map g).number ids = k.number ids := by
  rw [number, traverse_map]
  rfl

/-- A computation that does to the children in a list, from the first to the last, what `f` does.
The results are the children of its own result, after some others, and it is the result that they
alone lead to. -/
def Visits (f : α → StateM σ β) (children : γ → List β) (before : List β) (visited : List α)
    (x : StateM σ γ) (y : StateM (List β) γ) : Prop :=
  ∀ s, ∃ bs s', (visited.mapM f).run s = (bs, s') ∧
    ∃ c, x.run s = (c, s') ∧ children c = before ++ bs ∧ ∀ rest, y.run (bs ++ rest) = (c, rest)

variable {f : α → StateM σ β} {children : γ → List β} {before : List β} {visited visited' : List α}

theorem Visits.bind {u : δ → List β} {x : StateM σ δ} {y : StateM (List β) δ}
    {g : δ → StateM σ γ} {h : δ → StateM (List β) γ} (hx : Visits f u [] visited x y)
    (hg : ∀ c, Visits f children (before ++ u c) visited' (g c) (h c)) :
    Visits f children before (visited ++ visited') (x >>= g) (y >>= h) := by
  intro s
  obtain ⟨bs, mid, hvisited, c, hrun, hbs, htaken⟩ := hx s
  obtain ⟨bs', s', hvisited', d, hrun', hbs', htaken'⟩ := hg c mid
  refine ⟨bs ++ bs', s', ?_, d, ?_, ?_, fun rest => ?_⟩
  · rw [List.mapM_append, run_bind_note, hvisited, run_bind_note, hvisited', run_pure_note]
  · rw [run_bind_note, hrun, hrun']
  · rw [hbs', hbs, List.nil_append, List.append_assoc]
  · rw [List.append_assoc, run_bind_note, htaken, htaken']

theorem Visits.pure {c : γ} (h : children c = before) :
    Visits f children before [] (pure c) (Pure.pure c) := by
  intro s
  exact ⟨[], s, rfl, c, rfl, by simpa using h, fun rest => rfl⟩

theorem visits_mapM {ε : Type} {part : ε → List α} {u : δ → List β} {x : ε → StateM σ δ}
    {y : ε → StateM (List β) δ} (h : ∀ e, Visits f u [] (part e) (x e) (y e)) (l : List ε) :
    Visits f (fun cs => cs.flatMap u) [] (l.flatMap part) (l.mapM x) (l.mapM y) := by
  induction l with
  | nil => exact Visits.pure rfl
  | cons e l ih =>
    rw [List.mapM_cons, List.mapM_cons, List.flatMap_cons, ← List.append_nil (l.flatMap part)]
    refine (h e).bind fun c => ?_
    exact ih.bind fun cs => Visits.pure (by simp)

variable [Inhabited β]

theorem visits_one (a : α) : Visits f (fun b => [b]) [] [a] (f a) (takeNext a) := by
  intro s
  exact ⟨[((f a).run s).1], ((f a).run s).2, rfl, ((f a).run s).1, rfl, rfl, fun rest => rfl⟩

theorem visits_list (l : List α) : Visits f id [] l (l.mapM f) (l.mapM takeNext) := by
  have h := visits_mapM visits_one l (f := f)
  simp only [List.flatMap_singleton'] at h
  exact h

theorem visits_option (o : Option α) :
    Visits f Option.toList [] o.toList (o.mapM f) (o.mapM takeNext) := by
  cases o with
  | none => exact Visits.pure rfl
  | some a =>
    change Visits f Option.toList [] ([a] ++ []) (f a >>= fun b => Pure.pure (some b))
      (takeNext a >>= fun b => Pure.pure (some b))
    refine (visits_one a).bind fun b => ?_
    exact Visits.pure rfl

theorem visits_holes (l : List (Option α)) :
    Visits f (fun l => l.flatMap Option.toList) [] (l.flatMap Option.toList)
      (l.mapM fun e => e.mapM f) (l.mapM fun e => e.mapM takeNext) :=
  visits_mapM visits_option l

theorem visits_traverse (k : NodeKind α) :
    Visits f inReadingOrder [] k.inReadingOrder (k.traverse f) (k.traverse takeNext) := by
  suffices h : ∃ visited, Visits f inReadingOrder [] visited (k.traverse f) (k.traverse takeNext) ∧
      visited = k.inReadingOrder by
    obtain ⟨visited, hvisits, rfl⟩ := h
    exact hvisits
  cases k
  all_goals
    apply Exists.intro
    constructor
    · simp only [traverse, FunctionShape.traverse, ClassShape.traverse, bind_assoc, pure_bind]
      repeat' first
        | with_reducible apply Visits.bind (visits_one _); intro _
        | with_reducible apply Visits.bind (visits_list _); intro _
        | with_reducible apply Visits.bind (visits_option _); intro _
        | with_reducible apply Visits.bind (visits_holes _); intro _
        | with_reducible apply Visits.pure
      simp only [inReadingOrder_eq, traverse, FunctionShape.traverse, ClassShape.traverse,
        run_mapM_note, run_optionMapM_note, run_holes_note, run_note, run_pure_note, run_bind_note,
        List.append_assoc, List.append_nil, List.reverse_append, List.reverse_reverse,
        List.reverse_cons, List.reverse_nil, List.nil_append, List.cons_append, id_eq]
    · simp only [inReadingOrder_eq, traverse, FunctionShape.traverse, ClassShape.traverse,
        run_mapM_note, run_optionMapM_note, run_holes_note, run_note, run_pure_note, run_bind_note,
        List.append_assoc, List.append_nil, List.reverse_append, List.reverse_reverse,
        List.reverse_cons, List.reverse_nil, List.nil_append, List.cons_append]

theorem run_mapM_takeNext {l : List α} {bs : List β} (h : bs.length = l.length) :
    (l.mapM takeNext).run bs = (bs, []) := by
  induction l generalizing bs with
  | nil =>
    rw [List.length_eq_zero_iff.1 h]
    rfl
  | cons a l ih =>
    cases bs with
    | nil => simp at h
    | cons b bs =>
      have hrest := ih (Nat.succ.inj h)
      rw [List.mapM_cons, run_bind_note, run_bind_note]
      change (b :: ((l.mapM takeNext).run bs).1, ((l.mapM takeNext).run bs).2) = _
      rw [hrest]

theorem run_traverse (k : NodeKind α) (f : α → StateM σ NodeId) (s : σ) :
    (k.traverse f).run s =
      (k.number ((k.inReadingOrder.mapM f).run s).1, ((k.inReadingOrder.mapM f).run s).2) := by
  obtain ⟨ids, s', hvisited, k', hrun, -, htaken⟩ := visits_traverse k (f := f) s
  rw [hrun, hvisited, number, ← List.append_nil ids, htaken]

theorem inReadingOrder_number {k : NodeKind α} {ids : List NodeId}
    (h : ids.length = k.inReadingOrder.length) : (k.number ids).inReadingOrder = ids := by
  obtain ⟨ids', rest, hvisited, k', hrun, hchildren, -⟩ :=
    visits_traverse k (f := takeNext (β := NodeId)) ids
  rw [run_mapM_takeNext h] at hvisited
  cases hvisited
  rw [number, hrun]
  exact hchildren

theorem inReadingOrder_map (k : NodeKind α) (g : α → β) :
    (k.map g).inReadingOrder = k.inReadingOrder.map g := by
  obtain ⟨bs, s', hvisited, k', hrun, -⟩ := visits_traverse k (f := fun a => note (g a)) []
  have hnoted : (k.inReadingOrder.mapM fun a => note (g a)).run [] =
      (k.inReadingOrder.map g, (k.inReadingOrder.map g).reverse) := by
    have h := run_mapM_note (k.inReadingOrder.map g) []
    rwa [List.mapM_map, List.append_nil] at h
  rw [hnoted] at hvisited
  cases hvisited
  rw [inReadingOrder_eq, traverse_map, hrun, List.reverse_reverse]

theorem children_perm_inReadingOrder (k : NodeKind α) : k.children.Perm k.inReadingOrder := by
  unfold children
  split
  · exact List.Perm.swap ..
  · exact List.Perm.swap ..
  · exact List.Perm.refl _

theorem inReadingOrder_other (typeName : String) (children : List α) :
    (other typeName children).inReadingOrder = children := by
  simp only [inReadingOrder_eq, traverse, run_bind_note, run_mapM_note, run_pure_note,
    List.append_nil, List.reverse_reverse]

end NodeKind

end ScriptLint
