import ScriptLint.Proofs.ReadMembers

/-! What reading an object does to the loader. It fails as listing the children fails, or it hands
the children over in reading order; each is answered with its number or queued. Every type of node
is looked at here once, for whatever becomes of a child. -/
namespace ScriptLint

variable {α β γ δ σ τ κ ε : Type}

/-- A computation with a state that fails as one without, and does to the state what is said by the
result of that one. -/
def Splits (x : Except ε κ) (w : κ → StateM σ δ) (y : StateT σ (Except ε) δ) : Prop :=
  ∀ s, y.run s = (fun k => (w k).run s) <$> x

/-- The same of what is left of a computation, after something was done to the state. -/
def SplitsAfter (u : StateM σ τ) (x : Except ε κ) (w : κ → StateM σ δ)
    (y : τ → StateT σ (Except ε) δ) : Prop :=
  ∀ s, (y (u.run s).1).run (u.run s).2 = (fun k => (w k).run s) <$> x

theorem SplitsAfter.splits {x : Except ε κ} {w : κ → StateM σ δ} {y : StateT σ (Except ε) δ}
    (h : SplitsAfter (pure ()) x w fun _ => y) : Splits x w y := h

theorem SplitsAfter.bind {u : StateM σ τ} {p : Except ε γ} {v : γ → StateM σ β}
    {q : StateT σ (Except ε) β} {x : γ → Except ε κ} {w : κ → StateM σ δ}
    {y : τ → β → StateT σ (Except ε) δ} (hp : Splits p v q)
    (h : ∀ c, SplitsAfter (do let a ← u; let b ← v c; pure (a, b)) (x c) w fun ab => y ab.1 ab.2) :
    SplitsAfter u (p >>= x) w fun a => q >>= y a := by
  intro s
  rw [StateT.run_bind, hp]
  cases p with
  | error e => rfl
  | ok c => exact h c s

theorem SplitsAfter.pure {u : StateM σ τ} {k : κ} {w : κ → StateM σ δ} {f : τ → δ}
    (h : ∀ s, (w k).run s = (f (u.run s).1, (u.run s).2)) :
    SplitsAfter u (Pure.pure k : Except ε κ) w fun a => Pure.pure (f a) := by
  intro s
  change Except.ok (f (u.run s).1, (u.run s).2) = Except.ok ((w k).run s)
  rw [h]

theorem SplitsAfter.lift {u : StateM σ τ} {p : Except ε γ} {x : γ → Except ε κ}
    {w : κ → StateM σ δ} {y : τ → γ → StateT σ (Except ε) δ}
    (h : ∀ c, SplitsAfter u (x c) w fun a => y a c) :
    SplitsAfter u (p >>= x) w fun a => (monadLift p : StateT σ (Except ε) γ) >>= y a := by
  intro s
  cases p with
  | error e => rfl
  | ok c => exact h c s

theorem Splits.some {x : Except ε κ} {w : κ → StateM σ δ} {y : StateT σ (Except ε) δ}
    (h : Splits x w y) :
    Splits (Option.some <$> x) (fun o => o.mapM w) (Option.some <$> y) := by
  intro s
  rw [StateT.run_map, h]
  cases x <;> rfl

theorem Splits.mapM {ι : Type} {x : ι → Except ε κ} {w : κ → StateM σ δ}
    {y : ι → StateT σ (Except ε) δ} (h : ∀ e, Splits (x e) w (y e)) (l : List ι) :
    Splits (l.mapM x) (fun ks => ks.mapM w) (l.mapM y) := by
  induction l with
  | nil => exact fun s => rfl
  | cons e l ih =>
    rw [List.mapM_cons, List.mapM_cons]
    refine SplitsAfter.splits ?_
    refine SplitsAfter.bind (h e) fun c => ?_
    refine SplitsAfter.bind ih fun cs => ?_
    refine SplitsAfter.pure fun s => ?_
    rw [List.mapM_cons]
    rfl

namespace Document

open Json

variable {node : Cell → StateT σ (Except LoadError) β} {g : Cell → StateM σ β}
  (hnode : ∀ c, Splits (checked c) g (node c)) (o : Object) (ty : String)

abbrev converting (node : Cell → StateT σ (Except LoadError) β) (o : Object) (ty : String) :
    Reading (StateT σ (Except LoadError)) β := ⟨node, o, ty⟩

include hnode

theorem splits_child (name : String) :
    Splits ((checking o ty).child name) g ((converting node o ty).child name) := by
  refine SplitsAfter.splits ?_
  unfold Reading.child
  refine SplitsAfter.lift fun v => ?_
  intro s
  exact hnode _ s

theorem splits_optional (name : String) :
    Splits ((checking o ty).optional name) (fun c => c.mapM g)
      ((converting node o ty).optional name) := by
  unfold Reading.optional
  dsimp only
  split
  · exact fun s => rfl
  · exact fun s => rfl
  · exact (hnode _).some

theorem splits_nodes (name : String) :
    Splits ((checking o ty).nodes name) (fun cs => cs.mapM g)
      ((converting node o ty).nodes name) := by
  refine SplitsAfter.splits ?_
  unfold Reading.nodes
  refine SplitsAfter.lift fun vs => ?_
  intro s
  exact Splits.mapM (fun e => hnode ⟨e.2 :: slot o name, e.1⟩) vs.zipIdx s

theorem splits_holes (name : String) :
    Splits ((checking o ty).holes name) (fun cs => cs.mapM fun c => c.mapM g)
      ((converting node o ty).holes name) := by
  refine SplitsAfter.splits ?_
  unfold Reading.holes
  refine SplitsAfter.lift fun vs => ?_
  intro s
  refine Splits.mapM (fun e => ?_) vs.zipIdx s
  obtain ⟨v, i⟩ := e
  dsimp only
  split
  · exact fun s => rfl
  · exact (hnode _).some

omit hnode in
theorem splits_text (name : String) :
    Splits ((checking o ty).text name) (fun s => (pure s : StateM σ String))
      ((converting node o ty).text name) := by
  intro s
  change (liftM (text o ty name) : StateT σ (Except LoadError) String).run s =
    (fun v => (v, s)) <$> text o ty name
  cases text o ty name <;> rfl

theorem splits_key :
    Splits (checking o ty).key (fun c => c.mapM g) (converting node o ty).key := by
  unfold Reading.key
  change Splits (if flag o "shorthand" then _ else _) _ (if flag o "shorthand" then _ else _)
  split
  · exact fun s => rfl
  · exact (splits_child hnode o ty "key").some

theorem splits_functionShape :
    Splits (checking o ty).functionShape (fun fn => fn.traverse g)
      (converting node o ty).functionShape := by
  refine SplitsAfter.splits ?_
  refine SplitsAfter.bind (splits_optional hnode o ty "id") fun id => ?_
  refine SplitsAfter.bind (splits_nodes hnode o ty "params") fun params => ?_
  refine SplitsAfter.bind (splits_child hnode o ty "body") fun body => ?_
  exact SplitsAfter.pure fun s => rfl

theorem splits_classShape :
    Splits (checking o ty).classShape (fun cls => cls.traverse g)
      (converting node o ty).classShape := by
  refine SplitsAfter.splits ?_
  refine SplitsAfter.bind (splits_optional hnode o ty "id") fun id => ?_
  refine SplitsAfter.bind (splits_optional hnode o ty "superClass") fun superClass => ?_
  refine SplitsAfter.bind (splits_child hnode o ty "body") fun body => ?_
  exact SplitsAfter.pure fun s => rfl

theorem splits_sharedPair (t : Text) (first second : String) :
    Splits ((checking o ty).sharedPair t first second)
      (fun p => do let a ← g p.1; let b ← p.2.mapM g; pure (a, b))
      ((converting node o ty).sharedPair t first second) := by
  refine SplitsAfter.splits ?_
  unfold Reading.sharedPair
  refine SplitsAfter.bind (splits_child hnode o ty first) fun a => ?_
  refine SplitsAfter.lift fun v => ?_
  refine SplitsAfter.lift fun w => ?_
  dsimp only
  split
  · exact SplitsAfter.pure fun s => rfl
  · refine SplitsAfter.bind (hnode _) fun b => ?_
    exact SplitsAfter.pure fun s => rfl

/-- Whatever becomes of a child, reading an object hands its children over in reading order. -/
theorem splits_kind (t : Text) :
    Splits (cells t o ty) (fun k => k.traverse g) ((converting node o ty).kind t) := by
  refine SplitsAfter.splits ?_
  unfold cells Reading.kind
  dsimp only
  split
  all_goals
    repeat' first
      | with_reducible apply SplitsAfter.bind (splits_child hnode ..); intro _
      | with_reducible apply SplitsAfter.bind (splits_nodes hnode ..); intro _
      | with_reducible apply SplitsAfter.bind (splits_optional hnode ..); intro _
      | with_reducible apply SplitsAfter.bind (splits_holes hnode ..); intro _
      | with_reducible apply SplitsAfter.bind (splits_text ..); intro _
      | with_reducible apply SplitsAfter.bind (splits_sharedPair hnode ..); intro _
      | with_reducible apply SplitsAfter.bind (splits_functionShape hnode ..); intro _
      | with_reducible apply SplitsAfter.bind (splits_classShape hnode ..); intro _
      | with_reducible apply SplitsAfter.bind (splits_key hnode ..); intro _
      | with_reducible apply SplitsAfter.bind (Splits.mapM hnode _); intro _
      | with_reducible apply SplitsAfter.pure
    intro s
    rfl

end Document

end ScriptLint
