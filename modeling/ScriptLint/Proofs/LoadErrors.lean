import ScriptLint.Proofs.LoadedTree

/-! Which errors linking can meet. Reading a document fails for its own reasons only, and the nodes
it gives are numbered in such a way that no child is missing and none has two parents. -/
namespace ScriptLint

def NoTreeError {α : Type} (x : Except LoadError α) : Prop := ∀ cause, x ≠ .error (.tree cause)

variable {α β : Type}

theorem NoTreeError.bind {x : Except LoadError α} {f : α → Except LoadError β}
    (hx : NoTreeError x) (hf : ∀ a, NoTreeError (f a)) : NoTreeError (x >>= f) := by
  intro cause h
  cases x with
  | error e =>
    change Except.error e = _ at h
    cases h
    exact hx cause rfl
  | ok a => exact hf a cause h

theorem NoTreeError.pure (a : α) : NoTreeError (pure a) := by
  intro cause h
  cases h

theorem NoTreeError.map {x : Except LoadError α} (hx : NoTreeError x) (f : α → β) :
    NoTreeError (f <$> x) := by
  rw [map_eq_pure_bind]
  exact hx.bind fun a => NoTreeError.pure (f a)

theorem NoTreeError.mapM {f : α → Except LoadError β} (hf : ∀ a, NoTreeError (f a)) (l : List α) :
    NoTreeError (l.mapM f) := by
  induction l with
  | nil => exact NoTreeError.pure []
  | cons a l ih =>
    rw [List.mapM_cons]
    refine (hf a).bind fun b => ?_
    exact ih.bind fun bs => NoTreeError.pure (b :: bs)

namespace Document

open Json

variable (o : Object) (ty name : String)

theorem noTreeError_field : NoTreeError (field o ty name) := by
  intro cause h
  unfold field at h
  split at h <;> cases h

theorem noTreeError_text : NoTreeError ((checking o ty).text name) := by
  intro cause h
  change text o ty name = _ at h
  unfold text at h
  split at h <;> cases h

theorem noTreeError_required : NoTreeError (required o ty name) := by
  refine (noTreeError_field o ty name).bind fun v => ?_
  split
  · intro cause h
    cases h
  · exact NoTreeError.pure _

theorem noTreeError_items : NoTreeError (items o ty name) := by
  refine (noTreeError_field o ty name).bind fun v => ?_
  split
  · exact NoTreeError.pure _
  · intro cause h
    cases h

theorem noTreeError_checked (c : Cell) : NoTreeError (checked c) := by
  intro cause h
  unfold checked at h
  split at h <;> cases h

theorem noTreeError_child : NoTreeError ((checking o ty).child name) :=
  (noTreeError_required o ty name).bind fun _ => noTreeError_checked _

theorem noTreeError_optional : NoTreeError ((checking o ty).optional name) := by
  unfold Reading.optional
  split
  · exact NoTreeError.pure none
  · exact NoTreeError.pure none
  · exact (noTreeError_checked _).map some

theorem noTreeError_nodes : NoTreeError ((checking o ty).nodes name) :=
  (noTreeError_items o ty name).bind fun _ => NoTreeError.mapM (fun _ => noTreeError_checked _) _

theorem noTreeError_holes : NoTreeError ((checking o ty).holes name) := by
  refine (noTreeError_items o ty name).bind fun _ => NoTreeError.mapM (fun e => ?_) _
  obtain ⟨v, i⟩ := e
  change NoTreeError (if v.isNull then _ else _)
  split
  · exact NoTreeError.pure none
  · exact (noTreeError_checked _).map some

theorem noTreeError_key : NoTreeError (checking o ty).key := by
  unfold Reading.key
  split
  · exact NoTreeError.pure none
  · exact (noTreeError_child o ty "key").map some

theorem noTreeError_functionShape : NoTreeError (checking o ty).functionShape := by
  refine (noTreeError_optional o ty "id").bind fun id => ?_
  refine (noTreeError_nodes o ty "params").bind fun params => ?_
  exact (noTreeError_child o ty "body").bind fun body => NoTreeError.pure _

theorem noTreeError_classShape : NoTreeError (checking o ty).classShape := by
  refine (noTreeError_optional o ty "id").bind fun id => ?_
  refine (noTreeError_optional o ty "superClass").bind fun superClass => ?_
  exact (noTreeError_child o ty "body").bind fun body => NoTreeError.pure _

theorem noTreeError_sharedPair (t : Text) (first second : String) :
    NoTreeError ((checking o ty).sharedPair t first second) := by
  refine (noTreeError_child o ty first).bind fun a => ?_
  refine (noTreeError_field o ty first).bind fun v => ?_
  refine (noTreeError_field o ty second).bind fun w => ?_
  dsimp only
  split
  · exact NoTreeError.pure _
  · exact (noTreeError_checked _).bind fun b => NoTreeError.pure _

theorem noTreeError_kind (t : Text) : NoTreeError (kind t o ty) := by
  refine NoTreeError.map ?_ _
  unfold cells Reading.kind
  dsimp only
  split
  all_goals
    repeat' first
      | with_reducible apply (noTreeError_child ..).bind; intro _
      | with_reducible apply (noTreeError_nodes ..).bind; intro _
      | with_reducible apply (noTreeError_optional ..).bind; intro _
      | with_reducible apply (noTreeError_holes ..).bind; intro _
      | with_reducible apply (noTreeError_text ..).bind; intro _
      | with_reducible apply (noTreeError_sharedPair ..).bind; intro _
      | with_reducible apply (noTreeError_functionShape ..).bind; intro _
      | with_reducible apply (noTreeError_classShape ..).bind; intro _
      | with_reducible apply (noTreeError_key ..).bind; intro _
      | with_reducible apply (NoTreeError.mapM noTreeError_checked _).bind; intro _
      | with_reducible apply NoTreeError.pure

theorem noTreeError_nodeSpan (t : Text) : NoTreeError (nodeSpan t o) := by
  intro cause h
  unfold nodeSpan span at h
  split at h
  · cases h
  · split at h <;> cases h

end Document

namespace Loader

variable (t : Text)

theorem noTreeError_loadChildren {docs : List Json}
    (hdocs : ∀ doc ∈ docs, ∀ arena, NoTreeError (loadNode t arena doc)) (arena : Array Node) :
    NoTreeError (loadChildren t arena docs) := by
  induction docs with
  | nil =>
    rw [loadChildren]
    exact NoTreeError.pure _
  | cons doc docs ih =>
    rw [List.forall_mem_cons] at hdocs
    rw [loadChildren]
    refine (ih hdocs.2).bind fun loaded => ?_
    exact (hdocs.1 loaded.1).bind fun last => NoTreeError.pure _

theorem noTreeError_loadNode (arena : Array Node) (doc : Json) :
    NoTreeError (loadNode t arena doc) := by
  induction hcount : doc.count using Nat.strongRecOn generalizing arena doc with
  | _ n ih =>
    cases doc with
    | obj o =>
      rw [loadNode_obj]
      refine (Document.noTreeError_nodeSpan o t).bind fun span => ?_
      intro cause h
      rcases bind_eq_error.1 h with h | ⟨kind, hkind, h⟩
      · exact Document.noTreeError_kind o _ t cause h
      · have hsmaller (doc : Json) (hdoc : doc ∈ kind.inReadingOrder) (arena : Array Node) :
            NoTreeError (loadNode t arena doc) :=
          ih doc.count (hcount ▸ count_lt_of_mem hkind hdoc) arena doc rfl
        have hchildren := noTreeError_loadChildren t hsmaller arena
        exact hchildren.bind (fun loaded => NoTreeError.pure _) cause h
    | _ =>
      intro cause h
      simp [loadNode] at h

theorem noTreeError_loadProgram (doc : Json) : NoTreeError (loadProgram t doc) := by
  cases doc with
  | obj o =>
    by_cases hty : Document.typeOf o = "Program"
    · rw [loadProgram_obj hty]
      exact (noTreeError_loadNode t #[] (.obj o)).map _
    · intro cause h
      simp [loadProgram, hty] at h
  | _ =>
    intro cause h
    cases h

end Loader

theorem foldlM_eq_error {ε : Type} {f : β → α → Except ε β} {l : List α} {b : β} {e : ε}
    (h : l.foldlM f b = .error e) :
    ∃ (l₁ : List α) (a : α) (l₂ : List α) (b' : β),
      l = l₁ ++ a :: l₂ ∧ l₁.foldlM f b = .ok b' ∧ f b' a = .error e := by
  induction l generalizing b with
  | nil => cases h
  | cons a l ih =>
    rw [List.foldlM_cons] at h
    cases hb : f b a with
    | error e' =>
      rw [hb] at h
      cases h
      exact ⟨[], a, l, b, rfl, rfl, hb⟩
    | ok b' =>
      rw [hb] at h
      obtain ⟨l₁, a', l₂, b'', rfl, hok, herror⟩ := ih h
      refine ⟨a :: l₁, a', l₂, b'', rfl, ?_, herror⟩
      rw [List.foldlM_cons, hb]
      exact hok

theorem before_of_range_eq {n k : Nat} {before after : List Nat}
    (h : List.range n = before ++ k :: after) : before = List.range k ∧ k < n := by
  rw [List.range_eq_range', List.range'_eq_append_iff] at h
  obtain ⟨m, hm, rfl, hafter⟩ := h
  obtain ⟨rfl, hpos, -⟩ := List.range'_eq_cons_iff.1 hafter.symm
  rw [Nat.zero_add, Nat.mul_one, List.range_eq_range']
  exact ⟨rfl, by omega⟩

namespace Tree

variable {nodes : Array Node}

theorem eq_of_mem_sortedIn (h : Loader.Numbered nodes) {p q child : Nat}
    (hp : child ∈ sortedIn nodes p) (hq : child ∈ sortedIn nodes q) : p = q := by
  obtain ⟨a, ha, hp⟩ := (mem_sortedIn h).1 hp
  obtain ⟨b, hb, hq⟩ := (mem_sortedIn h).1 hq
  obtain ⟨hp', rfl⟩ := Array.getElem?_eq_some_iff.1 ha
  obtain ⟨hq', rfl⟩ := Array.getElem?_eq_some_iff.1 hb
  have hapart := (List.pairwise_flatMap.1 (List.nodup_append.1 h.nodup_named).1).2
  rw [List.pairwise_iff_getElem] at hapart
  rcases Nat.lt_trichotomy p q with hlt | heq | hlt
  · exact absurd rfl (hapart p q (by simpa using hp') (by simpa using hq') hlt _ (by simpa using hp)
      _ (by simpa using hq))
  · exact heq
  · exact absurd rfl (hapart q p (by simpa using hq') (by simpa using hp') hlt _ (by simpa using hq)
      _ (by simpa using hp))

theorem linkChild_eq_error {parents : Array (Option NodeId)} {parent child : NodeId} {e : TreeError}
    (h : linkChild nodes parent parents child = .error e) (hlt : child < nodes.size)
    (hfree : ∀ other, parents[child]? = some (some other) → other = parent) :
    ∃ p c ps cs, e = .childOutsideParent p c ps cs := by
  unfold linkChild at h
  rw [Array.getElem?_eq_getElem hlt] at h
  dsimp only at h
  rw [if_neg] at h
  · split at h
    · cases h
    · cases h
      exact ⟨_, _, _, _, rfl⟩
  · split
    · rename_i other hother
      simp [hfree other hother]
    · simp

def SpanError (e : TreeError) : Prop :=
  (∃ p c ps cs, e = .childOutsideParent p c ps cs) ∨ ∃ a b s, e = .overlappingSiblings a b s

theorem linkNode_eq_error (hnodes : Loader.Numbered nodes) {links : Links} {id : Nat}
    (hid : id < nodes.size) (hlinks : LinkedUpTo nodes id links) {e : TreeError}
    (h : linkNode nodes links id = .error e) : SpanError e := by
  unfold linkNode at h
  rcases bind_eq_error.1 h with h | ⟨parents, -, h⟩
  · left
    -- Of the children before this one it is known what was entered, so this one has no other parent.
    obtain ⟨done, child, rest, parents, hids, hdone, hchild⟩ := foldlM_eq_error h
    obtain ⟨-, -, hiff⟩ := foldlM_linkChild_eq_ok hdone hlinks.size_parents
    have hmem : child ∈ sortedIn nodes id := by
      rw [sortedIn, hids]
      simp
    refine linkChild_eq_error hchild ?_ ?_
    · obtain ⟨node, hnode, hin⟩ := (mem_sortedIn hnodes).1 hmem
      exact Nat.lt_trans (hnodes.below id node hnode child hin) hid
    · intro other hother
      rcases (hiff child other).1 hother with hold | ⟨rfl, -⟩
      · exact eq_of_mem_sortedIn hnodes ((hlinks.parents child other).1 hold).2 hmem
      · rfl
  · split at h
    · cases h
      exact .inr ⟨_, _, _, rfl⟩
    · cases h

theorem ofNodes_eq_error (hnodes : Loader.Numbered nodes) {root : NodeId} {e : TreeError}
    (h : ofNodes nodes root = .error e) : SpanError e := by
  unfold ofNodes at h
  rcases bind_eq_error.1 h with h | ⟨links, -, h⟩
  · obtain ⟨before, id, after, links, hrange, hlinks, hnode⟩ := foldlM_eq_error h
    obtain ⟨rfl, hid⟩ := before_of_range_eq hrange
    exact linkNode_eq_error hnodes hid (linkedUpTo_foldlM hlinks) hnode
  · cases h

end Tree

theorem Source.treeError_of_ofDocument {path : String} {text : Text} {doc : Json} {e : TreeError}
    (h : ofDocument path text doc = .error (.tree e)) : Tree.SpanError e := by
  unfold ofDocument at h
  rcases bind_eq_error.1 h with h | ⟨⟨nodes, root⟩, hload, h⟩
  · exact absurd h (Loader.noTreeError_loadProgram text doc e)
  · dsimp only at h
    split at h
    · rename_i htree
      cases h
      obtain ⟨-, -, -, -, hnodes⟩ := Loader.loadProgram_eq_ok hload
      exact Tree.ofNodes_eq_error (Loader.numbered_of_loadNode hnodes) htree
    · cases h

end ScriptLint
