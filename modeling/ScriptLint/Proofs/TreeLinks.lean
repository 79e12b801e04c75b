import Mathlib
import ScriptLint.Syntax.Source

/-! How the links of a tree follow from its nodes: the children of a node are the numbers in its
kind, sorted, and a parent is entered exactly for these. -/
namespace ScriptLint

theorem bind_eq_ok {ε α β : Type} {x : Except ε α} {f : α → Except ε β} {b : β} :
    x >>= f = .ok b ↔ ∃ a, x = .ok a ∧ f a = .ok b := by
  cases x <;> simp [bind, Except.bind]

theorem bind_eq_error {ε α β : Type} {x : Except ε α} {f : α → Except ε β} {e : ε} :
    x >>= f = .error e ↔ x = .error e ∨ ∃ a, x = .ok a ∧ f a = .error e := by
  cases x <;> simp [bind, Except.bind]

theorem toOption_eq_some {ε α : Type} {x : Except ε α} {a : α} :
    x.toOption = some a ↔ x = .ok a := by
  cases x <;> simp [Except.toOption]

theorem map_eq_error {ε α β : Type} {x : Except ε α} {f : α → β} {e : ε} :
    f <$> x = .error e ↔ x = .error e := by
  cases x <;> simp [Functor.map, Except.map]

theorem map_eq_ok {ε α β : Type} {x : Except ε α} {f : α → β} {b : β} :
    f <$> x = .ok b ↔ ∃ a, x = .ok a ∧ f a = b := by
  cases x <;> simp [Functor.map, Except.map]

namespace Tree

theorem mem_dedupNeighbours {id : NodeId} {ids : List NodeId} :
    id ∈ dedupNeighbours ids ↔ id ∈ ids := by
  fun_induction dedupNeighbours ids with
  | case1 b ids ih =>
    rw [ih]
    simp
  | case2 a b ids hne ih =>
    rw [List.mem_cons, ih, ← List.mem_cons]
  | case3 ids hshort => rfl

/-- Where different numbers have different keys, a sorted list ascends once repetitions are
dropped. -/
theorem pairwise_dedupNeighbours (key : NodeId → Nat) {ids : List NodeId}
    (hle : ids.Pairwise fun a b => key a ≤ key b)
    (hne : ∀ a ∈ ids, ∀ b ∈ ids, a ≠ b → key a ≠ key b) :
    (dedupNeighbours ids).Pairwise fun a b => key a < key b := by
  fun_induction dedupNeighbours ids with
  | case1 b ids ih =>
    exact ih hle.tail fun a ha b hb => hne a (List.mem_cons_of_mem _ ha) b (List.mem_cons_of_mem _ hb)
  | case2 a b ids hab ih =>
    have htail := ih hle.tail
      fun a ha b hb => hne a (List.mem_cons_of_mem _ ha) b (List.mem_cons_of_mem _ hb)
    refine List.pairwise_cons.2 ⟨fun c hc => ?_, htail⟩
    rw [mem_dedupNeighbours] at hc
    have hlt : key a < key b :=
      Nat.lt_of_le_of_ne (List.rel_of_pairwise_cons hle List.mem_cons_self)
        (hne a List.mem_cons_self b (by simp) hab)
    rcases List.mem_cons.1 hc with rfl | hc
    · exact hlt
    · exact Nat.lt_of_lt_of_le hlt (List.rel_of_pairwise_cons hle.tail hc)
  | case3 ids hshort =>
    match ids, hshort with
    | [], _ => exact .nil
    | [a], _ => exact List.pairwise_singleton _ a
    | a :: b :: ids, hshort => exact absurd rfl (hshort a b ids)

variable {nodes : Array Node} {parents parents' : Array (Option NodeId)}

abbrev spanIn (nodes : Array Node) (id : NodeId) : Span := (nodes[id]?.getD Node.missing).span

theorem linkChild_eq_ok {parent child : NodeId}
    (h : linkChild nodes parent parents child = .ok parents') :
    child < nodes.size ∧ (∀ other, parents[child]? = some (some other) → other = parent) ∧
      (spanIn nodes parent).contains (spanIn nodes child) = true ∧
      parents' = parents.setIfInBounds child (some parent) := by
  unfold linkChild at h
  split at h
  · simp at h
  · rename_i node hnode
    have hlt : child < nodes.size := by
      refine Nat.lt_of_not_le fun hle => ?_
      rw [Array.getElem?_eq_none hle] at hnode
      simp at hnode
    have hfree (other : NodeId) (hother : parents[child]? = some (some other)) :
        other = parent := by
      by_contra hne
      simp [hother, hne] at h
    refine ⟨hlt, hfree, ?_⟩
    dsimp only at h
    rw [if_neg] at h
    · split at h
      · rename_i hinside
        cases h
        exact ⟨by simpa [spanIn, hnode] using hinside, rfl⟩
      · simp at h
    · split
      · rename_i other hother
        simp [hfree other hother]
      · simp

theorem foldlM_linkChild_eq_ok {parent : NodeId} {ids : List NodeId}
    (h : ids.foldlM (linkChild nodes parent) parents = .ok parents')
    (hsize : parents.size = nodes.size) :
    parents'.size = nodes.size ∧
      (∀ child ∈ ids, child < nodes.size ∧
        (spanIn nodes parent).contains (spanIn nodes child) = true) ∧
      ∀ child p : Nat, parents'[child]? = some (some p) ↔
        parents[child]? = some (some p) ∨ p = parent ∧ child ∈ ids := by
  induction ids generalizing parents with
  | nil =>
    cases h
    simp [hsize]
  | cons id ids ih =>
    rw [List.foldlM_cons] at h
    obtain ⟨mid, hmid, h⟩ := bind_eq_ok.1 h
    obtain ⟨hlt, hfree, hinside, rfl⟩ := linkChild_eq_ok hmid
    obtain ⟨hsize', hall, hparents⟩ := ih h (by simpa using hsize)
    refine ⟨hsize', ?_, ?_⟩
    · intro child hchild
      rcases List.mem_cons.1 hchild with rfl | hchild
      · exact ⟨hlt, hinside⟩
      · exact hall child hchild
    · intro child p
      rw [hparents child p, Array.getElem?_setIfInBounds]
      by_cases heq : id = child
      · subst heq
        have hin : id < parents.size := hsize ▸ hlt
        simp only [↓reduceIte, hin, List.mem_cons, true_or, and_true, Option.some.injEq]
        constructor
        · rintro (rfl | ⟨rfl, -⟩) <;> exact .inr rfl
        · rintro (hold | rfl)
          · exact .inl (hfree p hold).symm
          · exact .inl rfl
      · simp only [if_neg heq, List.mem_cons, Ne.symm heq, false_or]

abbrev sortedIn (nodes : Array Node) (id : NodeId) : List NodeId :=
  sortedChildren nodes (nodes[id]?.getD Node.missing).kind

structure LinkedUpTo (nodes : Array Node) (count : Nat) (links : Links) : Prop where
  size_children : links.children.size = count
  children : ∀ id : Nat, id < count → links.children[id]? = some (sortedIn nodes id)
  size_parents : links.parents.size = nodes.size
  parents : ∀ child p : Nat, links.parents[child]? = some (some p) ↔
    p < count ∧ child ∈ sortedIn nodes p
  inside : ∀ id : Nat, id < count → ∀ child ∈ sortedIn nodes id,
    child < nodes.size ∧ (spanIn nodes id).contains (spanIn nodes child) = true
  apart : ∀ id : Nat, id < count → firstOverlap nodes (sortedIn nodes id) = none

theorem LinkedUpTo.step {count : Nat} {links links' : Links} (hl : LinkedUpTo nodes count links)
    (h : linkNode nodes links count = .ok links') : LinkedUpTo nodes (count + 1) links' := by
  unfold linkNode at h
  obtain ⟨parents, hparents, h⟩ := bind_eq_ok.1 h
  split at h
  · simp at h
  · rename_i happart
    cases h
    obtain ⟨hsize, hinside, hiff⟩ := foldlM_linkChild_eq_ok hparents hl.size_parents
    refine ⟨by simp [hl.size_children], ?_, hsize, ?_, ?_, ?_⟩
    · intro id hid
      rw [Array.getElem?_push, hl.size_children]
      split
      · rename_i heq
        rw [heq]
      · exact hl.children id (by omega)
    · intro child p
      rw [hiff, hl.parents]
      constructor
      · rintro (⟨hp, hmem⟩ | ⟨rfl, hmem⟩)
        · exact ⟨by omega, hmem⟩
        · exact ⟨by omega, hmem⟩
      · rintro ⟨hp, hmem⟩
        rcases Nat.lt_succ_iff_lt_or_eq.1 hp with hp | rfl
        · exact .inl ⟨hp, hmem⟩
        · exact .inr ⟨rfl, hmem⟩
    · intro id hid
      rcases Nat.lt_succ_iff_lt_or_eq.1 hid with hid | rfl
      · exact hl.inside id hid
      · exact hinside
    · intro id hid
      rcases Nat.lt_succ_iff_lt_or_eq.1 hid with hid | rfl
      · exact hl.apart id hid
      · exact happart

theorem linkedUpTo_foldlM {count : Nat} {links : Links}
    (h : (List.range count).foldlM (linkNode nodes) ⟨#[], Array.replicate nodes.size none⟩ =
      .ok links) : LinkedUpTo nodes count links := by
  induction count generalizing links with
  | zero =>
    cases h
    refine ⟨rfl, by simp, by simp, ?_, by simp, by simp⟩
    intro child p
    simp [Array.getElem?_replicate]
  | succ count ih =>
    rw [List.range_succ, List.foldlM_append] at h
    obtain ⟨mid, hmid, h⟩ := bind_eq_ok.1 h
    rw [List.foldlM_cons] at h
    obtain ⟨last, hlast, h⟩ := bind_eq_ok.1 h
    cases h
    exact (ih hmid).step hlast

theorem ofNodes_eq_ok {root : NodeId} {t : Tree} (h : ofNodes nodes root = .ok t) :
    ∃ links, LinkedUpTo nodes nodes.size links ∧ t = ⟨nodes, links.children, links.parents, root⟩ := by
  unfold ofNodes at h
  obtain ⟨links, hlinks, h⟩ := bind_eq_ok.1 h
  cases h
  exact ⟨links, linkedUpTo_foldlM hlinks, rfl⟩

end Tree

namespace Source

theorem load_eq_ofDocument {path : String} {text document : Text} {doc : Json}
    (h : Json.parse? document = some doc) :
    load path text document = ofDocument path text doc := by
  simp only [load, h]

theorem exists_ofDocument_of_load {path : String} {text document : Text} {s : Source}
    (h : load path text document = .ok s) :
    ∃ doc, Json.parse? document = some doc ∧ ofDocument path text doc = .ok s := by
  unfold load at h
  split at h
  · cases h
  · rename_i doc hdoc
    exact ⟨doc, hdoc, h⟩

end Source

end ScriptLint
