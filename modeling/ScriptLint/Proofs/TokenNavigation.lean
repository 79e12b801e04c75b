import Mathlib
import ScriptLint.Syntax.Source

/-! Navigation between tokens. Where tokens are apart, binary search finds what a scan would find:
the last token before an offset, the first one after it, and those inside a span. -/
namespace ScriptLint

/-- A property of the indices below `n` that stops to hold somewhere, and then holds no more. -/
def StopsOnce (p : Nat → Bool) (n : Nat) : Prop := ∀ i j, i ≤ j → j < n → p j = true → p i = true

/-- The search ends at its first index or at one with the property, and behind it there is none. -/
theorem narrowDown_cases (p : Nat → Bool) (base size : Nat) (hsize : 0 < size)
    (h : StopsOnce p (base + size)) :
    base ≤ narrowDown p base size ∧ narrowDown p base size < base + size ∧
      (narrowDown p base size = base ∨ p (narrowDown p base size) = true) ∧
      ∀ j, narrowDown p base size < j → j < base + size → p j = false := by
  fun_induction narrowDown p base size with
  | case1 base size hsmall =>
    refine ⟨Nat.le_refl _, by omega, .inl rfl, ?_⟩
    intro j hj hj'
    omega
  | case2 base size hlarge half ih =>
    have hhalf : half = size / 2 := rfl
    split at ih
    · rename_i hp
      have hsum : base + half + (size - half) = base + size := by omega
      rw [hsum] at ih
      obtain ⟨hle, hlt, hend, hafter⟩ := ih (by omega) h
      refine ⟨by rw [if_pos hp]; omega, by rw [if_pos hp]; exact hlt, .inr ?_, ?_⟩
      · rw [if_pos hp]
        rcases hend with heq | hend
        · rw [heq]
          exact hp
        · exact hend
      · rw [if_pos hp]
        exact hafter
    · rename_i hp
      have hpart : StopsOnce p (base + (size - half)) := by
        intro i j hij hj
        exact h i j hij (by omega)
      obtain ⟨hle, hlt, hend, hafter⟩ := ih (by omega) hpart
      rw [if_neg hp]
      refine ⟨hle, by omega, hend, ?_⟩
      intro j hj hj'
      by_cases hin : j < base + (size - half)
      · exact hafter j hj hin
      · -- The half that was left out begins with an index without the property.
        by_contra hpj
        exact hp (h (base + half) j (by omega) hj' (by simpa using hpj))

theorem lt_partitionPoint_iff {p : Nat → Bool} {n : Nat} (h : StopsOnce p n) {i : Nat} (hi : i < n) :
    i < partitionPoint p n ↔ p i = true := by
  unfold partitionPoint
  rw [if_neg (by omega)]
  have hstops : StopsOnce p (0 + n) := by rwa [Nat.zero_add]
  obtain ⟨-, hlt, hend, hafter⟩ := narrowDown_cases p 0 n (by omega) hstops
  rw [Nat.zero_add] at hlt hafter
  dsimp only
  split
  · rename_i hp
    constructor
    · intro hle
      exact h i _ (by omega) hlt hp
    · intro hpi
      by_contra hge
      rw [hafter i (by omega) hi] at hpi
      simp at hpi
  · rename_i hp
    have hzero : narrowDown p 0 n = 0 := by
      rcases hend with hend | hend
      · exact hend
      · exact absurd hend hp
    constructor
    · intro hlt
      omega
    · intro hpi
      by_contra hge
      have : p i = false := by
        by_cases hi0 : i = 0
        · rw [hi0, ← hzero]
          simpa using hp
        · exact hafter i (by omega) hi
      rw [this] at hpi
      simp at hpi

theorem partitionPoint_le {p : Nat → Bool} {n : Nat} (h : StopsOnce p n) : partitionPoint p n ≤ n := by
  unfold partitionPoint
  split
  · omega
  · have hstops : StopsOnce p (0 + n) := by rwa [Nat.zero_add]
    obtain ⟨-, hlt, -, -⟩ := narrowDown_cases p 0 n (by omega) hstops
    dsimp only
    split <;> omega

/-- Even where a property comes and goes, the search ends right behind an index that has it. -/
theorem narrowDown_eq_or (p : Nat → Bool) (base size : Nat) :
    narrowDown p base size = base ∨ p (narrowDown p base size) = true := by
  fun_induction narrowDown p base size with
  | case1 base size hsmall => exact .inl rfl
  | case2 base size hlarge half ih =>
    split at ih
    · rename_i hp
      rw [if_pos hp]
      rcases ih with heq | htrue
      · rw [heq]
        exact .inr hp
      · exact .inr htrue
    · rename_i hp
      rwa [if_neg hp]

theorem eq_true_of_partitionPoint {p : Nat → Bool} {n k : Nat} (h : partitionPoint p n = k + 1) :
    p k = true := by
  unfold partitionPoint at h
  split at h
  · cases h
  dsimp only at h
  split at h
  · rename_i hp
    rwa [Nat.succ.inj h] at hp
  · rename_i hp
    rcases narrowDown_eq_or p 0 n with hzero | htrue
    · rw [hzero] at h
      cases h
    · exact absurd htrue hp

namespace Loader

variable {text : Text} {t : Token}

theorem token?_eq_some {kindOf : String → TokenKind} {doc : Json}
    (h : token? text kindOf doc = some t) :
    (∃ a b, text.spanOfUnits? a b = some t.span) ∧
      text.slice? t.span.start t.span.stop = some t.text := by
  unfold token? at h
  split at h
  · split at h
    · simp only [Option.bind_eq_bind, Option.bind_eq_some_iff] at h
      obtain ⟨a, -, b, -, span, hspan, u, hslice, heq⟩ := h
      cases heq
      exact ⟨⟨a, b, hspan⟩, hslice⟩
    · cases h
  · cases h

theorem exists_token?_of_mem {doc : Json}
    (h : t ∈ (TokenIndex.ofList (tokens text doc)).all) :
    ∃ kindOf doc', token? text kindOf doc' = some t := by
  have h' : t ∈ tokens text doc := by simpa [TokenIndex.ofList] using h
  simp only [tokens, List.mem_append, List.mem_filterMap] at h'
  obtain ⟨doc', -, htoken⟩ | ⟨doc', -, htoken⟩ := h'
  · exact ⟨codeKind, doc', htoken⟩
  · exact ⟨commentKind, doc', htoken⟩

end Loader

theorem Token.pairwise_mergeSort (tokens : List Token) :
    (tokens.mergeSort Token.le).Pairwise fun a b => Token.le a b = true := by
  refine List.pairwise_mergeSort ?_ ?_ tokens
  · intro a b c hab hbc
    simp only [Token.le, Bool.or_eq_true, Bool.and_eq_true, decide_eq_true_eq,
      beq_iff_eq] at hab hbc ⊢
    omega
  · intro a b
    simp only [Token.le, Bool.or_eq_true, Bool.and_eq_true, decide_eq_true_eq, beq_iff_eq]
    omega

namespace TokenIndex

structure Apart (ix : TokenIndex) : Prop where
  nonempty : ∀ t ∈ ix.all, t.span.start < t.span.stop
  apart : ix.all.toList.Pairwise fun a b =>
    a.span.stop ≤ b.span.start ∨ b.span.stop ≤ a.span.start

structure Sequential (ix : TokenIndex) : Prop where
  le : ∀ t ∈ ix.all, t.span.start ≤ t.span.stop
  ordered : ix.all.toList.Pairwise fun a b => a.span.stop ≤ b.span.start
  code_eq : ix.code.toList = ix.all.toList.filter fun t => !t.isComment

theorem sequential_ofList {tokens : List Token}
    (hle : ∀ t ∈ (ofList tokens).all, t.span.start ≤ t.span.stop)
    (hapart : (ofList tokens).all.toList.Pairwise fun a b =>
      a.span.stop ≤ b.span.start ∨ b.span.stop ≤ a.span.start) :
    (ofList tokens).Sequential := by
  refine ⟨hle, ?_, by simp [ofList]⟩
  refine ((Token.pairwise_mergeSort tokens).and hapart).imp_of_mem ?_
  intro a b ha hb hab
  have hb' := hle b (Array.mem_toList_iff.1 hb)
  obtain ⟨hab, hapart⟩ := hab
  simp only [Token.le, Bool.or_eq_true, Bool.and_eq_true, decide_eq_true_eq, beq_iff_eq] at hab
  omega

structure Ordered (ix : TokenIndex) : Prop where
  nonempty : ∀ t ∈ ix.all, t.span.start < t.span.stop
  ordered : ix.all.toList.Pairwise fun a b => a.span.stop ≤ b.span.start
  code_eq : ix.code.toList = ix.all.toList.filter fun t => !t.isComment

theorem Ordered.sequential {ix : TokenIndex} (h : ix.Ordered) : ix.Sequential :=
  ⟨fun t ht => Nat.le_of_lt (h.nonempty t ht), h.ordered, h.code_eq⟩

instance {ix : TokenIndex} : Coe ix.Ordered ix.Sequential := ⟨Ordered.sequential⟩

theorem ordered_ofList {tokens : List Token} (h : (ofList tokens).Apart) :
    (ofList tokens).Ordered := by
  have hsequential := sequential_ofList (fun t ht => Nat.le_of_lt (h.nonempty t ht)) h.apart
  exact ⟨h.nonempty, hsequential.ordered, hsequential.code_eq⟩

variable {ix : TokenIndex}

theorem mem_select (h : ix.Sequential) {comments : Bool} {t : Token} :
    t ∈ ix.select comments ↔ t ∈ ix.all ∧ (comments = true ∨ t.isComment = false) := by
  cases comments with
  | true => simp [select]
  | false =>
    have hcode : t ∈ ix.code ↔ t ∈ ix.all.toList.filter fun t => !t.isComment := by
      rw [← h.code_eq, Array.mem_toList_iff]
    simp [select, hcode]

theorem Sequential.select (h : ix.Sequential) (comments : Bool) :
    (ix.select comments).toList.Pairwise fun a b => a.span.stop ≤ b.span.start := by
  cases comments with
  | true => exact h.ordered
  | false =>
    rw [TokenIndex.select, if_neg (by simp), h.code_eq]
    exact h.ordered.filter _

theorem lt_of_getElem? {ts : Array Token}
    (h : ts.toList.Pairwise fun a b => a.span.stop ≤ b.span.start) {i j : Nat} {a b : Token}
    (ha : ts[i]? = some a) (hb : ts[j]? = some b) (hij : i < j) : a.span.stop ≤ b.span.start := by
  obtain ⟨hi, rfl⟩ := Array.getElem?_eq_some_iff.1 ha
  obtain ⟨hj, rfl⟩ := Array.getElem?_eq_some_iff.1 hb
  exact List.pairwise_iff_getElem.1 h i j (by simpa using hi) (by simpa using hj) hij

def Leads (ts : Array Token) (p : Token → Bool) : Prop :=
  ∀ (i j : Nat) (a b : Token), ts[i]? = some a → ts[j]? = some b → i < j → p b = true → p a = true

theorem Leads.stopsOnce {ts : Array Token} {p : Token → Bool} (h : Leads ts p) :
    StopsOnce (fun i => ts[i]?.any p) ts.size := by
  intro i j hij hj hp
  rcases Nat.lt_or_eq_of_le hij with hlt | rfl
  · dsimp only at hp ⊢
    rw [Array.getElem?_eq_getElem hj] at hp
    have hi : ts[i]? = some ts[i] := Array.getElem?_eq_getElem (by omega)
    rw [hi]
    exact h i j _ _ hi (Array.getElem?_eq_getElem hj) hlt hp
  · exact hp

theorem Leads.lt_countWhile_iff {ts : Array Token} {p : Token → Bool} (h : Leads ts p) {i : Nat}
    {t : Token} (ht : ts[i]? = some t) : i < countWhile ts p ↔ p t = true := by
  have hi := (Array.getElem?_eq_some_iff.1 ht).1
  rw [countWhile, lt_partitionPoint_iff h.stopsOnce hi, ht, Option.any_some]

theorem Leads.countWhile_le {ts : Array Token} {p : Token → Bool} (h : Leads ts p) :
    countWhile ts p ≤ ts.size :=
  partitionPoint_le h.stopsOnce

theorem Sequential.leads_stop (h : ix.Sequential) (comments : Bool) (offset : Nat) :
    Leads (ix.select comments) fun t => t.span.stop ≤ offset := by
  intro i j a b ha hb hij hp
  have hle := lt_of_getElem? (h.select comments) ha hb hij
  have hb' := h.le b ((mem_select h).1 (Array.mem_of_getElem? hb)).1
  simp only [decide_eq_true_eq] at hp ⊢
  omega

theorem Sequential.leads_start (h : ix.Sequential) (comments : Bool) (offset : Nat) :
    Leads (ix.select comments) fun t => t.span.start < offset := by
  intro i j a b ha hb hij hp
  have hle := lt_of_getElem? (h.select comments) ha hb hij
  have ha' := h.le a ((mem_select h).1 (Array.mem_of_getElem? ha)).1
  simp only [decide_eq_true_eq] at hp ⊢
  omega

theorem Ordered.eq_or_apart (h : ix.Ordered) {t u : Token} (ht : t ∈ ix.all) (hu : u ∈ ix.all) :
    t = u ∨ t.span.stop ≤ u.span.start ∨ u.span.stop ≤ t.span.start := by
  obtain ⟨i, hi⟩ := Array.getElem?_of_mem ht
  obtain ⟨j, hj⟩ := Array.getElem?_of_mem hu
  rcases Nat.lt_trichotomy i j with hij | rfl | hij
  · exact .inr (.inl (lt_of_getElem? h.ordered hi hj hij))
  · rw [hi, Option.some.injEq] at hj
    exact .inl hj
  · exact .inr (.inr (lt_of_getElem? h.ordered hj hi hij))

theorem before?_eq_some (h : ix.Sequential) {offset : Nat} {comments : Bool} {t : Token}
    (ht : ix.before? offset comments = some t) :
    t ∈ ix.select comments ∧ t.span.stop ≤ offset ∧
      ∀ u ∈ ix.select comments, u.span.stop ≤ offset → u = t ∨ u.span.stop ≤ t.span.start := by
  unfold before? at ht
  dsimp only at ht
  split at ht
  · simp at ht
  · rename_i n hn
    have hstop := (h.leads_stop comments offset).lt_countWhile_iff ht
    rw [hn, decide_eq_true_eq] at hstop
    refine ⟨Array.mem_of_getElem? ht, hstop.1 (Nat.lt_succ_self n), ?_⟩
    intro u hu hu'
    obtain ⟨j, hj⟩ := Array.getElem?_of_mem hu
    have hlt := (h.leads_stop comments offset).lt_countWhile_iff hj
    rw [hn, decide_eq_true_eq] at hlt
    rcases Nat.lt_or_eq_of_le (Nat.le_of_lt_succ (hlt.2 hu')) with hjn | rfl
    · exact .inr (lt_of_getElem? (h.select comments) hj ht hjn)
    · rw [ht, Option.some.injEq] at hj
      exact .inl hj.symm

theorem exists_before? (h : ix.Sequential) {offset : Nat} {comments : Bool} {u : Token}
    (hu : u ∈ ix.select comments) (hstop : u.span.stop ≤ offset) :
    ∃ t, ix.before? offset comments = some t := by
  obtain ⟨j, hj⟩ := Array.getElem?_of_mem hu
  have hlt := ((h.leads_stop comments offset).lt_countWhile_iff hj).2 (by simpa using hstop)
  have hle := (h.leads_stop comments offset).countWhile_le
  unfold before?
  dsimp only
  split
  · omega
  · rename_i n hn
    exact ⟨_, Array.getElem?_eq_getElem (by omega)⟩

theorem after?_eq_some (h : ix.Sequential) {offset : Nat} {comments : Bool} {t : Token}
    (ht : ix.after? offset comments = some t) :
    t ∈ ix.select comments ∧ offset ≤ t.span.start ∧
      ∀ u ∈ ix.select comments, offset ≤ u.span.start → u = t ∨ t.span.stop ≤ u.span.start := by
  unfold after? at ht
  dsimp only at ht
  have hstart := (h.leads_start comments offset).lt_countWhile_iff ht
  rw [decide_eq_true_eq] at hstart
  refine ⟨Array.mem_of_getElem? ht, by omega, ?_⟩
  intro u hu hu'
  obtain ⟨j, hj⟩ := Array.getElem?_of_mem hu
  have hlt := (h.leads_start comments offset).lt_countWhile_iff hj
  rw [decide_eq_true_eq] at hlt
  rcases Nat.lt_trichotomy j (countWhile (ix.select comments) fun t => t.span.start < offset)
    with hjn | rfl | hjn
  · omega
  · rw [ht, Option.some.injEq] at hj
    exact .inl hj.symm
  · exact .inr (lt_of_getElem? (h.select comments) ht hj hjn)

theorem after?_eq_none (h : ix.Sequential) {offset : Nat} {comments : Bool}
    (hnone : ix.after? offset comments = none) {u : Token} (hu : u ∈ ix.select comments) :
    u.span.start < offset := by
  obtain ⟨j, hj⟩ := Array.getElem?_of_mem hu
  have hlt := (h.leads_start comments offset).lt_countWhile_iff hj
  have hsize := (Array.getElem?_eq_some_iff.1 hj).1
  have hend := Array.getElem?_eq_none_iff.1 hnone
  rw [decide_eq_true_eq] at hlt
  exact hlt.1 (by omega)

theorem mem_within (h : ix.Sequential) {span : Span} {t : Token} :
    t ∈ ix.within span ↔
      t ∈ ix.all ∧ span.start ≤ t.span.start ∧ t.span.stop ≤ span.stop := by
  have hfirst {i : Nat} (ht : ix.all[i]? = some t) :=
    (h.leads_start true span.start).lt_countWhile_iff ht
  have hlast {i : Nat} (ht : ix.all[i]? = some t) :=
    (h.leads_stop true span.stop).lt_countWhile_iff ht
  simp only [select, if_pos, decide_eq_true_eq] at hfirst hlast
  unfold within
  dsimp only
  rw [List.mem_iff_getElem?]
  constructor
  · rintro ⟨i, hi⟩
    rw [List.getElem?_drop, List.getElem?_take] at hi
    split at hi
    · rename_i hlt
      rw [Array.getElem?_toList] at hi
      have h1 := hfirst hi
      have h2 := hlast hi
      exact ⟨Array.mem_of_getElem? hi, by omega, by omega⟩
    · simp at hi
  · rintro ⟨ht, hstart, hstop⟩
    obtain ⟨i, hi⟩ := Array.getElem?_of_mem ht
    have h1 := hfirst hi
    have h2 := hlast hi
    refine ⟨i - countWhile ix.all fun t => t.span.start < span.start, ?_⟩
    rw [List.getElem?_drop, List.getElem?_take, if_pos (by omega), Array.getElem?_toList]
    rw [← hi]
    congr 1
    omega

/-! Tokens that may overlap. -/

theorem getElem?_of_countWhile {ts : Array Token} {p : Token → Bool} {k : Nat}
    (h : countWhile ts p = k + 1) : ∃ t, ts[k]? = some t ∧ p t = true :=
  (Option.any_eq_true _ _).1 (eq_true_of_partitionPoint h)

theorem mem_select_of_before? {offset : Nat} {comments : Bool} {t : Token}
    (h : ix.before? offset comments = some t) : t ∈ ix.select comments := by
  unfold before? at h
  dsimp only at h
  split at h
  · cases h
  · exact Array.mem_of_getElem? h

theorem sublist_select (hcode : ix.code.toList = ix.all.toList.filter fun t => !t.isComment)
    (comments : Bool) : (ix.select comments).toList.Sublist ix.all.toList := by
  cases comments with
  | true => exact .refl _
  | false =>
    rw [select, if_neg (by simp), hcode]
    exact List.filter_sublist

theorem mem_all_of_before? (hcode : ix.code.toList = ix.all.toList.filter fun t => !t.isComment)
    {offset : Nat} {comments : Bool} {t : Token} (h : ix.before? offset comments = some t) :
    t ∈ ix.all :=
  Array.mem_toList_iff.1 ((sublist_select hcode comments).subset
    (Array.mem_toList_iff.2 (mem_select_of_before? h)))

theorem mem_all_of_mem_within {span : Span} {t : Token} (h : t ∈ ix.within span) : t ∈ ix.all :=
  Array.mem_toList_iff.1 (List.mem_of_mem_take (List.mem_of_mem_drop h))

theorem stop_le_of_before? {offset : Nat} {comments : Bool} {t : Token}
    (h : ix.before? offset comments = some t) : t.span.stop ≤ offset := by
  unfold before? at h
  dsimp only at h
  split at h
  · cases h
  · rename_i n hn
    obtain ⟨u, hu, hstop⟩ := getElem?_of_countWhile hn
    cases hu.symm.trans h
    exact of_decide_eq_true hstop

structure Sorted (ix : TokenIndex) : Prop where
  le : ∀ t ∈ ix.all, t.span.start ≤ t.span.stop
  sorted : ix.all.toList.Pairwise fun a b => Token.le a b = true

theorem sorted_ofList {tokens : List Token} (hle : ∀ t ∈ tokens, t.span.start ≤ t.span.stop) :
    (ofList tokens).Sorted := by
  exact ⟨fun t ht => hle t (by simpa [ofList] using ht), Token.pairwise_mergeSort tokens⟩

theorem Sequential.sorted (h : ix.Sequential) : ix.Sorted := by
  refine ⟨h.le, h.ordered.imp_of_mem ?_⟩
  intro a b ha hb hab
  have ha' := h.le a (Array.mem_toList_iff.1 ha)
  have hb' := h.le b (Array.mem_toList_iff.1 hb)
  simp only [Token.le, Bool.or_eq_true, Bool.and_eq_true, decide_eq_true_eq, beq_iff_eq]
  omega

theorem leads_start_of_pairwise {ts : Array Token}
    (h : ts.toList.Pairwise fun a b => Token.le a b = true) (offset : Nat) :
    Leads ts fun t => t.span.start < offset := by
  intro i j a b ha hb hij hp
  obtain ⟨hi, rfl⟩ := Array.getElem?_eq_some_iff.1 ha
  obtain ⟨hj, rfl⟩ := Array.getElem?_eq_some_iff.1 hb
  have hle := List.pairwise_iff_getElem.1 h i j (by simpa using hi) (by simpa using hj) hij
  simp only [Token.le, Array.getElem_toList, Bool.or_eq_true, Bool.and_eq_true, decide_eq_true_eq,
    beq_iff_eq] at hle hp ⊢
  omega

theorem Sorted.of_after? (h : ix.Sorted)
    (hcode : ix.code.toList = ix.all.toList.filter fun t => !t.isComment) {offset : Nat}
    {comments : Bool} {t : Token} (ht : ix.after? offset comments = some t) :
    t ∈ ix.all ∧ offset ≤ t.span.start := by
  have hselect := sublist_select hcode comments
  have hstart := (leads_start_of_pairwise (h.sorted.sublist hselect) offset).lt_countWhile_iff ht
  rw [decide_eq_true_eq] at hstart
  refine ⟨Array.mem_toList_iff.1 (hselect.subset ?_), by omega⟩
  exact Array.mem_toList_iff.2 (Array.mem_of_getElem? ht)

/-- Comments that are found between two offsets begin there or lie there. -/
theorem Sorted.of_mem_commentsBetween (h : ix.Sorted) {first last : Nat} {t : Token}
    (ht : t ∈ ix.commentsBetween first last) :
    t ∈ ix.all ∧ t.isComment = true ∧ first ≤ t.span.start ∧
      (t.span.start < last ∨ t.span.stop ≤ last) := by
  unfold commentsBetween at ht
  split at ht
  · cases ht
  obtain ⟨ht, hcomment⟩ := List.mem_filter.1 ht
  obtain ⟨i, hi⟩ := List.mem_iff_getElem?.1 ht
  simp only [within, List.getElem?_drop, List.getElem?_take, Array.getElem?_toList] at hi
  split at hi
  swap
  · cases hi
  rename_i hlt
  refine ⟨Array.mem_of_getElem? hi, hcomment, ?_, ?_⟩
  · by_contra hstart
    have := ((leads_start_of_pairwise h.sorted first).lt_countWhile_iff hi).2
      (by simpa using hstart)
    omega
  -- The last token that is taken ends in time, and this one does not come after it.
  · obtain ⟨k, hk⟩ := Nat.exists_eq_succ_of_ne_zero (Nat.ne_zero_of_lt hlt)
    obtain ⟨u, hu, hstop⟩ := getElem?_of_countWhile hk
    have hule := h.le u (Array.mem_of_getElem? hu)
    simp only [decide_eq_true_eq] at hstop
    obtain ⟨hi', heq⟩ := Array.getElem?_eq_some_iff.1 hi
    obtain ⟨hk', hequ⟩ := Array.getElem?_eq_some_iff.1 hu
    rcases Nat.lt_or_eq_of_le (Nat.le_of_lt_succ (hk ▸ hlt)) with hik | rfl
    · have hle := List.pairwise_iff_getElem.1 h.sorted _ _ (by simpa using hi')
        (by simpa using hk') hik
      simp only [Array.getElem_toList, heq, hequ, Token.le, Bool.or_eq_true, Bool.and_eq_true,
        decide_eq_true_eq, beq_iff_eq] at hle
      omega
    · rw [heq] at hequ
      subst hequ
      exact .inr hstop

end TokenIndex

end ScriptLint
