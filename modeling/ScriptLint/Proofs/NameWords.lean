import ScriptLint.Proofs.Capitals
import ScriptLint.Proofs.PathComponents

/-! Words of names. Cutting a name into words loses nothing but the separators. Where no word
starts inside of two neighbouring texts, only the place at which they meet says whether they become
one word or two, so the words of a text that is put together can be read off its parts. -/
namespace ScriptLint

theorem Text.flatten_splitWhere (p : Char → Bool) (t : Text) :
    (splitWhere p t).flatten = t.filter fun c => !p c := by
  induction t with
  | nil => rfl
  | cons c t ih =>
    rw [splitWhere, List.filter_cons]
    by_cases hc : p c = true
    · rw [if_pos hc, List.flatten_cons, List.nil_append, ih, if_neg (by simp [hc])]
    · rw [if_neg hc, if_pos (by simp [hc]), ← ih]
      cases hs : splitWhere p t with
      | nil => exact absurd hs (splitWhere_ne_nil t)
      | cons w ws => rfl

theorem Unicode.toLower_ne_nil (c : Char) : toLower c ≠ [] := by
  rw [toLower]
  split
  · exact List.cons_ne_nil _ _
  · split <;> exact List.cons_ne_nil _ _

theorem lowerText_append (t u : Text) : lowerText (t ++ u) = lowerText t ++ lowerText u :=
  List.flatMap_append

theorem lowerText_flatten (ts : List Text) : lowerText ts.flatten = (ts.map lowerText).flatten := by
  rw [lowerText, ← List.flatMap_id, List.flatMap_assoc, List.flatMap_def]
  rfl

theorem lowerText_ne_nil {t : Text} (h : t ≠ []) : lowerText t ≠ [] := by
  cases t with
  | nil => exact absurd rfl h
  | cons c t =>
    rw [lowerText, List.flatMap_cons]
    exact List.append_ne_nil_of_left_ne_nil (Unicode.toLower_ne_nil c) _

/-! Cutting a text. -/

variable {p : Char} {t u : Text}

theorem cutWords_ne_nil (previous : Option Char) (t : Text) : cutWords previous t ≠ [] := by
  fun_cases cutWords previous t <;> exact List.cons_ne_nil _ _

theorem cutWords_none_cons (c : Char) (t : Text) :
    cutWords none (c :: t) = (cutWords (some c) t).modifyHead (c :: ·) := by
  rw [cutWords]
  cases hs : cutWords (some c) t with
  | nil => exact absurd hs (cutWords_ne_nil _ t)
  | cons w ws => rfl

theorem cutWords_some_cons (p c : Char) (t : Text) :
    cutWords (some p) (c :: t) =
      if startsWord p c t.head? then [] :: cutWords none (c :: t) else cutWords none (c :: t) := by
  rw [cutWords_none_cons, cutWords]
  cases hs : cutWords (some c) t with
  | nil => exact absurd hs (cutWords_ne_nil _ t)
  | cons w ws => rfl

theorem flatten_cutWords (previous : Option Char) (t : Text) :
    (cutWords previous t).flatten = t := by
  induction t generalizing previous with
  | nil => rfl
  | cons c t ih =>
    have hnone : (cutWords none (c :: t)).flatten = c :: t := by
      rw [cutWords_none_cons]
      conv_rhs => rw [← ih (some c)]
      cases hs : cutWords (some c) t with
      | nil => exact absurd hs (cutWords_ne_nil _ t)
      | cons w ws => rfl
    cases previous with
    | none => exact hnone
    | some p =>
      rw [cutWords_some_cons]
      split
      · rw [List.flatten_cons, List.nil_append, hnone]
      · exact hnone

theorem flatten_splitWords (t : Text) :
    (splitWords t).flatten = lowerText (t.filter fun c => !isWordSeparator c) := by
  rw [splitWords, ← lowerText_flatten, List.flatten_filter_not_isEmpty, List.flatMap_def,
    List.flatten_flatten, List.map_map, ← Text.flatten_splitWhere]
  simp only [Function.comp_def, flatten_cutWords, List.map_id']

theorem ne_nil_of_mem_splitWords {w : Text} (h : w ∈ splitWords t) : w ≠ [] := by
  obtain ⟨v, hv, rfl⟩ := List.mem_map.1 h
  have hne := (List.mem_filter.1 hv).2
  exact lowerText_ne_nil (by simpa using hne)

/-! Texts inside of which no word starts. -/

/-- In a text with a character after it no word starts behind the first character. -/
def Unbroken (follow : Option Char) : Text → Prop
  | p :: c :: t => startsWord p c (t.head?.or follow) = false ∧ Unbroken follow (c :: t)
  | _ => True

theorem cutWords_some_append (h : Unbroken u.head? (p :: t)) :
    cutWords (some p) (t ++ u) =
      (cutWords (some ((p :: t).getLast (List.cons_ne_nil p t))) u).modifyHead (t ++ ·) := by
  induction t generalizing p with
  | nil =>
    rw [List.nil_append, List.getLast_singleton]
    exact (congrFun List.modifyHead_id _).symm
  | cons c t ih =>
    rw [List.cons_append, cutWords_some_cons, List.head?_append, h.1, if_neg Bool.false_ne_true,
      cutWords_none_cons, ih h.2, List.modifyHead_modifyHead, List.getLast_cons_cons]
    rfl

theorem cutWords_none_append {c : Char} (ht : t ≠ []) (h : Unbroken (some c) t) (rest : Text) :
    cutWords none (t ++ c :: rest) =
      if startsWord (t.getLast ht) c rest.head? then t :: cutWords none (c :: rest)
      else (cutWords none (c :: rest)).modifyHead (t ++ ·) := by
  obtain ⟨d, t, rfl⟩ := List.exists_cons_of_ne_nil ht
  rw [List.cons_append, cutWords_none_cons, cutWords_some_append (u := c :: rest) h,
    cutWords_some_cons, List.modifyHead_modifyHead]
  split
  · rw [List.modifyHead_cons, Function.comp_apply, List.append_nil]
  · rfl

theorem cutWords_none_of_unbroken (ht : t ≠ []) (h : Unbroken none t) : cutWords none t = [t] := by
  obtain ⟨d, t, rfl⟩ := List.exists_cons_of_ne_nil ht
  have hcut := cutWords_some_append (u := []) h
  rw [List.append_nil] at hcut
  rw [cutWords_none_cons, hcut]
  simp [cutWords]

def runsOn (t u : Text) : Bool :=
  match t.getLast?, u with
  | some p, c :: u => !startsWord p c u.head?
  | _, _ => true

theorem runsOn_cons (ht : t ≠ []) (c : Char) (u : Text) :
    runsOn t (c :: u) = !startsWord (t.getLast ht) c u.head? := by
  simp only [runsOn, List.getLast?_eq_some_getLast ht]

def runs : List Text → List Text
  | t :: u :: ts => if runsOn t u then (runs (u :: ts)).modifyHead (t ++ ·) else t :: runs (u :: ts)
  | ts => ts

theorem runs_ne_nil {ts : List Text} (h : ts ≠ []) : runs ts ≠ [] := by
  induction ts with
  | nil => exact absurd rfl h
  | cons t ts ih =>
    cases ts with
    | nil => exact List.cons_ne_nil t []
    | cons u ts =>
      rw [runs]
      split
      · exact mt List.modifyHead_eq_nil_iff.1 (ih (List.cons_ne_nil u ts))
      · exact List.cons_ne_nil t _

theorem flatten_runs (ts : List Text) : (runs ts).flatten = ts.flatten := by
  fun_induction runs ts with
  | case1 t u ts _ ih =>
    rw [List.flatten_cons, ← ih]
    cases hr : runs (u :: ts) with
    | nil => exact absurd hr (runs_ne_nil (List.cons_ne_nil u ts))
    | cons r rs => simp
  | case2 t u ts _ ih => rw [List.flatten_cons, ih, ← List.flatten_cons]
  | case3 ts => rfl

theorem ne_nil_of_mem_runs {ts : List Text} (hts : ∀ t ∈ ts, t ≠ []) : ∀ r ∈ runs ts, r ≠ [] := by
  fun_induction runs ts with
  | case1 t u ts _ ih =>
    obtain ⟨_, hts⟩ := List.forall_mem_cons.1 hts
    have ih := ih hts
    cases hr : runs (u :: ts) with
    | nil => exact absurd hr (runs_ne_nil (List.cons_ne_nil u ts))
    | cons r rs =>
      rw [hr] at ih
      obtain ⟨hr, hrs⟩ := List.forall_mem_cons.1 ih
      exact List.forall_mem_cons.2 ⟨List.append_ne_nil_of_right_ne_nil t hr, hrs⟩
  | case2 t u ts _ ih =>
    obtain ⟨ht, hts⟩ := List.forall_mem_cons.1 hts
    exact List.forall_mem_cons.2 ⟨ht, ih hts⟩
  | case3 ts => exact hts

theorem runs_eq_self {ts : List Text} (h : ts.IsChain fun t u => runsOn t u = false) :
    runs ts = ts := by
  fun_induction runs ts with
  | case1 t u ts hruns ih =>
    rw [(List.isChain_cons_cons.1 h).1] at hruns
    cases hruns
  | case2 t u ts _ ih => rw [ih (List.isChain_cons_cons.1 h).2]
  | case3 ts => rfl

def Fronted (t : Text) : Prop := t.head?.any Unicode.isLowercase = false

theorem startsWord_of_not_small {follow : Option Char} (h : follow.any Unicode.isLowercase = false)
    (p c : Char) : startsWord p c follow = startsWord p c none := by
  rw [startsWord, h]
  rfl

theorem startsWord_head?_append (h : Fronted u) (p c : Char) (t : Text) :
    startsWord p c (t ++ u).head? = startsWord p c t.head? := by
  cases t with
  | nil => exact startsWord_of_not_small h p c
  | cons d t => rfl

/-- A text that can stand in a name beside others: no word starts inside of it, unless a small
letter comes next. -/
structure IsPart (t : Text) : Prop where
  ne_nil : t ≠ []
  unbroken : ∀ follow : Option Char, follow.any Unicode.isLowercase = false → Unbroken follow t

theorem fronted_flatten {ts : List Text} (h : ∀ t ∈ ts, t ≠ [] ∧ Fronted t) :
    Fronted ts.flatten := by
  cases ts with
  | nil => rfl
  | cons t ts =>
    obtain ⟨hne, ht⟩ := h t List.mem_cons_self
    rwa [Fronted, List.flatten_cons, List.head?_append_of_ne_nil _ hne]

/-- The words of a text that is put together are its runs. -/
theorem cutWords_flatten {t : Text} {ts : List Text} (ht : IsPart t)
    (hts : ∀ u ∈ ts, IsPart u ∧ Fronted u) : cutWords none (t :: ts).flatten = runs (t :: ts) := by
  induction ts generalizing t with
  | nil =>
    rw [List.flatten_singleton, cutWords_none_of_unbroken ht.ne_nil (ht.unbroken none rfl)]
    rfl
  | cons u ts ih =>
    obtain ⟨⟨hu, hfront⟩, hts⟩ := List.forall_mem_cons.1 hts
    have hrest : Fronted ts.flatten := fronted_flatten fun v hv =>
      ⟨(hts v hv).1.ne_nil, (hts v hv).2⟩
    have hcut := ih hu hts
    obtain ⟨c, u, rfl⟩ := List.exists_cons_of_ne_nil hu.ne_nil
    rw [List.flatten_cons, List.cons_append] at hcut
    rw [List.flatten_cons, List.flatten_cons, List.cons_append,
      cutWords_none_append ht.ne_nil (ht.unbroken (some c) hfront), hcut,
      startsWord_head?_append hrest, runs, runsOn_cons ht.ne_nil]
    cases startsWord (t.getLast ht.ne_nil) c u.head? <;> rfl

end ScriptLint
