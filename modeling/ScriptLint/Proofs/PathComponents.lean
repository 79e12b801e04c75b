import Mathlib.Data.List.Infix
import ScriptLint.Path

/-! What a path means is the list of its components. The operations on paths work on their text;
here each of them is said on components: joining appends, the parent drops the last one, the text
of a list of components reads back as that list, and resolution runs a stack. -/
namespace ScriptLint

namespace Text

variable {p : Char → Bool} {t u : Text} {c : Char}

theorem splitWhere_ne_nil (t : Text) : splitWhere p t ≠ [] := by
  fun_cases splitWhere p t <;> simp_all

theorem splitWhere_of_all (h : ∀ c ∈ t, p c = false) : splitWhere p t = [t] := by
  induction t with
  | nil => rfl
  | cons c t ih =>
    rw [List.forall_mem_cons] at h
    simp only [splitWhere, h.1, ih h.2, Bool.false_eq_true, if_false]

theorem splitWhere_append_cons (hc : p c = true) :
    splitWhere p (t ++ c :: u) = splitWhere p t ++ splitWhere p u := by
  induction t with
  | nil => simp only [List.nil_append, splitWhere, hc, if_true, List.singleton_append]
  | cons d t ih =>
    simp only [List.cons_append, splitWhere, ih]
    split
    · rfl
    · cases hs : splitWhere p t with
      | nil => exact absurd hs (splitWhere_ne_nil t)
      | cons w ws => rfl

theorem all_of_mem_splitWhere {w : Text} (h : w ∈ splitWhere p t) : ∀ c ∈ w, p c = false := by
  induction t generalizing w with
  | nil => simp_all [splitWhere]
  | cons d t ih =>
    simp only [splitWhere] at h
    split at h
    · rcases List.mem_cons.1 h with rfl | h
      · simp
      · exact ih h
    · next hd =>
      cases hs : splitWhere p t with
      | nil => exact absurd hs (splitWhere_ne_nil t)
      | cons v vs =>
        rw [hs] at h ih
        rcases List.mem_cons.1 h with rfl | h
        · exact List.forall_mem_cons.2 ⟨by simpa using hd, ih List.mem_cons_self⟩
        · exact ih (List.mem_cons_of_mem v h)

end Text

namespace Path

def parts (t : Text) : List Component := (Text.splitWhere isSeparator t).filterMap component?

def lead (p : Path) : List Component :=
  if p.isAbsolute then [.root] else if p.startsWithDot then [.current] else []

theorem components_eq (p : Path) : p.components = p.lead ++ parts p.text := rfl

/-- A component that can follow any other. -/
def Component.IsStep : Component → Prop
  | .parent => True
  | .name n => n ≠ [] ∧ n ≠ ['.'] ∧ n ≠ ['.', '.'] ∧ '/' ∉ n
  | _ => False

theorem not_mem_of_forall {t : Text} (h : ∀ c ∈ t, isSeparator c = false) : '/' ∉ t :=
  fun hc => absurd (h _ hc) (by decide)

theorem forall_of_not_mem {t : Text} (h : '/' ∉ t) : ∀ c ∈ t, isSeparator c = false :=
  fun _ hc => beq_eq_false_iff_ne.2 fun heq => h (heq ▸ hc)

theorem isStep_of_component? {w : Text} {c : Component} (hw : '/' ∉ w)
    (h : component? w = some c) : c.IsStep := by
  unfold component? at h
  split at h
  · cases h
  · next h1 =>
    split at h
    · cases h; trivial
    · next h2 =>
      cases h
      simp only [Bool.or_eq_true, decide_eq_true_eq, not_or] at h1
      exact ⟨h1.1, h1.2, h2, hw⟩

theorem isStep_of_mem_parts {t : Text} {c : Component} (h : c ∈ parts t) : c.IsStep := by
  obtain ⟨w, hw, hc⟩ := List.mem_filterMap.1 h
  exact isStep_of_component? (not_mem_of_forall (Text.all_of_mem_splitWhere hw)) hc

theorem component?_text {c : Component} (h : c.IsStep) : component? c.text = some c := by
  cases c with
  | root | current => exact h.elim
  | parent => rfl
  | name n => simp [Component.text, component?, h.1, h.2.1, h.2.2.1]

theorem parts_of_not_mem {t : Text} (h : '/' ∉ t) : parts t = (component? t).toList := by
  rw [parts, Text.splitWhere_of_all (forall_of_not_mem h)]
  cases hc : component? t <;> simp [hc]

theorem parts_append_cons (t u : Text) : parts (t ++ '/' :: u) = parts t ++ parts u := by
  rw [parts, Text.splitWhere_append_cons rfl, List.filterMap_append]
  rfl

@[simp] theorem parts_nil : parts [] = [] := rfl

theorem parts_cons (u : Text) : parts ('/' :: u) = parts u := parts_append_cons [] u

theorem not_mem_text {c : Component} (h : c.IsStep) : '/' ∉ c.text := by
  cases c with
  | root | current => exact h.elim
  | parent => decide
  | name n => exact h.2.2.2

theorem parts_text {c : Component} (h : c.IsStep) : parts c.text = [c] := by
  rw [parts_of_not_mem (not_mem_text h), component?_text h]
  rfl

/-! A path joined to another one. -/

section Join

variable {p q : Path}

theorem isAbsolute_eq_false_of_not_mem (h : '/' ∉ q.text) : q.isAbsolute = false := by
  unfold isAbsolute
  cases ht : q.text with
  | nil => rfl
  | cons c t =>
    rw [ht] at h
    exact beq_eq_false_iff_ne.2 fun heq => h (Option.some.inj heq ▸ List.mem_cons_self)

theorem components_of_text_eq_nil (h : p.text = []) : p.components = [] := by
  obtain ⟨t⟩ := p
  subst h
  rfl

theorem startsWithDot_iff :
    p.startsWithDot = true ↔ p.text = ['.'] ∨ ∃ t, p.text = '.' :: '/' :: t := by
  unfold startsWithDot
  split <;> simp_all

/-- Only the first character says whether a path is absolute, and only the first two whether it
begins with a dot. -/
theorem lead_append {t : Text} (ht : p.text ≠ [])
    (h : p.text.getLast? = some '/' ∨ t.head? = some '/') : lead ⟨p.text ++ t⟩ = p.lead := by
  have habs : isAbsolute ⟨p.text ++ t⟩ = p.isAbsolute := by
    rw [isAbsolute, isAbsolute, List.head?_append_of_ne_nil _ ht]
  have hdot : startsWithDot ⟨p.text ++ t⟩ = p.startsWithDot := by
    rw [Bool.eq_iff_iff, startsWithDot_iff, startsWithDot_iff]
    obtain ⟨s⟩ := p
    match s, t with
    | [], _ => exact absurd rfl ht
    | _ :: _ :: _, _ => simp
    | [c], [] => simp
    | [c], d :: t =>
      rcases h with h | h
      · simp [show c = '/' by simpa using h]
      · simp [show d = '/' by simpa using h]
  rw [lead, lead, habs, hdot]

theorem components_join (ht : p.text ≠ []) (hq : q.isAbsolute = false) :
    (p.join q).components = p.components ++ parts q.text := by
  have hempty : p.text.isEmpty = false := by rwa [List.isEmpty_eq_false_iff]
  rw [join, hq, hempty, Bool.false_or, if_neg Bool.false_ne_true]
  split
  · next hlast =>
    rw [beq_iff_eq] at hlast
    obtain ⟨s, hs⟩ := List.getLast?_eq_some_iff.1 hlast
    rw [components_eq, lead_append ht (.inl hlast), components_eq, List.append_assoc]
    congr 1
    simp only [hs, List.append_assoc, List.singleton_append]
    rw [parts_append_cons, parts_append_cons, parts_nil, List.append_nil]
  · rw [components_eq, lead_append ht (.inr rfl), components_eq, List.append_assoc,
      parts_append_cons]

theorem components_join_text {c : Component} (hc : c.IsStep) :
    (p.join ⟨c.text⟩).components = p.components ++ [c] := by
  have habs : isAbsolute ⟨c.text⟩ = false := isAbsolute_eq_false_of_not_mem (not_mem_text hc)
  by_cases ht : p.text = []
  · have hdot : startsWithDot ⟨c.text⟩ = false := by
      have hparts := component?_text hc
      have hslash := not_mem_text hc
      unfold startsWithDot
      split
      · next h => rw [show c.text = ['.'] from h] at hparts; cases hparts
      · next h => rw [show c.text = _ from h] at hslash; simp at hslash
      · rfl
    rw [components_of_text_eq_nil ht, join, habs, ht]
    simp [components_eq, lead, habs, hdot, parts_text hc]
  · rw [components_join ht habs, parts_text hc]

end Join

/-! The text of a list of components. -/

/-- A list of components that can be written as a path and read back. -/
def Readable (cs : List Component) : Prop :=
  ∃ first rest, cs = first ++ rest ∧ (first = [] ∨ first = [.root]) ∧ ∀ c ∈ rest, c.IsStep

theorem ofComponents_concat (cs : List Component) (c : Component) :
    ofComponents (cs ++ [c]) = (ofComponents cs).join ⟨c.text⟩ := by
  rw [ofComponents, List.foldl_append]
  rfl

theorem components_ofComponents {cs : List Component} (h : Readable cs) :
    (ofComponents cs).components = cs := by
  obtain ⟨first, rest, rfl, hfirst, hrest⟩ := h
  induction rest using List.reverseRecOn with
  | nil => rcases hfirst with rfl | rfl <;> rfl
  | append_singleton rest c ih =>
    rw [List.forall_mem_append] at hrest
    rw [← List.append_assoc, ofComponents_concat, components_join_text (hrest.2 c (by simp)),
      ih hrest.1]

/-! The parent of a path. -/

/-- The text before one of the separators of a text, or nothing, or all of it. -/
def IsCut (t s : Text) : Prop := t = [] ∨ t = s ∨ ∃ u, s = t ++ '/' :: u

theorem IsCut.trans {t s r : Text} (h : IsCut t s) (hs : IsCut s r) : IsCut t r := by
  rcases h with rfl | rfl | ⟨u, rfl⟩
  · exact .inl rfl
  · exact hs
  · rcases hs with hs | rfl | ⟨v, rfl⟩
    · simp at hs
    · exact .inr (.inr ⟨u, rfl⟩)
    · exact .inr (.inr ⟨u ++ '/' :: v, by simp⟩)

theorem takeWhile_reverse {u : Text} (h : '/' ∉ u) (t : Text) :
    (u.reverse ++ t).takeWhile (fun c => !isSeparator c) =
      u.reverse ++ t.takeWhile fun c => !isSeparator c :=
  List.takeWhile_append_of_pos fun c hc => by
    rw [forall_of_not_mem h c (List.mem_reverse.1 hc), Bool.not_false]

theorem cutLast_append_cons {u : Text} (h : '/' ∉ u) (t : Text) :
    cutLast (t ++ '/' :: u) = (t, u) := by
  have hw : ((t ++ '/' :: u).reverse.takeWhile fun c => !isSeparator c).reverse = u := by
    rw [List.reverse_append, List.reverse_cons, List.append_assoc, takeWhile_reverse h]
    simp [isSeparator]
  have hlength : (t ++ '/' :: u).length - u.length - 1 = t.length := by
    simp only [List.length_append, List.length_cons]
    omega
  rw [cutLast, hw, hlength, List.take_left]

theorem cutLast_of_not_mem {u : Text} (h : '/' ∉ u) : cutLast u = ([], u) := by
  have hw : (u.reverse.takeWhile fun c => !isSeparator c).reverse = u := by
    simpa using congrArg List.reverse (takeWhile_reverse h [])
  rw [cutLast, hw]
  simp

theorem eq_append_of_mem {s : Text} (h : '/' ∈ s) : ∃ t u, s = t ++ '/' :: u ∧ '/' ∉ u := by
  obtain ⟨u, t, hs, hu⟩ := List.eq_append_cons_of_mem (List.mem_reverse.2 h)
  refine ⟨t.reverse, u.reverse, ?_, by rwa [List.mem_reverse]⟩
  rw [← List.reverse_reverse s, hs]
  simp

theorem cutLast_eq (s : Text) : '/' ∉ (cutLast s).2 ∧
    (s = (cutLast s).1 ++ '/' :: (cutLast s).2 ∨ (cutLast s).1 = [] ∧ s = (cutLast s).2) := by
  by_cases h : '/' ∈ s
  · obtain ⟨t, u, rfl, hu⟩ := eq_append_of_mem h
    rw [cutLast_append_cons hu]
    exact ⟨hu, .inl rfl⟩
  · rw [cutLast_of_not_mem h]
    exact ⟨h, .inr ⟨rfl, rfl⟩⟩

theorem isCut_cutLast (s : Text) : IsCut (cutLast s).1 s := by
  rcases (cutLast_eq s).2 with h | ⟨h, -⟩
  · exact .inr (.inr ⟨_, h⟩)
  · exact .inl h

theorem parts_cutLast (s : Text) :
    parts s = parts (cutLast s).1 ++ (component? (cutLast s).2).toList := by
  obtain ⟨hmem, h | ⟨h, hs⟩⟩ := cutLast_eq s
  · conv_lhs => rw [h, parts_append_cons, parts_of_not_mem hmem]
  · rw [h, parts_nil, List.nil_append, ← parts_of_not_mem hmem, ← hs]

theorem isCut_trimEnd (fuel : Nat) (s : Text) : IsCut (trimEnd fuel s) s := by
  induction fuel generalizing s with
  | zero => exact .inr (.inl rfl)
  | succ fuel ih =>
    rw [trimEnd]
    split
    · exact .inr (.inl rfl)
    · split
      · exact (ih _).trans (isCut_cutLast s)
      · exact .inr (.inl rfl)

theorem parts_trimEnd (fuel : Nat) (s : Text) : parts (trimEnd fuel s) = parts s := by
  induction fuel generalizing s with
  | zero => rfl
  | succ fuel ih =>
    rw [trimEnd]
    split
    · rfl
    · split
      · next h =>
        rw [ih, parts_cutLast s, Option.isNone_iff_eq_none.1 h, Option.toList_none,
          List.append_nil]
      · rfl

theorem length_cutLast {s : Text} (h : s ≠ []) : (cutLast s).1.length < s.length := by
  obtain ⟨-, hs | ⟨hnil, -⟩⟩ := cutLast_eq s
  · conv_rhs => rw [hs]
    simp
  · rw [hnil]
    exact List.length_pos_of_ne_nil h

theorem component?_trimEnd {fuel : Nat} {s : Text} (hfuel : s.length < fuel)
    (h : trimEnd fuel s ≠ []) : ∃ c, component? (cutLast (trimEnd fuel s)).2 = some c := by
  induction fuel generalizing s with
  | zero => omega
  | succ fuel ih =>
    rw [trimEnd] at h ⊢
    split
    · next hs =>
      rw [if_pos hs] at h
      exact absurd (List.isEmpty_iff.1 hs) h
    · next hs =>
      rw [if_neg hs] at h
      split
      · next hn =>
        rw [if_pos hn] at h
        have := length_cutLast (mt List.isEmpty_iff.2 hs)
        exact ih (by omega) h
      · next hn =>
        rwa [Bool.not_eq_true, Option.isNone_eq_false_iff, Option.isSome_iff_exists] at hn

section Parent

variable {p q : Path}

theorem parts_drop_leadLength (p : Path) : parts (p.text.drop p.leadLength) = parts p.text := by
  unfold leadLength
  split
  · next h =>
    rw [Bool.or_eq_true, startsWithDot_iff] at h
    rcases h with h | h | ⟨t, h⟩
    · obtain ⟨t, ht⟩ := List.head?_eq_some_iff.1 (beq_iff_eq.1 h)
      rw [ht, List.drop_one, List.tail_cons, parts_cons]
    · rw [h]; rfl
    · rw [h]
      exact (parts_cons t).trans (parts_append_cons ['.'] t).symm
  · rfl

theorem leadLength_eq (p : Path) : p.leadLength = p.lead.length := by
  unfold leadLength lead
  cases p.isAbsolute <;> cases p.startsWithDot <;> rfl

theorem leadLength_le (p : Path) : p.leadLength ≤ p.text.length := by
  unfold leadLength
  split
  · next h =>
    refine List.length_pos_of_ne_nil fun htext => ?_
    simp [isAbsolute, startsWithDot, htext] at h
  · exact Nat.zero_le _

/-- What follows the lead begins with a separator, unless the lead is one or there is none. -/
theorem append_of_isCut {t : Text} (h : IsCut t (p.text.drop p.leadLength))
    (hne : p.text.take p.leadLength ++ t ≠ []) :
    ∃ r, p.text = p.text.take p.leadLength ++ t ++ r ∧ (r = [] ∨
      (p.text.take p.leadLength ++ t).getLast? = some '/' ∨ r.head? = some '/') := by
  have hsplit := (List.take_append_drop p.leadLength p.text).symm
  rcases h with rfl | rfl | ⟨u, hu⟩
  · refine ⟨p.text.drop p.leadLength, by rwa [List.append_nil], ?_⟩
    by_cases habs : p.isAbsolute = true
    · obtain ⟨t, ht⟩ := List.head?_eq_some_iff.1 (beq_iff_eq.1 habs)
      exact .inr (.inl (by simp [ht, leadLength, habs]))
    · by_cases hdot : p.startsWithDot = true
      · rcases startsWithDot_iff.1 hdot with ht | ⟨t, ht⟩
        · exact .inl (by simp [ht, leadLength, hdot])
        · exact .inr (.inr (by simp [ht, leadLength, hdot]))
      · simp [leadLength, habs, hdot] at hne
  · exact ⟨[], by rwa [List.append_nil], .inl rfl⟩
  · rw [hu, ← List.append_assoc] at hsplit
    exact ⟨_, hsplit, .inr (.inr rfl)⟩

theorem components_of_isCut {t : Text} (h : IsCut t (p.text.drop p.leadLength)) :
    components ⟨p.text.take p.leadLength ++ t⟩ = p.lead ++ parts t := by
  by_cases hne : p.text.take p.leadLength ++ t = []
  · rw [components_of_text_eq_nil hne]
    obtain ⟨htake, rfl⟩ := List.append_eq_nil_iff.1 hne
    rcases List.take_eq_nil_iff.1 htake with hlead | htext
    · rw [leadLength_eq, List.length_eq_zero_iff] at hlead
      rw [hlead]; rfl
    · rw [parts_nil, List.append_nil]
      exact (List.append_eq_nil_iff.1 (components_of_text_eq_nil htext)).1.symm
  · obtain ⟨r, hr, hend⟩ := append_of_isCut h hne
    have hlead : lead ⟨p.text.take p.leadLength ++ t⟩ = p.lead := by
      rcases hend with rfl | hend
      · conv_rhs => rw [show p = ⟨p.text⟩ from rfl, hr, List.append_nil]
      · conv_rhs => rw [show p = ⟨p.text⟩ from rfl, hr]
        exact (lead_append (p := ⟨p.text.take p.leadLength ++ t⟩) hne hend).symm
    have hparts := parts_drop_leadLength ⟨p.text.take p.leadLength ++ t⟩
    rw [leadLength_eq, hlead, ← leadLength_eq,
      List.drop_left' (List.length_take_of_le (leadLength_le p))] at hparts
    rw [components_eq, hlead, hparts]

theorem parts_body (p : Path) : parts p.body = parts p.text := by
  rw [body, parts_trimEnd, parts_drop_leadLength]

theorem components_of_parent? (h : p.parent? = some q) :
    p.components ≠ [] ∧ q.components = p.components.dropLast := by
  unfold parent? at h
  split at h
  · next hbody =>
    split at h
    · next hdot =>
      cases h
      have habs : p.isAbsolute = false := by
        rcases startsWithDot_iff.1 hdot with ht | ⟨t, ht⟩ <;> simp [isAbsolute, ht]
      have hcomponents : p.components = [.current] := by
        rw [components_eq, ← parts_body, List.isEmpty_iff.1 hbody, lead, habs, hdot]
        rfl
      rw [hcomponents]
      exact ⟨List.cons_ne_nil _ _, rfl⟩
    · cases h
  · next hbody =>
    obtain ⟨c, hc⟩ := component?_trimEnd (Nat.lt_succ_self _) (mt List.isEmpty_iff.2 hbody)
    have hcut : IsCut (cutLast p.body).1 (p.text.drop p.leadLength) :=
      (isCut_cutLast _).trans (isCut_trimEnd _ _)
    have hcomponents : p.components = p.lead ++ parts (cutLast p.body).1 ++ [c] := by
      rw [components_eq, ← parts_body, parts_cutLast, show component? (cutLast p.body).2 = _ from hc,
        Option.toList_some, List.append_assoc]
    cases h
    rw [components_of_isCut ((isCut_trimEnd _ _).trans hcut), parts_trimEnd, hcomponents,
      List.dropLast_concat]
    exact ⟨by simp, rfl⟩

end Parent

/-! The ancestors of a path. -/

theorem prefix_of_mem_ancestorsFrom {fuel : Nat} {p q : Path} (h : q ∈ ancestorsFrom fuel p) :
    q.components <+: p.components := by
  induction fuel generalizing p with
  | zero => simp [ancestorsFrom] at h
  | succ fuel ih =>
    rw [ancestorsFrom, List.mem_cons] at h
    rcases h with rfl | h
    · exact List.prefix_rfl
    · cases hp : p.parent? with
      | none => simp [hp] at h
      | some r =>
        rw [hp] at h
        have hr := (components_of_parent? hp).2
        exact (ih h).trans (hr ▸ List.dropLast_prefix _)

theorem prefix_of_mem_ancestors {p q : Path} (h : q ∈ p.ancestors.drop 1) :
    q.components <+: p.components.dropLast := by
  rw [ancestors, ancestorsFrom, List.drop_one, List.tail_cons] at h
  cases hp : p.parent? with
  | none => simp [hp] at h
  | some r =>
    rw [hp] at h
    exact (components_of_parent? hp).2 ▸ prefix_of_mem_ancestorsFrom h

end Path

end ScriptLint
