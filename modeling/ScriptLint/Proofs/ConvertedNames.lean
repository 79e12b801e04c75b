import ScriptLint.Proofs.NameWords
import ScriptLint.Text.Units

/-! Names that are converted. A case writes every word of a name with the letters it has, as small
letters or as capitals, so the letters of the words can be read back; where words are joined by `_`
the words themselves can be. -/
namespace ScriptLint

/-! Characters and texts that differ in case only. -/

namespace Unicode

/-- Forms of one character, of which the second is in ASCII. -/
structure Recased (c d : Char) : Prop where
  ascii : d.toNat < 128
  separator : isWordSeparator d = isWordSeparator c
  alphabetic : isAlphabetic d = isAlphabetic c
  digit : d.isDigit = c.isDigit
  lower : d.toLower = c.toLower

instance (c d : Char) : Decidable (Recased c d) :=
  decidable_of_iff (d.toNat < 128 ∧ isWordSeparator d = isWordSeparator c ∧
      isAlphabetic d = isAlphabetic c ∧ d.isDigit = c.isDigit ∧ d.toLower = c.toLower)
    ⟨fun ⟨h₁, h₂, h₃, h₄, h₅⟩ => ⟨h₁, h₂, h₃, h₄, h₅⟩,
      fun ⟨h₁, h₂, h₃, h₄, h₅⟩ => ⟨h₁, h₂, h₃, h₄, h₅⟩⟩

theorem ascii_recased {c : Char} (h : c.toNat < 128) :
    Recased c c ∧ Recased c c.toLower ∧ Recased c c.toUpper ∧ isUppercase c.toLower = false := by
  have hall : ∀ n ∈ List.range 128, let c := Char.ofNat n
      Recased c c ∧ Recased c c.toLower ∧ Recased c c.toUpper ∧ isUppercase c.toLower = false := by
    decide +kernel
  simpa only [Char.ofNat_toNat] using hall c.toNat (List.mem_range.2 h)

theorem toLower_of_lt {c : Char} (h : c.toNat < 128) : toLower c = [c.toLower] := if_pos h

end Unicode

open Unicode

variable {t u v w : Text} {ts us : List Text}

theorem Text.isAscii_iff : t.isAscii = true ↔ ∀ c ∈ t, c.toNat < 128 := by
  simp only [isAscii, List.all_eq_true, decide_eq_true_eq]

theorem lowerText_of_isAscii (h : t.isAscii = true) : lowerText t = t.map Char.toLower := by
  rw [List.map_eq_flatMap]
  exact List.flatMap_congr fun c hc => toLower_of_lt (Text.isAscii_iff.1 h c hc)

theorem upperText_of_isAscii (h : t.isAscii = true) : upperText t = t.map Char.toUpper := by
  rw [List.map_eq_flatMap]
  exact List.flatMap_congr fun c hc => toUpper_of_lt (Text.isAscii_iff.1 h c hc)

/-- A text with the characters of another one, each in a form of ASCII. -/
abbrev Recasing : Text → Text → Prop := List.Forall₂ Recased

theorem recasing_map {f : Char → Char} (h : ∀ c ∈ t, Recased c (f c)) : Recasing t (t.map f) :=
  List.forall₂_map_right_iff.2 (List.forall₂_same.2 h)

theorem recasing_self (h : t.isAscii = true) : Recasing t t :=
  List.forall₂_same.2 fun c hc => (ascii_recased (Text.isAscii_iff.1 h c hc)).1

theorem recasing_lowerText (h : t.isAscii = true) : Recasing t (lowerText t) := by
  rw [lowerText_of_isAscii h]
  exact recasing_map fun c hc => (ascii_recased (Text.isAscii_iff.1 h c hc)).2.1

theorem recasing_upperText (h : t.isAscii = true) : Recasing t (upperText t) := by
  rw [upperText_of_isAscii h]
  exact recasing_map fun c hc => (ascii_recased (Text.isAscii_iff.1 h c hc)).2.2.1

theorem recasing_capitalize (h : t.isAscii = true) : Recasing t (capitalize t) := by
  cases t with
  | nil => exact .nil
  | cons c t =>
    have hc := Text.isAscii_iff.1 h c List.mem_cons_self
    rw [capitalize, toUpper_of_lt hc]
    rw [Text.isAscii, List.all_cons, Bool.and_eq_true] at h
    exact .cons (ascii_recased hc).2.2.1 (recasing_self h.2)

theorem recasing_hump (c : Casing) (h : t.isAscii = true) : Recasing t (c.hump t) := by
  rw [Casing.hump]
  split
  · exact recasing_upperText h
  · exact recasing_capitalize h

theorem Recasing.forall_right {P Q : Char → Prop} (h : Recasing t u)
    (hPQ : ∀ c d, Recased c d → P c → Q d) (hP : ∀ c ∈ t, P c) : ∀ d ∈ u, Q d := by
  induction h with
  | nil => exact List.forall_mem_nil Q
  | cons hcd _ ih =>
    obtain ⟨hc, hP⟩ := List.forall_mem_cons.1 hP
    exact List.forall_mem_cons.2 ⟨hPQ _ _ hcd hc, ih hP⟩

theorem Recasing.isAscii (h : Recasing t u) : u.isAscii = true :=
  Text.isAscii_iff.2
    (h.forall_right (P := fun _ => True) (fun _ _ hcd _ => hcd.ascii) fun _ _ => trivial)

theorem Recasing.joined (h : Recasing t u) (ht : ∀ c ∈ t, isWordSeparator c = false) :
    ∀ c ∈ u, isWordSeparator c = false :=
  h.forall_right (fun _ _ hcd hc => hcd.separator.trans hc) ht

theorem Recasing.lowerText_eq (ht : t.isAscii = true) (h : Recasing t u) :
    lowerText u = lowerText t := by
  rw [lowerText_of_isAscii ht, lowerText_of_isAscii h.isAscii]
  clear ht
  induction h with
  | nil => rfl
  | cons hcd _ ih => rw [List.map_cons, List.map_cons, ih, hcd.lower]

/-! Words. -/

def mixes (p c : Char) : Bool := (isAlphabetic p && c.isDigit) || (p.isDigit && isAlphabetic c)

theorem startsWord_eq (p c : Char) (next : Option Char) :
    startsWord p c next = ((isLowercase p && isUppercase c ||
      isUppercase p && isUppercase c && next.any isLowercase) || mixes p c) :=
  Bool.or_assoc _ _ _

def Unmixed (t : Text) : Prop := t.IsChain fun p c => mixes p c = false

theorem Recasing.unmixed (h : Recasing t u) (ht : Unmixed t) : Unmixed u := by
  induction h with
  | nil => exact .nil
  | @cons c d t u hcd h ih =>
    cases h with
    | nil => exact .singleton d
    | @cons c' d' t u hcd' h =>
      obtain ⟨hmix, ht⟩ := List.isChain_cons_cons.1 ht
      refine .cons_cons ?_ (ih ht)
      rwa [mixes, hcd.alphabetic, hcd.digit, hcd'.alphabetic, hcd'.digit]

theorem unmixed_of_mem_cutWords (h : w ∈ cutWords none t) : Unmixed w := by
  induction t generalizing w with
  | nil =>
    rw [List.mem_singleton.1 h]
    exact .nil
  | cons p t ih =>
    rw [cutWords_none_cons] at h
    cases t with
    | nil =>
      rw [List.mem_singleton.1 h]
      exact .singleton p
    | cons c t =>
      rw [cutWords_some_cons] at h
      split at h
      · rcases List.mem_cons.1 h with rfl | h
        · exact .singleton p
        · exact ih h
      · -- `p` is put in front of the first piece, which begins with `c`
        rename_i hstart
        rw [startsWord_eq, Bool.or_eq_true, not_or, Bool.not_eq_true, Bool.not_eq_true] at hstart
        rw [cutWords_none_cons] at h ih
        cases hs : cutWords (some c) t with
        | nil => exact absurd hs (cutWords_ne_nil _ t)
        | cons v vs =>
          rw [hs] at h ih
          rcases List.mem_cons.1 h with rfl | h
          · exact .cons_cons hstart.2 (ih List.mem_cons_self)
          · exact ih (List.mem_cons_of_mem _ h)

/-- A word of a name in ASCII. -/
structure IsWord (w : Text) : Prop where
  ne_nil : w ≠ []
  ascii : w.isAscii = true
  lower : lowerText w = w
  small : ∀ c ∈ w, isUppercase c = false
  joined : ∀ c ∈ w, isWordSeparator c = false
  unmixed : Unmixed w

theorem isWord_of_mem_splitWords (ht : t.isAscii = true) (h : w ∈ splitWords t) : IsWord w := by
  have hne := ne_nil_of_mem_splitWords h
  obtain ⟨v, hv, rfl⟩ := List.mem_map.1 h
  obtain ⟨piece, hpiece, hcut⟩ := List.mem_flatMap.1 (List.mem_of_mem_filter hv)
  have hsub : ∀ c ∈ v, c ∈ piece := fun c hc => by
    rw [← flatten_cutWords none piece]
    exact List.mem_flatten.2 ⟨v, hcut, hc⟩
  have hascii : v.isAscii = true := Text.isAscii_iff.2 fun c hc => by
    have hmem : c ∈ (Text.splitWhere isWordSeparator t).flatten :=
      List.mem_flatten.2 ⟨piece, hpiece, hsub c hc⟩
    rw [Text.flatten_splitWhere] at hmem
    exact Text.isAscii_iff.1 ht c (List.mem_of_mem_filter hmem)
  have hcase := recasing_lowerText hascii
  refine ⟨hne, hcase.isAscii, hcase.lowerText_eq hascii, fun c hc => ?_,
    hcase.joined fun c hc => Text.all_of_mem_splitWhere hpiece c (hsub c hc),
    hcase.unmixed (unmixed_of_mem_cutWords hcut)⟩
  rw [lowerText_of_isAscii hascii] at hc
  obtain ⟨d, hd, rfl⟩ := List.mem_map.1 hc
  exact (ascii_recased (Text.isAscii_iff.1 hascii d hd)).2.2.2

/-! Conversion. -/

def Case.joint : Case → Text
  | snake => ['_']
  | camel | pascal | upper => []

/-- Words as a case writes them. -/
def Casing.spelled (c : Casing) : Case → List Text → List Text
  | .camel, first :: rest => first :: rest.map c.hump
  | .camel, [] => []
  | .pascal, words => words.map c.hump
  | .snake, words | .upper, words => words.map upperText

theorem intercalate_nil (ts : List Text) : List.intercalate [] ts = ts.flatten := by
  induction ts with
  | nil => rfl
  | cons t ts ih =>
    cases ts with
    | nil => rfl
    | cons u ts =>
      rw [List.intercalate_cons_cons, ih, List.append_nil]
      rfl

theorem Casing.convert_eq (c : Casing) (t : Text) (case : Case) :
    c.convert t case = List.intercalate case.joint (c.spelled case (splitWords t)) := by
  cases case with
  | camel =>
    rw [convert, Case.joint, intercalate_nil]
    cases splitWords t with
    | nil => rfl
    | cons first rest => exact congrArg (first ++ ·) List.flatMap_def
  | pascal => rw [convert, Case.joint, intercalate_nil, spelled, List.flatMap_def]
  | snake => rfl
  | upper => rw [convert, Case.joint, intercalate_nil, spelled, List.flatMap_def]

theorem Casing.recasing_spelled (c : Casing) (case : Case) (h : ∀ t ∈ ts, t.isAscii = true) :
    List.Forall₂ Recasing ts (c.spelled case ts) := by
  have hmap : ∀ {us : List Text} {f : Text → Text}, (∀ t ∈ us, Recasing t (f t)) →
      List.Forall₂ Recasing us (us.map f) := fun h =>
    List.forall₂_map_right_iff.2 (List.forall₂_same.2 h)
  cases case with
  | camel =>
    cases ts with
    | nil => exact .nil
    | cons first rest =>
      obtain ⟨hfirst, hrest⟩ := List.forall_mem_cons.1 h
      exact .cons (recasing_self hfirst) (hmap fun t ht => recasing_hump c (hrest t ht))
  | pascal => exact hmap fun t ht => recasing_hump c (h t ht)
  | snake => exact hmap fun t ht => recasing_upperText (h t ht)
  | upper => exact hmap fun t ht => recasing_upperText (h t ht)

/-- The words can be read back from the way in which they are written. -/
theorem Casing.map_lowerText_spelled (c : Casing) (case : Case) (h : ∀ w ∈ ts, IsWord w) :
    (c.spelled case ts).map lowerText = ts := by
  have hcase := c.recasing_spelled case fun w hw => (h w hw).ascii
  generalize c.spelled case ts = us at hcase
  induction hcase with
  | nil => rfl
  | cons hwu _ ih =>
    obtain ⟨hw, h⟩ := List.forall_mem_cons.1 h
    rw [List.map_cons, hwu.lowerText_eq hw.ascii, hw.lower, ih h]

theorem lowerText_intercalate (t : Text) (ts : List Text) :
    lowerText (List.intercalate t ts) = List.intercalate (lowerText t) (ts.map lowerText) := by
  induction ts with
  | nil => rfl
  | cons u ts ih =>
    cases ts with
    | nil => rw [List.intercalate_singleton, List.map_singleton, List.intercalate_singleton]
    | cons v ts =>
      rw [List.intercalate_cons_cons, lowerText_append, lowerText_append, ih]
      exact List.intercalate_cons_cons.symm

theorem Casing.lowerText_convert (c : Casing) (ht : t.isAscii = true) (case : Case) :
    lowerText (c.convert t case) = List.intercalate case.joint (splitWords t) := by
  have hjoint : lowerText case.joint = case.joint := by cases case <;> rfl
  rw [convert_eq, lowerText_intercalate, hjoint,
    c.map_lowerText_spelled case fun w hw => isWord_of_mem_splitWords ht hw]

theorem filter_intercalate {p : Char → Bool} (ht : t.filter p = [])
    (hts : ∀ u ∈ ts, ∀ c ∈ u, p c = true) : (List.intercalate t ts).filter p = ts.flatten := by
  induction ts with
  | nil => rfl
  | cons u ts ih =>
    obtain ⟨hu, hts⟩ := List.forall_mem_cons.1 hts
    cases ts with
    | nil => rw [List.intercalate_singleton, List.flatten_singleton, List.filter_eq_self.2 hu]
    | cons v ts =>
      rw [List.intercalate_cons_cons, List.filter_append, List.filter_append, ht, ih hts,
        List.filter_eq_self.2 hu, List.append_nil]
      rfl

theorem Casing.filter_lowerText_convert (c : Casing) (ht : t.isAscii = true) (case : Case) :
    (lowerText (c.convert t case)).filter (fun d => d != '_') = (splitWords t).flatten := by
  rw [c.lowerText_convert ht]
  refine filter_intercalate (by cases case <;> rfl) fun w hw d hd => ?_
  have hjoined := (isWord_of_mem_splitWords ht hw).joined d hd
  rw [bne_iff_ne]
  rintro rfl
  cases hjoined

/-! Words that are joined. -/

theorem splitWords_append_cons {c : Char} (hc : isWordSeparator c = true) (t u : Text) :
    splitWords (t ++ c :: u) = splitWords t ++ splitWords u := by
  simp only [splitWords, Text.splitWhere_append_cons hc, List.flatMap_append, List.filter_append,
    List.map_append]

theorem splitWords_of_joined (h : ∀ c ∈ t, isWordSeparator c = false) :
    splitWords t = ((cutWords none t).filter fun w => !w.isEmpty).map lowerText := by
  rw [splitWords, Text.splitWhere_of_all h, List.flatMap_singleton]

theorem splitWords_of_unbroken (ht : t ≠ []) (hjoined : ∀ c ∈ t, isWordSeparator c = false)
    (h : Unbroken none t) : splitWords t = [lowerText t] := by
  rw [splitWords_of_joined hjoined, cutWords_none_of_unbroken ht h,
    List.filter_cons_of_pos (by simpa using ht)]
  rfl

theorem splitWords_intercalate (hts : ∀ t ∈ ts, splitWords t = [lowerText t]) :
    splitWords (List.intercalate ['_'] ts) = ts.map lowerText := by
  induction ts with
  | nil => rfl
  | cons t ts ih =>
    obtain ⟨ht, hts⟩ := List.forall_mem_cons.1 hts
    cases ts with
    | nil => rw [List.intercalate_singleton, ht, List.map_singleton]
    | cons u ts =>
      rw [List.intercalate_cons_cons, List.append_assoc, List.singleton_append,
        splitWords_append_cons rfl, ht, ih hts]
      rfl

theorem unbroken_of_no_small {follow : Option Char} (h : Unmixed t)
    (hsmall : ∀ c ∈ t, isLowercase c = false) (hfollow : follow.any isLowercase = false) :
    Unbroken follow t := by
  fun_induction Unbroken follow t with
  | case1 p c t ih =>
    obtain ⟨hmix, h⟩ := List.isChain_cons_cons.1 h
    obtain ⟨hp, hsmall⟩ := List.forall_mem_cons.1 hsmall
    refine ⟨?_, ih h hsmall⟩
    have hnext : (t.head?.or follow).any isLowercase = false := by
      cases t with
      | nil => exact hfollow
      | cons d t => exact hsmall d (List.mem_cons_of_mem c List.mem_cons_self)
    rw [startsWord_eq, hmix, hp, hnext]
    simp
  | case2 => trivial

theorem isLowercase_of_mem_upperText (ht : t.isAscii = true) {c : Char} (hc : c ∈ upperText t) :
    isLowercase c = false := by
  rw [upperText_of_isAscii ht] at hc
  obtain ⟨d, hd, rfl⟩ := List.mem_map.1 hc
  exact (ascii_toUpper (Text.isAscii_iff.1 ht d hd)).2.2.2

theorem Recasing.ne_nil (h : Recasing t u) (ht : t ≠ []) : u ≠ [] := by
  cases h with
  | nil => exact absurd rfl ht
  | cons => exact List.cons_ne_nil _ _

theorem splitWords_upperText (h : IsWord w) :
    splitWords (upperText w) = [lowerText (upperText w)] := by
  have hcase := recasing_upperText h.ascii
  exact splitWords_of_unbroken (hcase.ne_nil h.ne_nil) (hcase.joined h.joined)
    (unbroken_of_no_small (hcase.unmixed h.unmixed)
      (fun c hc => isLowercase_of_mem_upperText h.ascii hc) rfl)

theorem Casing.splitWords_convert_snake (c : Casing) (ht : t.isAscii = true) :
    splitWords (c.convert t .snake) = splitWords t := by
  have hwords : ∀ w ∈ splitWords t, IsWord w := fun w hw => isWord_of_mem_splitWords ht hw
  refine Eq.trans (splitWords_intercalate fun u hu => ?_) (c.map_lowerText_spelled .snake hwords)
  obtain ⟨w, hw, rfl⟩ := List.mem_map.1 hu
  exact splitWords_upperText (hwords w hw)

theorem Casing.convert_convert_snake (c : Casing) (ht : t.isAscii = true) (case : Case) :
    c.convert (c.convert t .snake) case = c.convert t case := by
  rw [c.convert_eq, c.splitWords_convert_snake ht, ← c.convert_eq]

/-- What stays of a name: cutting it into words drops the separators only, no case loses or adds a
letter, and after `_` was put between the words nothing about them is lost. -/
structure Text.KeepsLetters (t : Text) : Prop where
  letters : (splitWords t).flatten = lowerText (t.filter fun d => !isWordSeparator d)
  words : ∀ w ∈ splitWords t, w ≠ []
  converted : t.isAscii = true → ∀ (c : Casing) (case : Case),
    (lowerText (c.convert t case)).filter (fun d => d != '_') = (splitWords t).flatten
  snake : t.isAscii = true → ∀ c : Casing, splitWords (c.convert t .snake) = splitWords t
  reconverted : t.isAscii = true → ∀ (c : Casing) (case : Case),
    c.convert (c.convert t .snake) case = c.convert t case

theorem Text.keepsLetters (t : Text) : t.KeepsLetters where
  letters := flatten_splitWords t
  words _ hw := ne_nil_of_mem_splitWords hw
  converted ht c case := c.filter_lowerText_convert ht case
  snake ht c := c.splitWords_convert_snake ht
  reconverted ht c case := c.convert_convert_snake ht case

theorem Text.keepsLetters_mixed :
    Text.isAscii "fooBar-v2".toList = true ∧
      Casing.default.convert (Casing.default.convert "fooBar-v2".toList .snake) .snake =
        "FOO_BAR_V_2".toList := by
  refine ⟨by decide, ?_⟩
  rw [(Text.keepsLetters "fooBar-v2".toList).reconverted (by decide)]
  decide

end ScriptLint
