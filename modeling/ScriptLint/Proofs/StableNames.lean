import ScriptLint.Proofs.ConvertedNames
import ScriptLint.Rule.ExportName

/-! Converted names that stay as they are. In capitals, or with `_` between the words, a name is in
its own case. Where words begin with capitals, neighbours can run together, and then the name stays
only if what they become is written as they are. A default export is asked to have the name of its
file if that name stays. -/
namespace ScriptLint

open Unicode

variable {t u w : Text} {ts : List Text} {c : Casing} {case : Case}

theorem upperText_flatten (ts : List Text) : upperText ts.flatten = ts.flatMap upperText := by
  rw [upperText, ← List.flatMap_id, List.flatMap_assoc]
  rfl

/-! Words as parts of a name. -/

theorem unbroken_of_small_tail (h : Unmixed t) (hsmall : ∀ d ∈ t.tail, isUppercase d = false)
    (follow : Option Char) : Unbroken follow t := by
  fun_induction Unbroken follow t with
  | case1 p d t ih =>
    obtain ⟨hmix, h⟩ := List.isChain_cons_cons.1 h
    obtain ⟨hd, hsmall⟩ := List.forall_mem_cons.1 hsmall
    refine ⟨?_, ih h hsmall⟩
    rw [startsWord_eq, hmix, hd]
    simp
  | case2 => trivial

theorem IsWord.isPart (h : IsWord w) : IsPart w :=
  ⟨h.ne_nil, fun follow _ =>
    unbroken_of_small_tail h.unmixed (fun d hd => h.small d (List.mem_of_mem_tail hd)) follow⟩

theorem fronted_of_forall (h : ∀ d ∈ t, isLowercase d = false) : Fronted t := by
  cases t with
  | nil => rfl
  | cons d t => exact h d List.mem_cons_self

theorem IsWord.isPart_upperText (h : IsWord w) : IsPart (upperText w) ∧ Fronted (upperText w) := by
  have hcase := recasing_upperText h.ascii
  have hcapitals : ∀ d ∈ upperText w, isLowercase d = false := fun d hd =>
    isLowercase_of_mem_upperText h.ascii hd
  exact ⟨⟨hcase.ne_nil h.ne_nil, fun follow hfollow =>
    unbroken_of_no_small (hcase.unmixed h.unmixed) hcapitals hfollow⟩, fronted_of_forall hcapitals⟩

theorem IsWord.isPart_capitalize (h : IsWord w) :
    IsPart (capitalize w) ∧ Fronted (capitalize w) := by
  have hcase := recasing_capitalize h.ascii
  refine ⟨⟨hcase.ne_nil h.ne_nil, fun follow _ =>
    unbroken_of_small_tail (hcase.unmixed h.unmixed) ?_ follow⟩, ?_⟩
  all_goals
    obtain ⟨d, w, rfl⟩ := List.exists_cons_of_ne_nil h.ne_nil
    have hd := Text.isAscii_iff.1 h.ascii d List.mem_cons_self
    rw [capitalize, toUpper_of_lt hd]
  · exact (List.forall_mem_cons.1 h.small).2
  · exact (ascii_toUpper hd).2.2.2

theorem IsWord.isPart_hump (h : IsWord w) (c : Casing) :
    IsPart (c.hump w) ∧ Fronted (c.hump w) := by
  rw [Casing.hump]
  split
  · exact h.isPart_upperText
  · exact h.isPart_capitalize

/-! Names without anything between the words. -/

theorem recasing_of_mem_spelled (h : ∀ w ∈ ts, IsWord w) (hu : u ∈ c.spelled case ts) :
    ∃ w, IsWord w ∧ Recasing w u := by
  have hcase := c.recasing_spelled case fun w hw => (h w hw).ascii
  generalize c.spelled case ts = us at hcase hu
  induction hcase with
  | nil => cases hu
  | @cons w v _ _ hwv _ ih =>
    obtain ⟨hw, h⟩ := List.forall_mem_cons.1 h
    rcases List.mem_cons.1 hu with rfl | hu
    · exact ⟨w, hw, hwv⟩
    · exact ih h hu

theorem cutWords_spelled (c : Casing) (case : Case) (h : ∀ w ∈ ts, IsWord w) (hne : ts ≠ []) :
    cutWords none (c.spelled case ts).flatten = runs (c.spelled case ts) := by
  obtain ⟨w, ws, rfl⟩ := List.exists_cons_of_ne_nil hne
  obtain ⟨hw, hws⟩ := List.forall_mem_cons.1 h
  have hmap : ∀ {f : Text → Text}, (∀ w, IsWord w → IsPart (f w) ∧ Fronted (f w)) →
      ∀ u ∈ ws.map f, IsPart u ∧ Fronted u := fun hf =>
    List.forall_mem_map.2 fun w hw => hf w (hws w hw)
  cases case with
  | camel => exact cutWords_flatten hw.isPart (hmap fun w hw => hw.isPart_hump c)
  | pascal => exact cutWords_flatten (hw.isPart_hump c).1 (hmap fun w hw => hw.isPart_hump c)
  | snake => exact cutWords_flatten hw.isPart_upperText.1 (hmap fun w hw => hw.isPart_upperText)
  | upper => exact cutWords_flatten hw.isPart_upperText.1 (hmap fun w hw => hw.isPart_upperText)

theorem splitWords_spelled (c : Casing) (case : Case) (h : ∀ w ∈ ts, IsWord w) :
    splitWords (c.spelled case ts).flatten = (runs (c.spelled case ts)).map lowerText := by
  rcases eq_or_ne ts [] with rfl | hne
  · cases case <;> rfl
  have hjoined : ∀ d ∈ (c.spelled case ts).flatten, isWordSeparator d = false := fun d hd => by
    obtain ⟨u, hu, hd⟩ := List.mem_flatten.1 hd
    obtain ⟨w, hw, hwu⟩ := recasing_of_mem_spelled h hu
    exact hwu.joined hw.joined d hd
  have hne_nil : ∀ u ∈ c.spelled case ts, u ≠ [] := fun u hu => by
    obtain ⟨w, hw, hwu⟩ := recasing_of_mem_spelled h hu
    exact hwu.ne_nil hw.ne_nil
  rw [splitWords_of_joined hjoined, cutWords_spelled c case h hne, List.filter_eq_self.2]
  intro r hr
  simpa using ne_nil_of_mem_runs hne_nil r hr

theorem isAscii_of_mem_runs (h : ∀ w ∈ ts, IsWord w) {r : Text}
    (hr : r ∈ runs (c.spelled case ts)) : r.isAscii = true := by
  refine Text.isAscii_iff.2 fun d hd => ?_
  have hmem : d ∈ (c.spelled case ts).flatten := by
    rw [← flatten_runs]
    exact List.mem_flatten.2 ⟨r, hr, hd⟩
  obtain ⟨u, hu, hd⟩ := List.mem_flatten.1 hmem
  obtain ⟨w, -, hwu⟩ := recasing_of_mem_spelled h hu
  exact Text.isAscii_iff.1 hwu.isAscii d hd

theorem map_length_spelled (c : Casing) (case : Case) (h : ∀ t ∈ ts, t.isAscii = true) :
    (c.spelled case ts).map List.length = ts.map List.length := by
  have hcase := c.recasing_spelled case h
  generalize c.spelled case ts = us at hcase
  clear h
  induction hcase with
  | nil => rfl
  | cons htu _ ih => rw [List.map_cons, List.map_cons, ih, htu.length_eq]

/-- Whether the words that the written ones run together to are written the same way. -/
def Casing.KeepsRuns (c : Casing) (case : Case) (words : List Text) : Prop :=
  c.spelled case ((runs (c.spelled case words)).map lowerText) = runs (c.spelled case words)

instance (c : Casing) (case : Case) (words : List Text) : Decidable (c.KeepsRuns case words) :=
  inferInstanceAs (Decidable (_ = _))

theorem Casing.convert_eq_flatten (c : Casing) (hcase : case ≠ .snake) (t : Text) :
    c.convert t case = (c.spelled case (splitWords t)).flatten := by
  have hjoint : case.joint = [] := by
    cases case with
    | snake => exact absurd rfl hcase
    | camel | pascal | upper => rfl
  rw [c.convert_eq, hjoint, intercalate_nil]

theorem Casing.isWritten_convert_iff (c : Casing) (hcase : case ≠ .snake)
    (ht : t.isAscii = true) :
    c.isWritten (c.convert t case) case = true ↔ c.KeepsRuns case (splitWords t) := by
  have hwords : ∀ w ∈ splitWords t, IsWord w := fun w hw => isWord_of_mem_splitWords ht hw
  have hrecased : ∀ r ∈ runs (c.spelled case (splitWords t)), Recasing r (lowerText r) :=
    fun r hr => recasing_lowerText (isAscii_of_mem_runs hwords hr)
  -- lists of texts with the same letters are the same if the texts are as long
  have hlength : (c.spelled case ((runs (c.spelled case (splitWords t))).map lowerText)).map
      List.length = (runs (c.spelled case (splitWords t))).map List.length := by
    rw [map_length_spelled c case (List.forall_mem_map.2 fun r hr => (hrecased r hr).isAscii),
      List.map_map]
    exact List.map_congr_left fun r hr => (hrecased r hr).length_eq.symm
  rw [isWritten, beq_iff_eq, c.convert_eq_flatten hcase, c.convert_eq_flatten hcase t,
    splitWords_spelled c case hwords, KeepsRuns, List.eq_iff_flatten_eq, flatten_runs]
  exact (and_iff_left hlength).symm

example : ¬(⟨none⟩ : Casing).KeepsRuns .pascal [['a'], ['b']] := by decide

theorem Casing.isWritten_convert_snake (c : Casing) (ht : t.isAscii = true) :
    c.isWritten (c.convert t .snake) .snake = true :=
  beq_iff_eq.2 (c.convert_convert_snake ht .snake)

theorem Casing.isWritten_convert_upper (c : Casing) (ht : t.isAscii = true) :
    c.isWritten (c.convert t .upper) .upper = true := by
  have hupper : ∀ u, c.convert u .upper = upperText (splitWords u).flatten := fun u =>
    (upperText_flatten (splitWords u)).symm
  have hwords : (splitWords (c.convert t .upper)).flatten = (splitWords t).flatten := by
    have hts : ∀ w ∈ splitWords t, IsWord w := fun w hw => isWord_of_mem_splitWords ht hw
    rw [c.convert_eq_flatten (by decide), splitWords_spelled c _ hts, ← lowerText_flatten,
      flatten_runs, lowerText_flatten, c.map_lowerText_spelled _ hts]
  rw [isWritten, beq_iff_eq, hupper, hwords, ← hupper]

/-- A written name in which every word can be seen to start keeps its runs. -/
theorem Casing.keepsRuns_of_apart (c : Casing) (h : ∀ w ∈ ts, IsWord w)
    (hapart : (c.spelled case ts).IsChain fun u v => runsOn u v = false) : c.KeepsRuns case ts := by
  rw [KeepsRuns, runs_eq_self hapart, c.map_lowerText_spelled case h]

/-! Words of letters. -/

theorem Unicode.ascii_letter {d : Char} (h : d.toNat < 128) (hd : isAlphabetic d = true) :
    isUppercase d.toUpper = true ∧ (isUppercase d = false → isLowercase d = true) := by
  have hall : ∀ n ∈ List.range 128, isAlphabetic (Char.ofNat n) = true →
      isUppercase (Char.ofNat n).toUpper = true ∧
        (isUppercase (Char.ofNat n) = false → isLowercase (Char.ofNat n) = true) := by
    decide +kernel
  have hall := hall d.toNat (List.mem_range.2 h)
  rw [Char.ofNat_toNat] at hall
  exact hall hd

def Casing.isTall (c : Casing) (w : Text) : Bool := c.isAcronym w || w.length == 1

/-- The letters at the ends of a text that starts with a capital and goes on in capitals, if it is
tall, or in small letters. -/
structure IsHump (tall : Bool) (t : Text) : Prop where
  head : t.head?.any isUppercase = true
  last : t.getLast?.any (if tall then isUppercase else isLowercase) = true
  next : tall = false → t.tail.head?.any isLowercase = true

theorem runsOn_of_small_last (ht : t.getLast?.any isLowercase = true)
    (hu : u.head?.any isUppercase = true) : runsOn t u = false := by
  obtain ⟨p, hp, hsmall⟩ := Option.any_eq_true _ _ |>.1 ht
  cases u with
  | nil => cases hu
  | cons d u =>
    have hd : isUppercase d = true := hu
    simp only [runsOn, hp, startsWord, hsmall, hd]
    rfl

theorem runsOn_of_isHump {a b : Bool} (ht : IsHump a t) (hu : IsHump b u)
    (h : ¬(a = true ∧ b = true)) : runsOn t u = false := by
  cases a with
  | false => exact runsOn_of_small_last ht.last hu.head
  | true =>
    have hb : b = false := by simpa using h
    have hnext := hu.next hb
    obtain ⟨p, hp, hcapital⟩ := Option.any_eq_true _ _ |>.1 ht.last
    have hcapital : isUppercase p = true := hcapital
    cases hs : u with
    | nil =>
      rw [hs] at hnext
      cases hnext
    | cons d v =>
      have hd : isUppercase d = true := by
        have hhead := hu.head
        rwa [hs] at hhead
      have hv : v.head?.any isLowercase = true := by rwa [hs] at hnext
      simp [runsOn, hp, startsWord, hcapital, hd, hv]

theorem IsWord.isLowercase (h : IsWord w) (hletters : ∀ d ∈ w, isAlphabetic d = true) :
    ∀ d ∈ w, Unicode.isLowercase d = true := fun d hd =>
  (ascii_letter (Text.isAscii_iff.1 h.ascii d hd) (hletters d hd)).2 (h.small d hd)

theorem getLast?_any {p : Char → Bool} (hne : t ≠ []) (h : ∀ d ∈ t, p d = true) :
    t.getLast?.any p = true := by
  rw [List.getLast?_eq_some_getLast hne]
  exact h _ (List.getLast_mem hne)

theorem IsWord.isHump_upperText (h : IsWord w) (hletters : ∀ d ∈ w, isAlphabetic d = true) :
    IsHump true (upperText w) := by
  have hcapitals : ∀ d ∈ upperText w, isUppercase d = true := fun d hd => by
    rw [upperText_of_isAscii h.ascii] at hd
    obtain ⟨e, he, rfl⟩ := List.mem_map.1 hd
    exact (ascii_letter (Text.isAscii_iff.1 h.ascii e he) (hletters e he)).1
  have hne : upperText w ≠ [] := (recasing_upperText h.ascii).ne_nil h.ne_nil
  refine ⟨?_, getLast?_any hne hcapitals, nofun⟩
  rw [List.head?_eq_some_head hne]
  exact hcapitals _ (List.head_mem hne)

theorem IsWord.isHump_hump (h : IsWord w) (hletters : ∀ d ∈ w, isAlphabetic d = true) (c : Casing) :
    IsHump (c.isTall w) (c.hump w) := by
  rw [Casing.isTall, Casing.hump]
  cases c.isAcronym w with
  | true => exact h.isHump_upperText hletters
  | false =>
    obtain ⟨d, w, rfl⟩ := List.exists_cons_of_ne_nil h.ne_nil
    cases w with
    | nil =>
      have htall := h.isHump_upperText hletters
      rwa [upperText, List.flatMap_singleton, ← List.append_nil (toUpper d)] at htall
    | cons e w =>
      have hsmall := (List.forall_mem_cons.1 (h.isLowercase hletters)).2
      have hd := Text.isAscii_iff.1 h.ascii d List.mem_cons_self
      have hlast := getLast?_any (List.cons_ne_nil e w) hsmall
      rw [if_neg Bool.false_ne_true, capitalize, toUpper_of_lt hd]
      exact ⟨(ascii_letter hd (hletters d List.mem_cons_self)).1, hlast,
        fun _ => hsmall e List.mem_cons_self⟩

theorem isChain_hump (c : Casing) (h : ∀ w ∈ ts, IsWord w)
    (hletters : ∀ w ∈ ts, ∀ d ∈ w, isAlphabetic d = true)
    (htall : ts.IsChain fun w v => ¬(c.isTall w = true ∧ c.isTall v = true)) :
    (ts.map c.hump).IsChain fun u v => runsOn u v = false := by
  have hhump : ∀ w ∈ ts, IsHump (c.isTall w) (c.hump w) := fun w hw =>
    (h w hw).isHump_hump (hletters w hw) c
  exact (List.isChain_map c.hump).2 (htall.imp_of_mem_imp fun w v hw hv =>
    runsOn_of_isHump (hhump w hw) (hhump v hv))

def Case.humps : Case → List Text → List Text
  | camel, words => words.tail
  | pascal, words => words
  | snake, _ | upper, _ => []

theorem isChain_spelled (c : Casing) (hcase : case = .camel ∨ case = .pascal)
    (h : ∀ w ∈ ts, IsWord w) (hletters : ∀ w ∈ ts, ∀ d ∈ w, isAlphabetic d = true)
    (htall : (case.humps ts).IsChain fun w v => ¬(c.isTall w = true ∧ c.isTall v = true)) :
    (c.spelled case ts).IsChain fun u v => runsOn u v = false := by
  rcases hcase with rfl | rfl
  · cases ts with
    | nil => exact .nil
    | cons w ws =>
      obtain ⟨hw, hws⟩ := List.forall_mem_cons.1 h
      obtain ⟨hwletters, hwsletters⟩ := List.forall_mem_cons.1 hletters
      have hrest := isChain_hump c hws hwsletters htall
      cases ws with
      | nil => exact .singleton w
      | cons v ws =>
        have hhump := (hws v List.mem_cons_self).isHump_hump (hwsletters v List.mem_cons_self) c
        have hlast := getLast?_any hw.ne_nil (hw.isLowercase hwletters)
        exact .cons_cons (runsOn_of_small_last hlast hhump.head) hrest
  · exact isChain_hump c h hletters htall

/-! Default exports. -/

namespace ExportName

def request (f : SourceFile) (e : Export) (expected actual : String) : Option Finding :=
  if actual = expected || !isValidIdentifier expected then none
  else
    some ⟨f.tree.span e.identifier,
      s!"Expected the default export \"{actual}\" to be named \"{expected}\" after its file.",
      e.bound.bind fun v => f.renameFix? v actual expected⟩

theorem checkNode_of_isWritten {o : Options} {f : SourceFile} {id declaration : NodeId} {e : Export}
    {base : Text} (hkind : f.tree.kind id = .exportDefaultDeclaration declaration)
    (hexport : exported? f declaration = some e)
    (hbase : (Path.ofString f.path).moduleBaseName? = some base)
    (hwritten : o.casing.isWritten base e.case = true) :
    checkNode o f id =
      (f.tree.identifierName? e.identifier).bind (request f e (String.ofList base)) := by
  rw [Casing.isWritten, beq_iff_eq] at hwritten
  simp only [checkNode, hkind, hexport, hbase, hwritten, Option.bind_eq_bind, Option.bind_some]
  rfl

end ExportName

/-- Which converted names are in their own case, and what default exports of files that have such
names are asked for. -/
structure Casing.Stable (c : Casing) (t : Text) : Prop where
  snake : c.isWritten (c.convert t .snake) .snake = true
  upper : c.isWritten (c.convert t .upper) .upper = true
  humps : ∀ case : Case, case = .camel ∨ case = .pascal →
    (c.isWritten (c.convert t case) case = true ↔ c.KeepsRuns case (splitWords t))
  letters : ∀ case : Case, case = .camel ∨ case = .pascal →
    (∀ w ∈ splitWords t, ∀ d ∈ w, isAlphabetic d = true) →
    ((case.humps (splitWords t)).IsChain fun w v => ¬(c.isTall w = true ∧ c.isTall v = true)) →
      c.isWritten (c.convert t case) case = true
  exported : ∀ (f : SourceFile) (id declaration : NodeId) (e : ExportName.Export),
    f.tree.kind id = .exportDefaultDeclaration declaration →
    ExportName.exported? f declaration = some e →
    (Path.ofString f.path).moduleBaseName? = some (c.convert t e.case) →
    c.isWritten (c.convert t e.case) e.case = true →
      ExportName.checkNode ⟨c⟩ f id = (f.tree.identifierName? e.identifier).bind
        (ExportName.request f e (String.ofList (c.convert t e.case)))

theorem Casing.stable (c : Casing) (ht : t.isAscii = true) : c.Stable t := by
  have hwords : ∀ w ∈ splitWords t, IsWord w := fun w hw => isWord_of_mem_splitWords ht hw
  have hne : ∀ {case : Case}, case = .camel ∨ case = .pascal → case ≠ .snake := by
    rintro case (rfl | rfl) <;> decide
  exact {
    snake := c.isWritten_convert_snake ht
    upper := c.isWritten_convert_upper ht
    humps := fun case hcase => c.isWritten_convert_iff (hne hcase) ht
    letters := fun case hcase hletters htall =>
      (c.isWritten_convert_iff (hne hcase) ht).2
        (c.keepsRuns_of_apart hwords (isChain_spelled c hcase hwords hletters htall))
    exported := fun f id declaration e hkind hexport hbase hwritten =>
      ExportName.checkNode_of_isWritten hkind hexport hbase hwritten }

theorem Casing.stable_fooXBarBaz :
    Text.isAscii "foo-x-bar-baz".toList = true ∧
      (⟨none⟩ : Casing).isWritten ((⟨none⟩ : Casing).convert "foo-x-bar-baz".toList .camel) .camel =
        true := by
  have hwords : splitWords "foo-x-bar-baz".toList =
      [['f', 'o', 'o'], ['x'], ['b', 'a', 'r'], ['b', 'a', 'z']] := by decide
  have hletters : ∀ w ∈ splitWords "foo-x-bar-baz".toList, ∀ d ∈ w, isAlphabetic d = true := by
    rw [hwords]
    simp [isAlphabetic]
  have htall : (Case.camel.humps (splitWords "foo-x-bar-baz".toList)).IsChain fun w v =>
      ¬((⟨none⟩ : Casing).isTall w = true ∧ (⟨none⟩ : Casing).isTall v = true) := by
    rw [hwords]
    decide
  exact ⟨by decide, (Casing.stable ⟨none⟩ (by decide)).letters .camel (.inl rfl) hletters htall⟩

theorem Casing.not_isWritten_convert :
    ¬∀ (t : Text) (case : Case), t.isAscii = true →
      Casing.default.isWritten (Casing.default.convert t case) case = true := by
  intro hall
  have hwords : splitWords "a$-b".toList = ["a$".toList, "b".toList] := by decide
  have hmerged : splitWords "a$B".toList = ["a$b".toList] := by decide
  have hhump : Casing.default.hump "b".toList = "B".toList := ite_self _
  have hconvert : Casing.default.convert "a$-b".toList .camel = "a$B".toList := by
    simp only [convert, hwords, List.flatMap_cons, hhump]
    decide
  have hwritten := hall "a$-b".toList .camel (by decide)
  rw [hconvert, isWritten, beq_iff_eq, convert, hmerged] at hwritten
  revert hwritten
  decide

end ScriptLint
