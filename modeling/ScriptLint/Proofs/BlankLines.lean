import ScriptLint.Proofs.BlankLineEdits
import ScriptLint.Proofs.TokenNavigation

/-! Blank lines put in and taken out between any two places of a text. The text is cut into the line
of the first place, whole lines, and the line of the last place; what an edit makes of it is the same
cut with other lines between, so the lines of the new text can be read off. -/
namespace ScriptLint

namespace Edit.Turns

variable {e : Edit} {u m m' : Text}

theorem apply_single (h : e.Turns u.size m m') (w : Text) :
    (Patch.single e).apply (u ++ m ++ w) = .ok (u ++ m' ++ w) := by
  obtain ⟨m₁, cut, m₂, rfl, rfl, hstart, hstop⟩ := h
  have htake := Text.splitAt?_append (u ++ m₁) (cut ++ m₂ ++ w)
  have hdrop := Text.splitAt?_append (u ++ m₁ ++ cut) (m₂ ++ w)
  have hsize : ¬(u ++ m₁ ++ cut ++ (m₂ ++ w)).size < e.span.stop := by
    rw [Text.size_append (u ++ m₁ ++ cut), Text.size_append (u ++ m₁), Text.size_append u]
    omega
  rw [Text.size_append u, ← hstart] at htake
  rw [Text.size_append (u ++ m₁), Text.size_append u, ← hstop] at hdrop
  have htext : u ++ (m₁ ++ cut ++ m₂) ++ w = u ++ m₁ ++ cut ++ (m₂ ++ w) := by
    simp only [List.append_assoc]
  have htext' : u ++ m₁ ++ cut ++ (m₂ ++ w) = u ++ m₁ ++ (cut ++ m₂ ++ w) := by
    simp only [List.append_assoc]
  rw [Patch.apply, Patch.single, Patch.applyEdits, Patch.applyEdits, Except.bind, Patch.applyEdit,
    htext, if_neg hsize, Text.take?, Text.drop?, hdrop, htext', htake]
  simp only [Option.map_some, List.append_assoc]

theorem shift_eq (h : e.Turns u.size m m') : Edit.shift [e] (u ++ m).size = (u ++ m').size := by
  obtain ⟨m₁, cut, m₂, rfl, rfl, hstart, hstop⟩ := h
  simp only [Edit.shift, List.map_cons, List.map_nil, List.sum_cons, List.sum_nil,
    Text.size_append]
  omega

theorem filter_eq (h : e.Turns u.size m m') (hm : m.all isBlank = true)
    (hput : e.replacement.toList.all isBlank = true) (w : Text) :
    (u ++ m' ++ w).filter (fun c => !isBlank c) = (u ++ m ++ w).filter fun c => !isBlank c := by
  have hnone {x : Text} (hx : x.all isBlank = true) : x.filter (fun c => !isBlank c) = [] := by
    simpa using hx
  simp only [List.filter_append, hnone hm, hnone (h.all hm hput)]

end Edit.Turns

namespace Source

/-- Where no blank line lies between two places one is put in between them, after which nothing is
left to do. -/
theorem establishes_ensureBlankLine? (s : Source) {first next : Nat}
    (hfirst : s.text.isBoundary first = true) (hnext : s.text.isBoundary next = true)
    (hle : first ≤ next) :
    (s.ensureBlankLine? first next = none → s.text.hasBlankLineBetween first next = true) ∧
      ∀ e, s.ensureBlankLine? first next = some e →
        first ≤ e.span.start ∧ e.span.start ≤ e.span.stop ∧ e.span.stop ≤ next ∧
          ∃ t, (Patch.single e).apply s.text = .ok t ∧
            t.hasBlankLineBetween first (Edit.shift [e] next) = true ∧
            (∀ s' : Source, s'.text = t →
              s'.ensureBlankLine? first (Edit.shift [e] next) = none) ∧
            ((s.text.slice first next).all isBlank = true →
              t.filter (fun c => !isBlank c) = s.text.filter fun c => !isBlank c) := by
  obtain ⟨u, m, w, htext, rfl, rfl⟩ := Text.exists_append_of_boundaries hfirst hnext hle
  have hslice : s.text.slice u.size (u ++ m).size = m := by rw [htext, Text.slice_append]
  by_cases hblank : s.text.hasBlankLineBetween u.size (u ++ m).size = true
  · refine ⟨fun _ => hblank, fun e he => ?_⟩
    rw [ensureBlankLine?, if_pos hblank] at he
    cases he
  have hnone : ¬m.HasBlankLine := by
    rwa [htext, Text.hasBlankLineBetween_iff] at hblank
  obtain ⟨e, m', hedit, hturns, hhas, hput, -⟩ := exists_ensureBlankLine? htext hnone
  rw [hedit]
  refine ⟨nofun, fun e' he' => ?_⟩
  cases he'
  have hinside := hturns.contains
  simp only [Span.contains, Bool.and_eq_true, decide_eq_true_eq] at hinside
  have hplaced := hturns.placed (w := w)
  have hthere : (u ++ m' ++ w).hasBlankLineBetween u.size (Edit.shift [e] (u ++ m).size) = true := by
    rw [hturns.shift_eq, Text.hasBlankLineBetween_iff]
    exact hhas
  refine ⟨hinside.1, hplaced.le, hinside.2, u ++ m' ++ w, ?_, hthere, ?_, ?_⟩
  · rw [htext, hturns.apply_single]
  · intro s' hs'
    rw [ensureBlankLine?, hs', if_pos hthere]
  · intro hall
    rw [hslice] at hall
    rw [hturns.filter_eq hall hput, htext]

def sharedLine : Source where
  path := "a.js"
  text := "a();\n\tb(); c();\r\n".toList
  tree := { nodes := #[⟨.program [] .script, ⟨0, 17⟩⟩], children := #[[]], parents := #[none], root := 0 }
  tokens := .ofList []

theorem establishes_ensureBlankLine?_sharedLine :
    sharedLine.text.isBoundary 10 = true ∧ sharedLine.text.isBoundary 11 = true ∧
      sharedLine.ensureBlankLine? 10 11 = some ⟨⟨10, 11⟩, "\r\n\r\n\t"⟩ ∧
      ∃ t, (Patch.single ⟨⟨10, 11⟩, "\r\n\r\n\t"⟩).apply sharedLine.text = .ok t ∧
        t.hasBlankLineBetween 10 15 = true ∧
        t.filter (fun c => !isBlank c) = sharedLine.text.filter fun c => !isBlank c := by
  have hfirst : sharedLine.text.isBoundary 10 = true := by decide
  have hnext : sharedLine.text.isBoundary 11 = true := by decide
  have hedit : sharedLine.ensureBlankLine? 10 11 = some ⟨⟨10, 11⟩, "\r\n\r\n\t"⟩ := by decide
  obtain ⟨-, -, -, t, happly, hblank, -, hfilter⟩ :=
    (establishes_ensureBlankLine? sharedLine hfirst hnext (by decide)).2 _ hedit
  exact ⟨hfirst, hnext, hedit, t, happly, hblank, hfilter (by decide)⟩

end Source

namespace Text

theorem contains_append (x y : Text) : (x ++ '\r' :: '\n' :: y).contains ['\r', '\n'] = true := by
  induction x with
  | nil => simp [contains, cut?, dropPrefix?]
  | cons c x ih =>
    rw [contains] at ih ⊢
    rw [List.cons_append, cut?]
    cases dropPrefix? (c :: (x ++ '\r' :: '\n' :: y)) ['\r', '\n'] with
    | some rest => rfl
    | none => rwa [Option.isSome_map]

/-- A text cut at two of its lines: what comes before them, the first one, whole lines between, the
second one, and what follows. -/
structure Cut where
  before : Text
  left : Text
  between : Text
  right : Text
  behind : Text
  endsLine_before : before.EndsLine
  left_free : '\n' ∉ left
  endsLine_between : between.EndsLine
  right_free : '\n' ∉ right
  startsFed_behind : behind.StartsFed

namespace Cut

variable (c : Cut)

def head : Text := c.before ++ c.left ++ '\n' :: c.between

def text : Text := c.head ++ c.right ++ c.behind

theorem endsLine_head : c.head.EndsLine := by
  rcases c.endsLine_between with h | ⟨between, h⟩
  · exact .inr ⟨c.before ++ c.left, by rw [head, h]⟩
  · exact .inr ⟨c.before ++ c.left ++ '\n' :: between, by simp [head, h]⟩

theorem text_eq : c.text = c.before ++ c.left ++ ('\n' :: c.between ++ c.right ++ c.behind) := by
  simp [text, head]

theorem lineOf_left {left left' : Text} (h : c.left = left ++ left') :
    c.text.lineOf (c.before ++ left).size = c.before.count '\n' + 1 := by
  have hfree := c.left_free
  rw [h, List.mem_append, not_or] at hfree
  rw [text_eq, h, ← List.append_assoc c.before, List.append_assoc, lineOf_append, List.count_append,
    List.count_eq_zero_of_not_mem hfree.1, Nat.add_zero]

theorem lineOf_right {right right' : Text} (h : c.right = right ++ right') :
    c.text.lineOf (c.head ++ right).size = c.head.count '\n' + 1 := by
  have hfree := c.right_free
  rw [h, List.mem_append, not_or] at hfree
  rw [text, h, ← List.append_assoc c.head, List.append_assoc, lineOf_append, List.count_append,
    List.count_eq_zero_of_not_mem hfree.1, Nat.add_zero]

theorem count_head : c.head.count '\n' = c.before.count '\n' + c.between.count '\n' + 1 := by
  simp only [head, List.count_append, List.count_cons_self,
    List.count_eq_zero_of_not_mem c.left_free]
  omega

theorem lineEnd?_left :
    c.text.lineEnd? (c.before.count '\n' + 1) = some (c.before ++ c.left.chomp).size := by
  rw [text_eq]
  exact lineEnd?_append c.endsLine_before c.left_free (.inr ⟨_, rfl⟩)

theorem lineStart?_right : c.text.lineStart? (c.head.count '\n' + 1) = some c.head.size := by
  rw [text, List.append_assoc]
  exact lineStart?_append c.endsLine_head _

theorem line_right : c.text.line (c.head.count '\n' + 1) = c.right.chomp :=
  line_append c.endsLine_head c.right_free c.startsFed_behind

theorem exists_terminator :
    ∃ r, c.left = c.left.chomp ++ r ∧ (r = [] ∨ r = ['\r']) ∧
      c.head = c.before ++ c.left.chomp ++ (r ++ '\n' :: c.between) := by
  obtain ⟨r, hr, hreturn⟩ := exists_eq_chomp_append c.left
  refine ⟨r, hr, hreturn, ?_⟩
  rw [head]
  conv => lhs; rw [hr]
  simp only [List.append_assoc]

theorem exists_of_lineOf_lt {u m w : Text}
    (h : (u ++ m ++ w).lineOf u.size < (u ++ m ++ w).lineOf (u ++ m).size) :
    ∃ (c : Cut) (left left' right right' : Text), c.text = u ++ m ++ w ∧ c.left = left ++ left' ∧
      c.right = right ++ right' ∧ u = c.before ++ left ∧
      m = left' ++ '\n' :: c.between ++ right ∧ w = right' ++ c.behind := by
  rw [Text.lineOf_left, Text.lineOf_right] at h
  obtain ⟨before, left, rfl, hbefore, hleft⟩ := exists_last_line u
  obtain ⟨left', rest, rfl, hleft', hrest⟩ := exists_first_line m
  obtain ⟨rest, rfl⟩ : ∃ rest', rest = '\n' :: rest' := by
    rcases hrest with rfl | hrest
    · simp [List.count_eq_zero_of_not_mem hleft'] at h
    · exact hrest
  obtain ⟨between, right, rfl, hbetween, hright⟩ := exists_last_line rest
  obtain ⟨right', behind, rfl, hright', hbehind⟩ := exists_first_line w
  refine ⟨⟨before, left ++ left', between, right ++ right', behind, hbefore, ?_, hbetween, ?_,
    hbehind⟩, left, left', right, right', ?_, rfl, rfl, rfl, ?_, rfl⟩
  · simp [hleft, hleft']
  · simp [hright, hright']
  · simp [text, head]
  · simp

theorem exists_chomp_newline :
    ∃ r, '\n' ∉ r ∧ c.left.chomp ++ c.text.newline = c.left ++ r ++ ['\n'] := by
  obtain ⟨r, hleft, rfl | rfl, hhead⟩ := c.exists_terminator
  · obtain ⟨r, hnewline, hfree, -⟩ := c.text.exists_newline_eq
    rw [List.append_nil] at hleft
    exact ⟨r, hfree, by rw [hnewline, ← hleft, List.append_assoc]⟩
  · have hreturn : c.text.newline = ['\r', '\n'] := by
      have hcontains := contains_append (c.before ++ c.left.chomp)
        (c.between ++ c.right ++ c.behind)
      rw [newline, if_pos]
      simpa [text, hhead] using hcontains
    refine ⟨[], by simp, ?_⟩
    rw [hreturn]
    conv => rhs; rw [hleft]
    simp

def joined (r : Text) (hr : '\n' ∉ r) : Cut :=
  { c with
    left := c.left ++ r
    between := []
    left_free := by simp [c.left_free, hr]
    endsLine_between := .inl rfl }

theorem lineOf_joined {left left' right right' : Text} (hleft : c.left = left ++ left')
    (hright : c.right = right ++ right') (r : Text) (hr : '\n' ∉ r) :
    (c.joined r hr).text.lineOf ((c.joined r hr).head ++ right).size =
        (c.joined r hr).text.lineOf (c.before ++ left).size + 1 ∧
      (c.joined r hr).text.line ((c.joined r hr).text.lineOf ((c.joined r hr).head ++ right).size) =
        c.text.line (c.text.lineOf (c.head ++ right).size) := by
  have hleft' : (c.joined r hr).left = left ++ (left' ++ r) := by
    rw [← List.append_assoc, ← hleft]
    rfl
  have hfirst := (c.joined r hr).lineOf_left hleft'
  have hright' : (c.joined r hr).right = right ++ right' := hright
  have hnext := (c.joined r hr).lineOf_right hright'
  constructor
  · rw [hnext, count_head]
    exact congrArg (· + 1) hfirst.symm
  · rw [hnext, c.lineOf_right hright, line_right, line_right]
    rfl

/-- What an edit makes of a cut that takes the terminator of the first line and the lines between for
a terminator. -/
theorem exists_joined {e : Edit} (hstart : e.span.start = (c.before ++ c.left.chomp).size)
    (hstop : e.span.stop = c.head.size) (hput : e.replacement.toList = c.text.newline) :
    ∃ r hr, (Patch.single e).apply c.text = .ok (c.joined r hr).text ∧
      (∀ right : Text, Edit.shift [e] (c.head ++ right).size =
        ((c.joined r hr).head ++ right).size) ∧
      (c.between.all isBlank = true → (c.text.slice e.span.start e.span.stop).all isBlank = true ∧
        (c.joined r hr).text.filter (fun x => !isBlank x) =
          c.text.filter fun x => !isBlank x) := by
  obtain ⟨r', -, hreturn, hhead⟩ := c.exists_terminator
  obtain ⟨r, hr, hnewline⟩ := c.exists_chomp_newline
  have hturns : e.Turns (c.before ++ c.left.chomp).size (r' ++ '\n' :: c.between)
      c.text.newline := by
    refine ⟨[], r' ++ '\n' :: c.between, [], (List.append_nil _).symm, ?_, ?_, ?_⟩
    · rw [hput, List.nil_append, List.append_nil]
    · rw [hstart, size_nil, Nat.add_zero]
    · rw [hstop, hhead, size_nil, Nat.add_zero, size_append (c.before ++ c.left.chomp)]
  have hhead' : (c.joined r hr).head = c.before ++ c.left.chomp ++ c.text.newline := by
    rw [List.append_assoc, hnewline]
    simp [head, joined]
  have htext : c.text = c.before ++ c.left.chomp ++ (r' ++ '\n' :: c.between) ++
      (c.right ++ c.behind) := by
    rw [text, hhead, List.append_assoc _ c.right]
  have htext' : (c.joined r hr).text = c.before ++ c.left.chomp ++ c.text.newline ++
      (c.right ++ c.behind) := by
    rw [← hhead', ← List.append_assoc _ c.right]
    rfl
  refine ⟨r, hr, ?_, fun right => ?_, fun hblank => ?_⟩
  · rw [htext', ← hturns.apply_single, ← htext]
  · have hextended : e.Turns (c.before ++ c.left.chomp).size
        ([] ++ (r' ++ '\n' :: c.between) ++ right) ([] ++ c.text.newline ++ right) :=
      hturns.extend right
    rw [hhead, hhead']
    simpa only [List.nil_append, List.append_assoc] using hextended.shift_eq
  · have hall : (r' ++ '\n' :: c.between).all isBlank = true := by
      have hfeed : isBlank '\n' = true := by decide
      rcases hreturn with rfl | rfl
      · simp [hblank, hfeed]
      · simpa [hblank, hfeed] using show isBlank '\r' = true by decide
    have hsub := hturns.slice_sublist (w := c.right ++ c.behind)
    rw [← htext] at hsub
    refine ⟨List.all_eq_true.2 fun x hx => List.all_eq_true.1 hall x (hsub.subset hx), ?_⟩
    rw [htext', hturns.filter_eq hall (hput ▸ all_isBlank_newline c.text), ← htext]

end Cut

theorem lt_of_hasBlankLineBetween {t : Text} {first last : Nat}
    (h : t.hasBlankLineBetween first last = true) : t.lineOf first + 1 < t.lineOf last := by
  by_contra hle
  rw [hasBlankLineBetween, Nat.sub_eq_zero_of_le (Nat.le_of_not_lt hle)] at h
  cases h

theorem hasBlankLineBetween_eq_false {t : Text} {first last : Nat}
    (h : t.lineOf last = t.lineOf first + 1) : t.hasBlankLineBetween first last = false := by
  rw [Bool.eq_false_iff]
  intro hblank
  have := lt_of_hasBlankLineBetween hblank
  omega

end Text

namespace Source

variable {s : Source}

theorem collapseBlankLines?_eq {c : Text.Cut} {left left' right right' : Text}
    (htext : s.text = c.text) (hleft : c.left = left ++ left') (hright : c.right = right ++ right') :
    s.collapseBlankLines? (c.before ++ left).size (c.head ++ right).size =
      if s.text.hasBlankLineBetween (c.before ++ left).size (c.head ++ right).size &&
        (s.tokens.commentsBetween (c.before ++ left).size (c.head ++ right).size).isEmpty then
        some ⟨⟨(c.before ++ c.left.chomp).size, c.head.size⟩, String.ofList s.text.newline⟩
      else none := by
  obtain ⟨r, -, -, hhead⟩ := c.exists_terminator
  have hlt : (c.before ++ c.left.chomp).size < c.head.size := by
    rw [hhead, Text.size_append (c.before ++ c.left.chomp), Text.size_append r, Text.size_cons,
      show '\n'.utf8Size = 1 from rfl]
    omega
  rw [collapseBlankLines?, lineOf, lineOf, htext, c.lineOf_left hleft, c.lineOf_right hright,
    c.lineEnd?_left, c.lineStart?_right]
  simp only [if_pos hlt]

/-- Blank lines between two places are taken out altogether, so that their lines become neighbours,
and nothing else is. -/
theorem removes_collapseBlankLines? (s : Source) {first next : Nat}
    (hfirst : s.text.isBoundary first = true) (hnext : s.text.isBoundary next = true)
    (hle : first ≤ next) :
    (∀ e, s.collapseBlankLines? first next = some e →
      ∃ t, (Patch.single e).apply s.text = .ok t ∧
        t.lineOf (Edit.shift [e] next) = t.lineOf first + 1 ∧
        t.hasBlankLineBetween first (Edit.shift [e] next) = false ∧
        (∀ s' : Source, s'.text = t →
          s'.collapseBlankLines? first (Edit.shift [e] next) = none) ∧
        t.indentOf (t.lineOf (Edit.shift [e] next)) = s.text.indentOf (s.text.lineOf next) ∧
        ((s.text.slice first next).all isBlank = true →
          (s.text.slice e.span.start e.span.stop).all isBlank = true ∧
          t.filter (fun c => !isBlank c) = s.text.filter fun c => !isBlank c)) ∧
      ((s.collapseBlankLines? first next).isSome = true ↔
        s.text.hasBlankLineBetween first next = true ∧
          s.tokens.commentsBetween first next = []) ∧
      (s.tokens.Sorted → s.text.hasBlankLineBetween first next = true →
        (∀ t ∈ s.tokens.all, t.isComment = true → first ≤ t.span.start →
          next ≤ t.span.start ∧ next < t.span.stop) →
        (s.collapseBlankLines? first next).isSome = true) := by
  obtain ⟨u, m, w, htext, rfl, rfl⟩ := Text.exists_append_of_boundaries hfirst hnext hle
  by_cases hblank : s.text.hasBlankLineBetween u.size (u ++ m).size = true
  swap
  · have hnone : s.collapseBlankLines? u.size (u ++ m).size = none := by
      rw [collapseBlankLines?, Bool.eq_false_iff.2 hblank]
      rfl
    rw [hnone]
    exact ⟨nofun, ⟨nofun, fun h => absurd h.1 hblank⟩, fun _ h => absurd h hblank⟩
  have hlt := Text.lt_of_hasBlankLineBetween hblank
  obtain ⟨c, left, left', right, right', hcut, hleft, hright, rfl, hm, -⟩ :=
    Text.Cut.exists_of_lineOf_lt (u := u) (m := m) (w := w) (by rw [← htext]; omega)
  have hslice : s.text.slice (c.before ++ left).size (c.before ++ left ++ m).size = m := by
    rw [htext, Text.slice_append]
  have hplace : c.before ++ left ++ m = c.head ++ right := by
    simp [Text.Cut.head, hleft, hm]
  rw [← hcut] at htext
  have hcollapse := collapseBlankLines?_eq htext hleft hright
  rw [← hplace, hblank, Bool.true_and] at hcollapse
  have hsome : (s.collapseBlankLines? (c.before ++ left).size (c.before ++ left ++ m).size).isSome =
      true ↔ s.tokens.commentsBetween (c.before ++ left).size (c.before ++ left ++ m).size = [] := by
    rw [hcollapse, ← List.isEmpty_iff]
    cases (s.tokens.commentsBetween _ _).isEmpty <;> simp
  refine ⟨fun e he => ?_, by rw [hsome, and_iff_right hblank], fun hsorted _ hnone => ?_⟩
  swap
  · rw [hsome, List.eq_nil_iff_forall_not_mem]
    intro t ht
    obtain ⟨hmem, hcomment, hfrom, hto⟩ := hsorted.of_mem_commentsBetween ht
    have := hnone t hmem hcomment hfrom
    omega
  rw [hcollapse] at he
  cases (Option.ite_none_right_eq_some.1 he).2
  obtain ⟨r, hr, happly, hshift, hkeeps⟩ := c.exists_joined
    (e := ⟨⟨(c.before ++ c.left.chomp).size, c.head.size⟩, String.ofList s.text.newline⟩) rfl rfl
    (by rw [String.toList_ofList, htext])
  obtain ⟨hneighbours, hline⟩ := c.lineOf_joined hleft hright r hr
  have hnoBlank := Text.hasBlankLineBetween_eq_false hneighbours
  rw [hslice, hplace, hshift]
  rw [← htext] at happly
  refine ⟨(c.joined r hr).text, happly, hneighbours, hnoBlank, ?_, ?_, fun hall => ?_⟩
  · intro s' hs'
    rw [collapseBlankLines?, hs', hnoBlank]
    rfl
  · rw [Text.indentOf, Text.indentOf, hline, htext]
  · rw [hm] at hall
    simp only [List.all_append, List.all_cons, Bool.and_eq_true] at hall
    rw [htext]
    exact hkeeps hall.1.2.2

def mixedLines : Source where
  path := "a.js"
  text := "a();\r\n\r\n\n\tb(); // c".toList
  tree := { nodes := #[⟨.program [] .script, ⟨0, 19⟩⟩], children := #[[]], parents := #[none], root := 0 }
  tokens := .ofList [⟨.lineComment, ⟨15, 19⟩, "// c".toList⟩]

theorem removes_collapseBlankLines?_mixedLines :
    mixedLines.text.isBoundary 5 = true ∧ mixedLines.text.isBoundary 10 = true ∧
      mixedLines.collapseBlankLines? 5 10 = some ⟨⟨4, 9⟩, "\r\n"⟩ ∧
      (∃ t, (Patch.single ⟨⟨4, 9⟩, "\r\n"⟩).apply mixedLines.text = .ok t ∧
        t.lineOf 7 = t.lineOf 5 + 1 ∧ t.indentOf (t.lineOf 7) = mixedLines.text.indentOf 4) ∧
      (mixedLines.collapseBlankLines? 5 10).isSome = true := by
  have hfirst : mixedLines.text.isBoundary 5 = true := by decide
  have hnext : mixedLines.text.isBoundary 10 = true := by decide
  have hedit : mixedLines.collapseBlankLines? 5 10 = some ⟨⟨4, 9⟩, "\r\n"⟩ := by cbv
  obtain ⟨hcollapses, -, hsome⟩ := removes_collapseBlankLines? mixedLines hfirst hnext (by decide)
  obtain ⟨t, happly, hline, -, -, hindent, -⟩ := hcollapses _ hedit
  refine ⟨hfirst, hnext, hedit, ⟨t, happly, hline, hindent⟩, hsome ?_ (by decide) (by decide +kernel)⟩
  exact TokenIndex.sorted_ofList (by decide)

end Source

end ScriptLint
