import ScriptLint.Proofs.AdjacentTokens
import ScriptLint.Proofs.LineOffsets
import ScriptLint.Rule.Padding

/-! The parameter list of a function, as its parentheses show it. The head of a function may hold other
parentheses, in type parameters before the list and in the type of the result behind it; they are
outside of those around the parameters. -/
namespace ScriptLint

namespace Token

/-- The first parenthesis outside of type parameters, with the tokens behind it; `depth` counts the
angle brackets that are open. -/
def openingParen? : Nat → List Token → Option (Token × List Token)
  | _, [] => none
  | depth, t :: ts =>
    if t.isPunctuator "(" && depth == 0 then some (t, ts)
    else if t.isPunctuator "<" then openingParen? (depth + 1) ts
    else if t.isPunctuator ">" then openingParen? (depth - 1) ts
    else openingParen? depth ts

/-- The parenthesis that closes one opened before; `depth` counts those opened since. -/
def closingParen? : Nat → List Token → Option Token
  | _, [] => none
  | depth, t :: ts =>
    if t.isPunctuator "(" then closingParen? (depth + 1) ts
    else if t.isPunctuator ")" then
      match depth with
      | 0 => some t
      | depth + 1 => closingParen? depth ts
    else closingParen? depth ts

def parameterList? (head : List Token) : Option (Token × Token) :=
  (openingParen? 0 head).bind fun (opening, rest) =>
    (closingParen? 0 rest).map fun closing => (opening, closing)

theorem openingParen?_eq_some {depth : Nat} {ts rest : List Token} {opening : Token}
    (h : openingParen? depth ts = some (opening, rest)) :
    (∃ front, ts = front ++ opening :: rest) ∧ opening.isPunctuator "(" = true := by
  fun_induction openingParen? depth ts with
  | case1 => cases h
  | case2 depth t ts hparen =>
    cases h
    exact ⟨⟨[], rfl⟩, by simp_all⟩
  | case3 depth t ts _ _ ih | case4 depth t ts _ _ _ ih | case5 depth t ts _ _ _ ih =>
    obtain ⟨⟨front, rfl⟩, hparen⟩ := ih h
    exact ⟨⟨t :: front, rfl⟩, hparen⟩

theorem closingParen?_eq_some {depth : Nat} {ts : List Token} {closing : Token}
    (h : closingParen? depth ts = some closing) :
    closing ∈ ts ∧ closing.isPunctuator ")" = true := by
  fun_induction closingParen? depth ts with
  | case1 => cases h
  | case3 t ts _ hparen =>
    cases h
    exact ⟨by simp, hparen⟩
  | case2 depth t ts _ ih | case4 t ts _ _ depth ih | case5 depth t ts _ _ ih =>
    obtain ⟨hmem, hparen⟩ := ih h
    exact ⟨List.mem_cons_of_mem t hmem, hparen⟩

theorem parameterList?_eq_some {head : List Token} {opening closing : Token}
    (h : parameterList? head = some (opening, closing)) :
    ∃ front rest, head = front ++ opening :: rest ∧ closing ∈ rest ∧
      opening.isPunctuator "(" = true ∧ closing.isPunctuator ")" = true := by
  simp only [parameterList?, Option.bind_eq_some_iff, Option.map_eq_some_iff] at h
  obtain ⟨⟨opening', rest⟩, hopening, closing', hclosing, heq⟩ := h
  cases heq
  obtain ⟨⟨front, hsplit⟩, hparen⟩ := openingParen?_eq_some hopening
  obtain ⟨hmem, hparen'⟩ := closingParen?_eq_some hclosing
  exact ⟨front, rest, hsplit, hmem, hparen, hparen'⟩

/-- The first parenthesis of a head comes no later than those around the parameters, and the last one
no earlier. -/
theorem exists_outer_parens {head : List Token} {opening closing : Token}
    (hordered : head.Pairwise fun a b => a.span.stop ≤ b.span.start)
    (hle : ∀ t ∈ head, t.span.start ≤ t.span.stop)
    (h : parameterList? head = some (opening, closing)) :
    ∃ first last, (head.find? fun t => t.isPunctuator "(") = some first ∧
      (head.reverse.find? fun t => t.isPunctuator ")") = some last ∧
      first.span.start ≤ opening.span.start ∧ opening.span.start ≤ closing.span.start ∧
      closing.span.start ≤ last.span.start := by
  obtain ⟨front, rest, hsplit, hmem, hopening, hclosing⟩ := parameterList?_eq_some h
  have hparts := hordered
  rw [hsplit, List.pairwise_append] at hparts
  obtain ⟨-, hrest, hfront⟩ := hparts
  have hnext := List.rel_of_pairwise_cons hrest hmem
  have hleOpening := hle opening (by simp [hsplit])
  have hmemClosing : closing ∈ head.reverse := by simp [hsplit, hmem]
  have hfirst : ∃ first, (head.find? fun t => t.isPunctuator "(") = some first ∧
      first.span.start ≤ opening.span.start := by
    rw [hsplit, List.find?_append]
    cases hfind : front.find? fun t => t.isPunctuator "(" with
    | none => exact ⟨opening, by simp [hopening], Nat.le_refl _⟩
    | some first =>
      have hmemFirst := List.mem_of_find?_eq_some hfind
      have := hfront first hmemFirst opening (by simp)
      have := hle first (by simp [hsplit, hmemFirst])
      exact ⟨first, rfl, by omega⟩
  obtain ⟨first, hfind, hbefore⟩ := hfirst
  cases hlast : head.reverse.find? fun t => t.isPunctuator ")" with
  | none =>
    rw [List.find?_eq_none] at hlast
    exact absurd hclosing (hlast closing hmemClosing)
  | some last =>
    refine ⟨first, last, hfind, rfl, hbefore, by omega, ?_⟩
    obtain ⟨-, front', back, hsplit', hnone⟩ := List.find?_eq_some_iff_append.1 hlast
    rw [← List.pairwise_reverse, hsplit', List.pairwise_append] at hordered
    rw [hsplit'] at hmemClosing
    rcases List.mem_append.1 hmemClosing with hin | hin
    · have := hnone closing hin
      simp [hclosing] at this
    · rcases List.mem_cons.1 hin with rfl | hin
      · exact Nat.le_refl _
      · have := List.rel_of_pairwise_cons hordered.2.1 hin
        have := hle closing (by simp [hsplit, hmem])
        omega

end Token

namespace BlockPadding

variable {s : Source}

def paramsSpanLines (s : Source) (body : NodeId) : Bool :=
  match s.tree.parent? body with
  | none => false
  | some function =>
    if ((s.tree.kind function).fn?).any fun fn => fn.body == body then
      match Token.parameterList?
          (s.tokens.within ⟨(s.tree.span function).start, (s.tree.span body).start⟩) with
      | some (opening, closing) => s.lineOf opening.span.start != s.lineOf closing.span.start
      | none => false
    else false

/-- Parameters on several lines do not escape the rule. -/
theorem hasMultilineParams_of_paramsSpanLines (h : s.tokens.Ordered) {body : NodeId}
    (hspan : paramsSpanLines s body = true) : hasMultilineParams s body = true := by
  unfold paramsSpanLines at hspan
  unfold hasMultilineParams
  cases hparent : s.tree.parent? body with
  | none =>
    rw [hparent] at hspan
    cases hspan
  | some function =>
    rw [hparent] at hspan
    dsimp only at hspan ⊢
    by_cases hfunction : ((s.tree.kind function).fn?.any fun fn => fn.body == body) = true
    · rw [if_pos hfunction] at hspan ⊢
      have hhead := h.sequential.pairwise_within
        ⟨(s.tree.span function).start, (s.tree.span body).start⟩
      have hle (t : Token) (ht : t ∈ s.tokens.within
          ⟨(s.tree.span function).start, (s.tree.span body).start⟩) : t.span.start ≤ t.span.stop :=
        h.sequential.le t ((TokenIndex.mem_within h).1 ht).1
      generalize s.tokens.within ⟨(s.tree.span function).start, (s.tree.span body).start⟩ = head
        at hspan hhead hle ⊢
      cases hlist : Token.parameterList? head with
      | none =>
        rw [hlist] at hspan
        cases hspan
      | some list =>
        obtain ⟨opening, closing⟩ := list
        obtain ⟨first, last, hfirst, hlast, hbefore, hwithin, hbehind⟩ :=
          Token.exists_outer_parens hhead hle hlist
        have hlineBefore := s.text.lineOf_mono hbefore
        have hlineWithin := s.text.lineOf_mono hwithin
        have hlineBehind := s.text.lineOf_mono hbehind
        rw [hlist] at hspan
        rw [hfirst, hlast]
        simp only [Source.lineOf, bne_iff_ne, ne_eq] at hspan ⊢
        omega
    · rw [if_neg hfunction] at hspan
      cases hspan

end BlockPadding

end ScriptLint
