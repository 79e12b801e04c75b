import ScriptLint.Json.Token
import ScriptLint.Proofs.UnitOffsets

/-! String literals. A string is a list of UTF-16 units, written between quotes: characters other
than the quote, backslashes and line ends stand for themselves, and a backslash together with what
it applies to takes up more units than it gives. So text between quotes denotes itself only if all
of it stands for itself. -/
namespace ScriptLint.StringLiteral

def unitsOfCode (n : Nat) : List Nat :=
  if n < 0x10000 then [n]
  else [0xD800 + (n - 0x10000) / 0x400, 0xDC00 + (n - 0x10000) % 0x400]

def codeUnits (t : Text) : List Nat := t.flatMap fun c => unitsOfCode c.toNat

def isLineTerminator (c : Char) : Bool :=
  c = '\n' || c = '\r' || c = '\u2028' || c = '\u2029'

def isOctalDigit (c : Char) : Bool := '0' ≤ c && c ≤ '7'

def singleEscape? : Char → Option Nat
  | 'b' => some 8
  | 't' => some 9
  | 'n' => some 10
  | 'v' => some 11
  | 'f' => some 12
  | 'r' => some 13
  | _ => none

def hexDigits? (acc : Nat) : (count : Nat) → Text → Option (Nat × Text)
  | 0, t => some (acc, t)
  | _ + 1, [] => none
  | count + 1, c :: t =>
    (Json.Token.hexValue? c).bind fun d => hexDigits? (acc * 16 + d) count t

def bracedDigits? (acc : Nat) : Text → Option (Nat × Text)
  | [] => none
  | c :: t =>
    if c = '\x7d' then some (acc, t)
    else (Json.Token.hexValue? c).bind fun d => bracedDigits? (acc * 16 + d) t

def codePoint? (t : Text) : Option (Nat × Text) :=
  if t.head? = some '\x7d' then none else (bracedDigits? 0 t).filter fun p => p.1 ≤ 0x10FFFF

def octalDigits (acc : Nat) : (count : Nat) → Text → Nat × Text
  | 0, t => (acc, t)
  | _ + 1, [] => (acc, [])
  | count + 1, c :: t =>
    let next := acc * 8 + (c.toNat - 48)
    if isOctalDigit c && next < 256 then octalDigits next count t else (acc, c :: t)

/-- What a backslash makes of the text behind it, and the text behind that. Line ends go away, and
other characters without a meaning of their own stand for themselves. -/
def escape? : Text → Option (List Nat × Text)
  | [] => none
  | '\r' :: '\n' :: t => some ([], t)
  | 'x' :: t => (hexDigits? 0 2 t).map fun p => ([p.1], p.2)
  | 'u' :: '\x7b' :: t => (codePoint? t).map fun p => (unitsOfCode p.1, p.2)
  | 'u' :: t => (hexDigits? 0 4 t).map fun p => ([p.1], p.2)
  | c :: t =>
    if isLineTerminator c then some ([], t)
    else if isOctalDigit c then
      let p := octalDigits (c.toNat - 48) 2 t
      some ([p.1], p.2)
    else some (((singleEscape? c).map ([·])).getD (unitsOfCode c.toNat), t)

theorem length_unitsOfCode (c : Char) : (unitsOfCode c.toNat).length = unitsOf c := by
  unfold unitsOfCode unitsOf
  split <;> rfl

theorem length_unitsOfCode_le (n : Nat) : (unitsOfCode n).length ≤ 2 := by
  unfold unitsOfCode
  split <;> simp

theorem length_codeUnits (t : Text) : (codeUnits t).length = t.units := by
  induction t with
  | nil => rfl
  | cons c t ih =>
    rw [codeUnits, List.flatMap_cons, List.length_append, length_unitsOfCode, Text.units_cons]
    exact congrArg _ ih

theorem exists_of_hexDigits? {acc count n : Nat} {t rest : Text}
    (h : hexDigits? acc count t = some (n, rest)) : ∃ used, t = used ++ rest := by
  fun_induction hexDigits? acc count t with
  | case1 => cases h; exact ⟨[], rfl⟩
  | case2 => cases h
  | case3 acc count c t ih =>
    obtain ⟨d, -, h⟩ := Option.bind_eq_some_iff.1 h
    obtain ⟨used, rfl⟩ := ih d h
    exact ⟨c :: used, rfl⟩

theorem exists_of_bracedDigits? {acc n : Nat} {t rest : Text}
    (h : bracedDigits? acc t = some (n, rest)) : ∃ used, t = used ++ rest := by
  fun_induction bracedDigits? acc t with
  | case1 => cases h
  | case2 acc t => cases h; exact ⟨['\x7d'], rfl⟩
  | case3 acc c t hc ih =>
    obtain ⟨d, -, h⟩ := Option.bind_eq_some_iff.1 h
    obtain ⟨used, rfl⟩ := ih d h
    exact ⟨c :: used, rfl⟩

theorem exists_of_octalDigits (acc count : Nat) (t : Text) :
    ∃ used, t = used ++ (octalDigits acc count t).2 := by
  fun_induction octalDigits acc count t with
  | case1 acc t => exact ⟨[], rfl⟩
  | case2 acc => exact ⟨[], rfl⟩
  | case3 acc count c t next h ih =>
    obtain ⟨used, ht⟩ := ih
    exact ⟨c :: used, congrArg (c :: ·) ht⟩
  | case4 acc count c t next h => exact ⟨[], rfl⟩

theorem exists_of_escape? {t rest : Text} {us : List Nat} (h : escape? t = some (us, rest)) :
    ∃ used, t = used ++ rest ∧ us.length ≤ used.units := by
  unfold escape? at h
  split at h
  · cases h
  · cases h
    exact ⟨['\r', '\n'], rfl, Nat.zero_le _⟩
  · obtain ⟨p, hp, h⟩ := Option.map_eq_some_iff.1 h
    cases h
    obtain ⟨used, rfl⟩ := exists_of_hexDigits? hp
    refine ⟨'x' :: used, rfl, ?_⟩
    exact Nat.le_add_right_of_le (unitsOf_pos 'x')
  · obtain ⟨p, hp, h⟩ := Option.map_eq_some_iff.1 h
    cases h
    unfold codePoint? at hp
    split at hp
    · cases hp
    · obtain ⟨used, rfl⟩ := exists_of_bracedDigits? (Option.filter_eq_some_iff.1 hp).1
      refine ⟨'u' :: '\x7b' :: used, rfl, Nat.le_trans (length_unitsOfCode_le p.1) ?_⟩
      have := unitsOf_pos 'u'
      have := unitsOf_pos '\x7b'
      simp only [Text.units_cons]
      omega
  · obtain ⟨p, hp, h⟩ := Option.map_eq_some_iff.1 h
    cases h
    obtain ⟨used, rfl⟩ := exists_of_hexDigits? hp
    refine ⟨'u' :: used, rfl, ?_⟩
    exact Nat.le_add_right_of_le (unitsOf_pos 'u')
  · rename_i c t _ _ _ _
    have hc := unitsOf_pos c
    split at h
    · cases h
      exact ⟨[c], rfl, Nat.zero_le _⟩
    · split at h
      · cases h
        obtain ⟨used, ht⟩ := exists_of_octalDigits (c.toNat - 48) 2 t
        exact ⟨c :: used, congrArg (c :: ·) ht, Nat.le_add_right_of_le hc⟩
      · cases h
        refine ⟨[c], rfl, ?_⟩
        cases singleEscape? c with
        | none => exact (length_unitsOfCode c).le
        | some n => exact hc

def body? (quote : Char) (t : Text) : Option (List Nat × Text) :=
  match t with
  | [] => none
  | c :: t =>
    if c = quote then some ([], t)
    else if c = '\n' || c = '\r' then none
    else if c = '\\' then
      match _ : escape? t with
      | none => none
      | some (us, rest) => (body? quote rest).map fun p => (us ++ p.1, p.2)
    else (body? quote t).map fun p => (unitsOfCode c.toNat ++ p.1, p.2)
termination_by t.length
decreasing_by
  · rename_i h
    obtain ⟨used, rfl, -⟩ := exists_of_escape? h
    simp only [List.length_cons, List.length_append]
    omega
  · simp

def read? : Text → Option (List Nat × Text)
  | [] => none
  | c :: t => if c = '\x27' || c = '\x22' then body? c t else none

def Plain (quote : Char) (t : Text) : Prop :=
  ∀ c ∈ t, c ≠ quote ∧ c ≠ '\\' ∧ c ≠ '\n' ∧ c ≠ '\r'

instance (quote : Char) (t : Text) : Decidable (Plain quote t) :=
  List.decidableBAll _ t

theorem body?_of_plain {quote : Char} {t : Text} (h : Plain quote t) (rest : Text) :
    body? quote (t ++ quote :: rest) = some (codeUnits t, rest) := by
  induction t with
  | nil => rw [List.nil_append, body?, if_pos rfl]; rfl
  | cons c t ih =>
    obtain ⟨⟨hquote, hslash, hfeed, hreturn⟩, ht⟩ := List.forall_mem_cons.1 h
    rw [List.cons_append, body?, if_neg hquote, if_neg (by simp [hfeed, hreturn]), if_neg hslash,
      ih ht]
    rfl

/-- What is read ends at a quote, and takes up at least as many units as it gives; if just as many,
nothing in it was escaped. -/
theorem exists_of_body? {quote : Char} {t rest : Text} {us : List Nat}
    (h : body? quote t = some (us, rest)) :
    ∃ used, t = used ++ quote :: rest ∧ us.length ≤ used.units ∧
      (us.length = used.units → Plain quote used) := by
  fun_induction body? quote t generalizing us with
  | case1 => cases h
  | case2 t =>
    cases h
    exact ⟨[], rfl, Nat.le_refl _, fun _ => by simp [Plain]⟩
  | case3 => cases h
  | case4 => cases h
  | case5 t us' rest' hescape hquote hend ih =>
    obtain ⟨p, hp, h⟩ := Option.map_eq_some_iff.1 h
    cases h
    obtain ⟨escaped, rfl, hescaped⟩ := exists_of_escape? hescape
    obtain ⟨used, rfl, hle, -⟩ := ih hp
    have hslash := unitsOf_pos '\\'
    -- The backslash itself gives nothing.
    have hlt : (us' ++ p.1).length < Text.units ('\\' :: (escaped ++ used)) := by
      rw [List.length_append, Text.units_cons, Text.units_append]
      omega
    refine ⟨'\\' :: (escaped ++ used), by simp, hlt.le, fun heq => absurd heq hlt.ne⟩
  | case6 c t hquote hend hslash ih =>
    obtain ⟨p, hp, h⟩ := Option.map_eq_some_iff.1 h
    cases h
    obtain ⟨used, rfl, hle, hplain⟩ := ih hp
    refine ⟨c :: used, rfl, ?_, ?_⟩
    · rw [List.length_append, length_unitsOfCode, Text.units_cons]
      omega
    · intro heq
      rw [List.length_append, length_unitsOfCode, Text.units_cons] at heq
      simp only [Bool.or_eq_true, decide_eq_true_eq, not_or] at hend
      exact List.forall_mem_cons.2 ⟨⟨hquote, hslash, hend⟩, hplain (by omega)⟩

/-- A text between quotes denotes itself exactly if it can stand there as it is. -/
theorem read?_quoted_iff {quote : Char} (hquote : quote = '\x27' ∨ quote = '\x22') (t : Text) :
    read? (quote :: t ++ [quote]) = some (codeUnits t, []) ↔ Plain quote t := by
  rw [List.cons_append, read?, if_pos (by simpa using hquote)]
  refine ⟨fun h => ?_, fun h => body?_of_plain h []⟩
  obtain ⟨used, ht, -, hplain⟩ := exists_of_body? h
  obtain rfl := List.append_cancel_right ht
  exact hplain (length_codeUnits t)

example : read? "\x27./it\x27s\x27".toList = some (codeUnits "./it".toList, "s\x27".toList) := by
  decide +kernel

example : read? "\x27./it\\\x27s \\u\x7b1F600\x7d\x27".toList =
    some (codeUnits "./it\x27s 😀".toList, []) := by
  decide +kernel

theorem exists_quote_of_read? {t rest : Text} {us : List Nat} (h : read? t = some (us, rest)) :
    ∃ quote, t.head? = some quote ∧ (quote = '\x27' ∨ quote = '\x22') := by
  cases t with
  | nil => cases h
  | cons c t =>
    rw [read?] at h
    split at h
    · rename_i hquote
      exact ⟨c, rfl, by simpa using hquote⟩
    · cases h

end ScriptLint.StringLiteral
