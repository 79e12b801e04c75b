/-! A source text is a list of characters. Positions in it are byte offsets of its UTF-8 form,
so only some numbers are positions: those that fall between two characters. -/
namespace ScriptLint

abbrev Text := List Char

namespace Text

def size : Text → Nat
  | [] => 0
  | c :: t => c.utf8Size + size t

/-- Cuts the text in two at a byte offset; `none` past the end or inside a character. -/
def splitAt? : Text → Nat → Option (Text × Text)
  | t, 0 => some ([], t)
  | [], _ + 1 => none
  | c :: t, n + 1 =>
    if c.utf8Size ≤ n + 1 then
      (splitAt? t (n + 1 - c.utf8Size)).map fun p => (c :: p.1, p.2)
    else none

def isBoundary (t : Text) (n : Nat) : Bool := (splitAt? t n).isSome

def take? (t : Text) (n : Nat) : Option Text := (splitAt? t n).map Prod.fst

def drop? (t : Text) (n : Nat) : Option Text := (splitAt? t n).map Prod.snd

def slice? (t : Text) (start stop : Nat) : Option Text :=
  if start ≤ stop then (t.drop? start).bind fun u => u.take? (stop - start) else none

def slice (t : Text) (start stop : Nat) : Text := (t.slice? start stop).getD []

def dropPrefix? : Text → Text → Option Text
  | t, [] => some t
  | [], _ :: _ => none
  | c :: t, d :: w => if c = d then dropPrefix? t w else none

def dropSuffix? (t w : Text) : Option Text :=
  (dropPrefix? t.reverse w.reverse).map List.reverse

def startsWith (t w : Text) : Bool := (t.dropPrefix? w).isSome

def endsWith (t w : Text) : Bool := (t.dropSuffix? w).isSome

/-- Cuts at the first occurrence of a word, which belongs to neither part. -/
def cut? (w : Text) : Text → Option (Text × Text)
  | [] => if w = [] then some ([], []) else none
  | c :: t =>
    match dropPrefix? (c :: t) w with
    | some rest => some ([], rest)
    | none => (cut? w t).map fun p => (c :: p.1, p.2)

def contains (t w : Text) : Bool := (cut? w t).isSome

/-- The pieces between the characters that satisfy `p`; one more than there are of these. -/
def splitWhere (p : Char → Bool) : Text → List Text
  | [] => [[]]
  | c :: t =>
    if p c then [] :: splitWhere p t
    else match splitWhere p t with
      | [] => [[c]]
      | w :: ws => (c :: w) :: ws

@[simp] theorem size_nil : size [] = 0 := rfl

@[simp] theorem size_cons (c : Char) (t : Text) : size (c :: t) = c.utf8Size + size t := rfl

@[simp] theorem size_append (t u : Text) : size (t ++ u) = size t + size u := by
  induction t with
  | nil => simp
  | cons c t ih => simp [ih, Nat.add_assoc]

@[simp] theorem splitAt?_zero (t : Text) : splitAt? t 0 = some ([], t) := by
  cases t <;> rfl

theorem eq_append_of_splitAt? {t a b : Text} {n : Nat} (h : splitAt? t n = some (a, b)) :
    t = a ++ b ∧ size a = n := by
  fun_induction splitAt? t n generalizing a b with
  | case1 t => simp_all
  | case2 n => simp at h
  | case3 c t n hc ih =>
    obtain ⟨⟨a', b'⟩, hs, heq⟩ := Option.map_eq_some_iff.1 h
    obtain ⟨rfl, rfl⟩ := Prod.mk.inj heq
    obtain ⟨ht, hn⟩ := ih hs
    exact ⟨by simp [ht], by simp only [size_cons]; omega⟩
  | case4 c t n hc => simp at h

@[simp] theorem splitAt?_append (a b : Text) : splitAt? (a ++ b) (size a) = some (a, b) := by
  induction a with
  | nil => simp
  | cons c a ih =>
    have hc : 0 < c.utf8Size := c.utf8Size_pos
    obtain ⟨k, hk⟩ : ∃ k, size (c :: a) = k + 1 :=
      ⟨size (c :: a) - 1, by simp only [size_cons]; omega⟩
    rw [hk, List.cons_append, splitAt?]
    simp only [size_cons] at hk
    rw [if_pos (by omega), show k + 1 - c.utf8Size = size a by omega, ih]
    rfl

end Text

end ScriptLint
