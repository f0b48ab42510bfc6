/-!
# Byte offsets

Positions in a line are reported as offsets in its UTF-8 form.  A text is a list of characters here,
so an offset is a measure of the text before it and never a place inside a character.
-/

namespace GoLayout.Text

/-- The number of bytes of a text in UTF-8. -/
def utf8Length (s : List Char) : Nat := s.foldr (fun c n => c.utf8Size + n) 0

@[simp] theorem utf8Length_nil : utf8Length [] = 0 := rfl

@[simp] theorem utf8Length_cons (c : Char) (s : List Char) :
    utf8Length (c :: s) = c.utf8Size + utf8Length s := rfl

@[simp] theorem utf8Length_append (s t : List Char) :
    utf8Length (s ++ t) = utf8Length s + utf8Length t := by
  induction s with
  | nil => simp
  | cons c s ih => simp [ih, Nat.add_assoc]

/-- Only the empty text has no bytes. -/
theorem utf8Length_eq_zero_iff {s : List Char} : utf8Length s = 0 ↔ s = [] := by
  cases s with
  | nil => simp
  | cons c s =>
    have := c.utf8Size_pos
    simp only [utf8Length_cons, reduceCtorEq, iff_false]
    omega

/-- The part of a text before a byte offset, if the offset is the border of a character. -/
def upToByte? : Nat → List Char → Option (List Char)
  | 0, _ => some []
  | _ + 1, [] => none
  | n + 1, c :: s =>
    if c.utf8Size ≤ n + 1 then (upToByte? (n + 1 - c.utf8Size) s).map (c :: ·) else none

/-- The part of a text before the offset behind it is that part. -/
theorem upToByte?_append (s t : List Char) : upToByte? (utf8Length s) (s ++ t) = some s := by
  induction s with
  | nil => cases t <;> rfl
  | cons c s ih =>
    obtain ⟨n, hn⟩ : ∃ n, c.utf8Size + utf8Length s = n + 1 :=
      Nat.exists_eq_add_one.2 (Nat.add_pos_left c.utf8Size_pos _)
    have hle : c.utf8Size ≤ n + 1 := by omega
    have hsub : n + 1 - c.utf8Size = utf8Length s := by omega
    rw [utf8Length_cons, hn, List.cons_append, upToByte?, if_pos hle, hsub, ih]
    rfl

end GoLayout.Text
