import GoLayout.Text.Offset
import GoLayout.Text.Column

/-!
# Marks

A mark is a place in a line by its two measures, the byte offset and the visual column.  Marks are
counted on while a line is read, and they agree with the measures of the text before them.
-/

namespace GoLayout.Text

/-- A place in a line. -/
structure Mark where
  /-- The number of bytes before the place. -/
  offset : Nat := 0
  /-- The visual column of the place. -/
  column : Nat := 0
deriving DecidableEq, Repr

namespace Mark

/-- The mark after a character. -/
def next (tabSize : Nat) (m : Mark) (c : Char) : Mark :=
  ⟨m.offset + c.utf8Size, nextColumn tabSize m.column c⟩

/-- The mark after a text. -/
def after (tabSize : Nat) (m : Mark) (s : List Char) : Mark := s.foldl (next tabSize) m

@[simp] theorem after_nil (tabSize : Nat) (m : Mark) : m.after tabSize [] = m := rfl

@[simp] theorem after_cons (tabSize : Nat) (m : Mark) (c : Char) (s : List Char) :
    m.after tabSize (c :: s) = (m.next tabSize c).after tabSize s := rfl

/-- Marks are counted on from where the text before ended. -/
theorem after_append (tabSize : Nat) (m : Mark) (s t : List Char) :
    m.after tabSize (s ++ t) = (m.after tabSize s).after tabSize t :=
  List.foldl_append

/-- The offset after a text grows by its bytes. -/
theorem offset_after (tabSize : Nat) (m : Mark) (s : List Char) :
    (m.after tabSize s).offset = m.offset + utf8Length s := by
  induction s generalizing m with
  | nil => rfl
  | cons c s ih => rw [after_cons, ih, utf8Length_cons, next, Nat.add_assoc]

/-- The column after a text is that of its last place. -/
theorem column_after (tabSize : Nat) (m : Mark) (s : List Char) :
    (m.after tabSize s).column = columnFrom tabSize m.column s := by
  induction s generalizing m with
  | nil => rfl
  | cons c s ih => rw [after_cons, ih, columnFrom_cons, next]

end Mark

end GoLayout.Text
