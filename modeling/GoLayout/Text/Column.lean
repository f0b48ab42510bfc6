import GoLayout.Text.Blank
import GoLayout.Text.Offset

/-!
# Visual columns

A tab moves to the next tab stop and every other character takes one column.  The column of a place
in a line is that of the text before it, and the indentation of a line is the column at which its
leading blanks end.

Columns are numbers here.  Where they are counted in machine words (`columnFrom?`, `countColumn?`), the
count fails as soon as a sum leaves the words, and otherwise it ends in the same number.
-/

namespace GoLayout.Text

/-- The distance of tab stops; a tab size of zero counts as one. -/
def tabWidth (tabSize : Nat) : Nat := max tabSize 1

/-- The first tab stop after a column. -/
def nextStop (tabSize column : Nat) : Nat := column + tabWidth tabSize - column % tabWidth tabSize

/-- The column after a character that starts at `column`. -/
def nextColumn (tabSize column : Nat) (c : Char) : Nat :=
  if c = '\t' then nextStop tabSize column else column + 1

/-- The column after a text that starts at `column`. -/
def columnFrom (tabSize column : Nat) (s : List Char) : Nat := s.foldl (nextColumn tabSize) column

/-- The column after a text that starts its line. -/
def columnAfter (tabSize : Nat) (s : List Char) : Nat := columnFrom tabSize 0 s

/-- The width of the leading blanks of a line. -/
def indentation (tabSize : Nat) (line : List Char) : Nat :=
  columnAfter tabSize (leadingBlanks line)

theorem tabWidth_pos (tabSize : Nat) : 0 < tabWidth tabSize := by
  unfold tabWidth
  omega

@[simp] theorem columnFrom_nil (tabSize column : Nat) : columnFrom tabSize column [] = column := rfl

@[simp] theorem columnFrom_cons (tabSize column : Nat) (c : Char) (s : List Char) :
    columnFrom tabSize column (c :: s) = columnFrom tabSize (nextColumn tabSize column c) s := rfl

/-- Columns are counted on from where the text before ended. -/
theorem columnFrom_append (tabSize column : Nat) (s t : List Char) :
    columnFrom tabSize column (s ++ t) = columnFrom tabSize (columnFrom tabSize column s) t :=
  List.foldl_append

@[simp] theorem columnAfter_nil (tabSize : Nat) : columnAfter tabSize [] = 0 := rfl

/-- Tab stops are the multiples of the tab width. -/
theorem nextStop_eq_mul (tabSize column : Nat) :
    nextStop tabSize column = (column / tabWidth tabSize + 1) * tabWidth tabSize := by
  have h := Nat.div_add_mod' column (tabWidth tabSize)
  rw [Nat.succ_mul, nextStop]
  omega

/-- A tab ends on a multiple of the tab width. -/
theorem tabWidth_dvd_nextStop (tabSize column : Nat) :
    tabWidth tabSize ∣ nextStop tabSize column :=
  nextStop_eq_mul tabSize column ▸ Nat.dvd_mul_left _ _

/-- A tab moves by at least one column. -/
theorem lt_nextStop (tabSize column : Nat) : column < nextStop tabSize column := by
  have h := Nat.mod_lt column (tabWidth_pos tabSize)
  unfold nextStop
  omega

/-- A tab moves by at most the tab width. -/
theorem nextStop_le (tabSize column : Nat) :
    nextStop tabSize column ≤ column + tabWidth tabSize :=
  Nat.sub_le _ _

/-! ## Counting in machine words -/

/-- The number of values that a machine word of 64 bits has. -/
def wordValues : Nat := 18446744073709551616

/-- The sum of two words, if it is a word. -/
def addWord? (a b : Nat) : Option Nat := if a + b < wordValues then some (a + b) else none

/-- The column after a character, counted in words.  A tab moves by its whole width first, so the count
may fail where the next tab stop is a word. -/
def nextColumn? (tabSize column : Nat) (c : Char) : Option Nat :=
  if c = '\t' then (addWord? column (tabWidth tabSize)).map (· - column % tabWidth tabSize)
  else addWord? column 1

/-- The column after a text that starts at `column`, counted in words. -/
def columnFrom? (tabSize column : Nat) (s : List Char) : Option Nat := s.foldlM (nextColumn? tabSize) column

/-- The column at a byte offset of a line, counted in words. -/
def countColumn? (tabSize offset : Nat) (line : List Char) : Option Nat :=
  (upToByte? offset line).bind (columnFrom? tabSize 0)

theorem addWord?_eq_some_iff {a b k : Nat} : addWord? a b = some k ↔ a + b < wordValues ∧ a + b = k := by
  by_cases h : a + b < wordValues <;> simp [addWord?, h]

@[simp] theorem columnFrom?_nil (tabSize column : Nat) : columnFrom? tabSize column [] = some column := rfl

@[simp] theorem columnFrom?_cons (tabSize column : Nat) (c : Char) (s : List Char) :
    columnFrom? tabSize column (c :: s) = (nextColumn? tabSize column c).bind (columnFrom? tabSize · s) :=
  List.foldlM_cons

/-- A character is counted in words exactly if its sum is a word, and then it ends where it should. -/
theorem nextColumn?_eq_some_iff {tabSize column k : Nat} {c : Char} :
    nextColumn? tabSize column c = some k ↔
      column + (if c = '\t' then tabWidth tabSize else 1) < wordValues ∧ nextColumn tabSize column c = k := by
  unfold nextColumn? nextColumn nextStop
  split
  · simp [addWord?_eq_some_iff, and_assoc]
  · exact addWord?_eq_some_iff

/-- What is counted in words is the column. -/
theorem columnFrom_of_columnFrom? {tabSize column k : Nat} {s : List Char}
    (h : columnFrom? tabSize column s = some k) : columnFrom tabSize column s = k := by
  induction s generalizing column with
  | nil => exact Option.some.inj h
  | cons c s ih =>
    rw [columnFrom?_cons, Option.bind_eq_some_iff] at h
    obtain ⟨next, hnext, hrest⟩ := h
    rw [columnFrom_cons, (nextColumn?_eq_some_iff.1 hnext).2]
    exact ih hrest

end GoLayout.Text
