import GoLayout.Text.Column
import Mathlib.Data.List.TakeWhile
import Mathlib.Tactic.Lemma

/-!
# Leading blanks

Blanks in front of a text are cut off again, and they are all that is cut off.  A line is thus known by
its leading blanks and its trimmed text, and each of the two may be replaced without the other.  Runs of
tabs and runs of spaces are measured here too, from any column.
-/

namespace GoLayout.Text

variable {blanks text line : List Char}

/-- A text starts with no blank: it is empty or starts with a character that is not blank. -/
def StartsSolid (text : List Char) : Prop := leadingBlanks text = []

instance (text : List Char) : Decidable (StartsSolid text) := inferInstanceAs (Decidable (_ = _))

lemma startsSolid_cons_iff {c : Char} : StartsSolid (c :: text) ↔ isBlank c = false := by
  unfold StartsSolid leadingBlanks
  by_cases h : isBlank c = true <;> simp [h]

@[simp] lemma startsSolid_trimStart (line : List Char) : StartsSolid (trimStart line) := by
  unfold trimStart
  induction line with
  | nil => rfl
  | cons c line ih =>
    rw [List.dropWhile_cons]
    split
    · exact ih
    · rename_i h
      exact startsSolid_cons_iff.2 (by simpa using h)

lemma StartsSolid.trimStart_eq (h : StartsSolid text) : trimStart text = text := by
  have := leadingBlanks_append_trimStart text
  rwa [show leadingBlanks text = [] from h, List.nil_append] at this

@[simp] lemma trimStart_trimStart (line : List Char) : trimStart (trimStart line) = trimStart line :=
  (startsSolid_trimStart line).trimStart_eq

@[simp] lemma trimStart_nil : trimStart [] = [] := rfl

/-- A part from the front of a text that starts with no blank starts with none. -/
lemma StartsSolid.of_append {rest : List Char} (h : StartsSolid (text ++ rest)) : StartsSolid text := by
  cases text with
  | nil => rfl
  | cons c text => exact startsSolid_cons_iff.2 (startsSolid_cons_iff.1 h)

lemma isBlank_of_mem_leadingBlanks {c : Char} (h : c ∈ leadingBlanks line) : isBlank c = true :=
  List.mem_takeWhile_imp h

lemma trimStart_eq_nil_iff : trimStart line = [] ↔ ∀ c ∈ line, isBlank c = true :=
  List.dropWhile_eq_nil_iff

lemma leadingBlanks_append (hb : ∀ c ∈ blanks, isBlank c = true) (ht : StartsSolid text) :
    leadingBlanks (blanks ++ text) = blanks := by
  rw [leadingBlanks, List.takeWhile_append_of_pos hb]
  exact (congrArg (blanks ++ ·) ht).trans (List.append_nil blanks)

lemma trimStart_append (hb : ∀ c ∈ blanks, isBlank c = true) :
    trimStart (blanks ++ text) = trimStart text :=
  List.dropWhile_append_of_pos hb

lemma utf8Length_sub_trimStart (line : List Char) :
    utf8Length line - utf8Length (trimStart line) = utf8Length (leadingBlanks line) := by
  have h := congrArg utf8Length (leadingBlanks_append_trimStart line)
  rw [utf8Length_append] at h
  omega

/-! ## Widths -/

lemma lt_nextColumn (tabSize column : Nat) (c : Char) : column < nextColumn tabSize column c := by
  unfold nextColumn
  split
  · exact lt_nextStop tabSize column
  · exact Nat.lt_succ_self column

lemma nextColumn_le (tabSize column : Nat) (c : Char) : nextColumn tabSize column c ≤ column + tabWidth tabSize := by
  unfold nextColumn
  split
  · exact nextStop_le tabSize column
  · exact Nat.add_le_add_left (tabWidth_pos tabSize) column

lemma length_le_columnFrom (tabSize column : Nat) (s : List Char) :
    column + s.length ≤ columnFrom tabSize column s := by
  induction s generalizing column with
  | nil => rfl
  | cons c s ih =>
    have hc := lt_nextColumn tabSize column c
    have hs := ih (nextColumn tabSize column c)
    rw [columnFrom_cons, List.length_cons]
    omega

/-- A text takes at most as many columns as if all its characters were tabs. -/
lemma columnFrom_le (tabSize column : Nat) (s : List Char) :
    columnFrom tabSize column s ≤ column + s.length * tabWidth tabSize := by
  induction s generalizing column with
  | nil => simp
  | cons c s ih =>
    have hc := nextColumn_le tabSize column c
    have hs := ih (nextColumn tabSize column c)
    rw [columnFrom_cons, List.length_cons, Nat.succ_mul]
    omega

lemma lt_columnFrom {s : List Char} (h : s ≠ []) (tabSize column : Nat) : column < columnFrom tabSize column s := by
  have hpos := List.length_pos_iff.2 h
  have hle := length_le_columnFrom tabSize column s
  omega

/-- Behind a tab there is a tab stop. -/
lemma tabWidth_dvd_columnAfter_tab (tabSize : Nat) (s : List Char) :
    tabWidth tabSize ∣ columnAfter tabSize (s ++ ['\t']) := by
  have hn : columnAfter tabSize (s ++ ['\t']) = nextStop tabSize (columnAfter tabSize s) := by
    rw [columnAfter, columnFrom_append, columnFrom_cons, columnFrom_nil, nextColumn, if_pos rfl, columnAfter]
  rw [hn]
  exact tabWidth_dvd_nextStop _ _

lemma indentation_eq_zero_iff {tabSize : Nat} : indentation tabSize line = 0 ↔ StartsSolid line := by
  constructor
  · intro h
    have hl := length_le_columnFrom tabSize 0 (leadingBlanks line)
    have h0 : columnFrom tabSize 0 (leadingBlanks line) = 0 := h
    exact List.length_eq_zero_iff.1 (by omega)
  · intro h
    rw [indentation, show leadingBlanks line = [] from h, columnAfter_nil]

/-- A text is counted in words if it were also one if all its characters were tabs. -/
lemma columnFrom?_eq_some {tabSize column : Nat} {s : List Char}
    (h : column + s.length * tabWidth tabSize < wordValues) :
    columnFrom? tabSize column s = some (columnFrom tabSize column s) := by
  induction s generalizing column with
  | nil => rfl
  | cons c s ih =>
    rw [List.length_cons, Nat.succ_mul] at h
    have hwidth := tabWidth_pos tabSize
    have hle := nextColumn_le tabSize column c
    have hnext : nextColumn? tabSize column c = some (nextColumn tabSize column c) := by
      refine nextColumn?_eq_some_iff.2 ⟨?_, rfl⟩
      split <;> omega
    rw [columnFrom?_cons, hnext, Option.bind_some, columnFrom_cons]
    exact ih (by omega)

/-! ## Runs of tabs and spaces -/

lemma columnFrom_replicate_space (tabSize column n : Nat) :
    columnFrom tabSize column (List.replicate n ' ') = column + n := by
  induction n generalizing column with
  | zero => rfl
  | succ n ih =>
    have hn : nextColumn tabSize column ' ' = column + 1 := if_neg (by decide)
    rw [List.replicate_succ, columnFrom_cons, ih, hn]
    omega

/-- A run of tabs from a tab stop on ends as many tab stops further on. -/
lemma columnFrom_replicate_tab (tabSize k n : Nat) :
    columnFrom tabSize (k * tabWidth tabSize) (List.replicate n '\t')
      = (k + n) * tabWidth tabSize := by
  induction n generalizing k with
  | zero => rfl
  | succ n ih =>
    have hn : nextColumn tabSize (k * tabWidth tabSize) '\t' = (k + 1) * tabWidth tabSize := by
      rw [nextColumn, if_pos rfl, nextStop_eq_mul, Nat.mul_div_cancel _ (tabWidth_pos tabSize)]
    rw [List.replicate_succ, columnFrom_cons, hn, ih, Nat.add_right_comm k 1 n, Nat.add_assoc]

end GoLayout.Text
