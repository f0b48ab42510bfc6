import GoLayout.Document.Reindent
import GoLayout.Proofs.Text.Blanks

/-!
# The blanks that are written

The blanks that a configuration writes for some columns are as wide as the columns that were asked for,
whether they are tabs and spaces or spaces alone.  In front of a text that starts with no blank they are
the indentation of the line.
-/

namespace GoLayout.Config

open GoLayout.Text

lemma eq_of_mem_blanks {c : Config} {columns : Int} {ch : Char} (h : ch ∈ c.blanks columns) :
    ch = '\t' ∨ ch = ' ' := by
  unfold blanks at h
  dsimp only at h
  split at h
  · exact (List.mem_append.1 h).imp List.eq_of_mem_replicate List.eq_of_mem_replicate
  · exact .inr (List.eq_of_mem_replicate h)

lemma isBlank_of_mem_blanks {c : Config} {columns : Int} {ch : Char} (h : ch ∈ c.blanks columns) :
    isBlank ch = true := by
  rcases eq_of_mem_blanks h with rfl | rfl <;> decide

/-- The blanks are as wide as was asked for; a negative number of columns counts as none. -/
lemma columnAfter_blanks (c : Config) (columns : Int) :
    columnAfter c.tabSize (c.blanks columns) = columns.toNat := by
  unfold blanks
  dsimp only
  split
  · have ht := columnFrom_replicate_tab c.tabSize 0 (columns.toNat / tabWidth c.tabSize)
    rw [Nat.zero_mul, Nat.zero_add] at ht
    rw [columnAfter, columnFrom_append, ht, columnFrom_replicate_space, Nat.mul_comm]
    exact Nat.div_add_mod _ _
  · rw [columnAfter, columnFrom_replicate_space, Nat.zero_add]

variable {c : Config} {columns : Int} {text : List Char}

lemma trimStart_blanks_append (ht : StartsSolid text) :
    trimStart (c.blanks columns ++ text) = text := by
  rw [trimStart_append fun _ => isBlank_of_mem_blanks, ht.trimStart_eq]

/-- The indentation of a written line is what was asked for. -/
lemma indentation_blanks_append (ht : StartsSolid text) :
    indentation c.tabSize (c.blanks columns ++ text) = columns.toNat := by
  rw [indentation, leadingBlanks_append (fun _ => isBlank_of_mem_blanks) ht, columnAfter_blanks]

end GoLayout.Config
