import GoLayout.Document.Reindent
import GoLayout.Proofs.Document.Indentation
import GoLayout.Proofs.Mode.Run
import GoLayout.Proofs.Text.Lines

/-!
# Re-indented documents are stable

A suggestion is made for the trimmed text of a line, and re-indenting does not change the trimmed text.  So
a line that was written once is written the same again in the same state, and as the state after a line is
that after the written line, a second pass goes through the states of the first.  What is left to show is
that a document which was put together from the written lines is cut into them again.
-/

namespace GoLayout.Mode

open GoLayout.Text

variable (m : Mode)

/-! ## A line that is written -/

lemma suggestion?_trimStart (s : State) (line : List Char) :
    m.suggestion? s (trimStart line) = m.suggestion? s line := by
  simp only [suggestion?, trimStart_trimStart]

lemma exists_suggestion?_eq_some {s : State} (h : s.continuation = .code) (line : List Char) :
    ∃ columns, m.suggestion? s line = some columns := by
  simp only [suggestion?, h, ne_eq, not_true_eq_false, if_false]
  split <;> exact ⟨_, rfl⟩

lemma reindentLine_of_none {s : State} {line : List Char} (h : m.suggestion? s line = none) :
    m.reindentLine s line = line := by
  simp only [reindentLine, h]

lemma reindentLine_of_some {s : State} {line : List Char} {columns : Int}
    (h : m.suggestion? s line = some columns) :
    m.reindentLine s line =
      if trimStart line = [] then [] else m.config.blanks columns ++ trimStart line := by
  simp only [reindentLine, h]

@[simp] lemma trimStart_reindentLine (s : State) (line : List Char) :
    trimStart (m.reindentLine s line) = trimStart line := by
  cases h : m.suggestion? s line with
  | none => rw [reindentLine_of_none m h]
  | some columns =>
    rw [reindentLine_of_some m h]
    split
    · rename_i ht
      rw [ht, trimStart_nil]
    · exact Config.trimStart_blanks_append (startsSolid_trimStart line)

lemma reindentLine_reindentLine (s : State) (line : List Char) :
    m.reindentLine s (m.reindentLine s line) = m.reindentLine s line := by
  have hs : m.suggestion? s (m.reindentLine s line) = m.suggestion? s line := by
    rw [← suggestion?_trimStart, trimStart_reindentLine, suggestion?_trimStart]
  cases h : m.suggestion? s line with
  | none => rw [reindentLine_of_none m h, reindentLine_of_none m h]
  | some columns =>
    rw [reindentLine_of_some m (hs.trans h), trimStart_reindentLine, reindentLine_of_some m h]

lemma sound_reindentLine (s : State) {l : Line} (h : l.Sound) :
    Line.Sound ⟨m.reindentLine s l.text, l.ending⟩ := by
  cases hs : m.suggestion? s l.text with
  | none => rwa [reindentLine_of_none m hs]
  | some columns =>
    rw [reindentLine_of_some m hs]
    split
    · exact ⟨by simp, by simp⟩
    · rename_i ht
      have hsuffix : trimStart l.text <:+ l.text :=
        ⟨leadingBlanks l.text, leadingBlanks_append_trimStart l.text⟩
      refine ⟨fun hn => ?_, fun he hr => ?_⟩
      · rcases List.mem_append.1 hn with hn | hn
        · exact absurd (Config.eq_of_mem_blanks hn) (by decide)
        · exact h.newline_notMem (hsuffix.subset hn)
      · have hr' : ['\r'] <:+ trimStart l.text :=
          List.suffix_of_suffix_length_le hr (List.suffix_append _ _) (List.length_pos_iff.2 ht)
        exact h.not_suffix he (hr'.trans hsuffix)

/-! ## The lines of a document -/

lemma reindent_eq (document : String) :
    m.reindent document
      = String.ofList (unlines (m.reindentLines (m.startState 0) (lines document.toList))) := by
  rw [lines_eq_map_ofPiece]
  rfl

lemma highlight_eq (document : String) :
    m.highlight document = m.highlightFrom 1 (m.startState 0) ((lines document.toList).map Line.text) := by
  rw [map_text_lines]
  rfl

@[simp] lemma reindentLines_nil (s : State) : m.reindentLines s [] = [] := rfl

lemma reindentLines_cons (s : State) (l : Line) (ls : List Line) :
    m.reindentLines s (l :: ls) =
      ⟨m.reindentLine s l.text, l.ending⟩ ::
        m.reindentLines (m.highlightLine (m.reindentLine s l.text) s).2 ls := rfl

/-- Later lines are written in the state after the lines that were written before. -/
lemma reindentLines_append (s : State) (as bs : List Line) :
    m.reindentLines s (as ++ bs) =
      m.reindentLines s as ++
        m.reindentLines (m.feed s ((m.reindentLines s as).map Line.text)) bs := by
  induction as generalizing s with
  | nil => rfl
  | cons l as ih => rw [List.cons_append, reindentLines_cons, ih, reindentLines_cons, List.cons_append,
      List.map_cons, feed_cons]

@[simp] lemma map_ending_reindentLines (s : State) (ls : List Line) :
    (m.reindentLines s ls).map Line.ending = ls.map Line.ending := by
  induction ls generalizing s with
  | nil => rfl
  | cons l ls ih => exact congrArg (l.ending :: ·) (ih _)

@[simp] lemma length_reindentLines (s : State) (ls : List Line) :
    (m.reindentLines s ls).length = ls.length := by
  rw [← List.length_map Line.ending, map_ending_reindentLines, List.length_map]

lemma reindentLines_reindentLines (s : State) (ls : List Line) :
    m.reindentLines s (m.reindentLines s ls) = m.reindentLines s ls := by
  induction ls generalizing s with
  | nil => rfl
  | cons l ls ih =>
    simp only [reindentLines_cons, reindentLine_reindentLine, ih]

lemma separated_reindentLines (s : State) {ls : List Line} (h : Separated ls) :
    Separated (m.reindentLines s ls) := by
  induction h generalizing s with
  | nil => exact .nil
  | @last text h =>
    have hl : Line.Sound ⟨text, .absent⟩ := ⟨h, by simp⟩
    exact .last (m.sound_reindentLine s hl).newline_notMem
  | cons h he hs ih => exact .cons (m.sound_reindentLine s h) he (ih _)

/-- A written document is cut into the lines that were written, but for a blank last line without a
terminator. -/
lemma lines_reindent (document : String) :
    let out := m.reindentLines (m.startState 0) (lines document.toList)
    lines (m.reindent document).toList = out ∨
      out = lines (m.reindent document).toList ++ [⟨[], .absent⟩] := by
  rw [reindent_eq, String.toList_ofList]
  exact lines_unlines (m.separated_reindentLines _ (separated_lines document.toList))

/-- Written lines are also kept if some of them are left out at the end. -/
lemma reindentLines_eq_self_of_append {s : State} {as bs : List Line}
    (h : m.reindentLines s (as ++ bs) = as ++ bs) : m.reindentLines s as = as := by
  rw [reindentLines_append] at h
  exact (List.append_inj h (m.length_reindentLines s as)).1

/-- **Re-indenting a document that was re-indented changes nothing.** -/
theorem reindent_reindent (document : String) :
    m.reindent (m.reindent document) = m.reindent document := by
  have hfix := m.reindentLines_reindentLines (m.startState 0) (lines document.toList)
  have hlines : m.reindentLines (m.startState 0) (lines (m.reindent document).toList)
      = lines (m.reindent document).toList := by
    rcases m.lines_reindent document with h | h
    · rw [h, hfix]
    · rw [h] at hfix
      exact m.reindentLines_eq_self_of_append hfix
  rw [reindent_eq, hlines, unlines_lines, String.ofList_toList]

end GoLayout.Mode
