import GoLayout.Proofs.Document.Highlighting
import GoLayout.Proofs.Mode.LineStart

/-!
# Blank lines

A line that holds only blanks does start a line, so it changes the state unless it is empty.  But the next line
that is not empty starts as it would without it, and the same is open.  In code no blank line is written with its
blanks, so the state in which the next line is written is not changed at all; inside a string or a comment lines
are kept, whatever the contexts are.  So a blank line may be put between any two lines of a document, and the other
lines are written and highlighted as before.
-/

namespace GoLayout

open GoLayout.Text GoLayout.Lexis

/-! ## A line within a document -/

namespace Text

variable {before blank after : List Char} {l : Line}

/-- A line with its terminator is cut off the text behind it; without a terminator nothing may follow it. -/
lemma lines_append_of_lines_eq (hl : lines blank = [l]) (hend : l.ending = .absent → after = []) :
    lines (blank ++ after) = l :: lines after := by
  have hchars : blank = l.text ++ l.ending.chars := by
    rw [← unlines_lines blank, hl]
    exact List.append_nil _
  have hsplit : l.ending ≠ .absent → lines (blank ++ after) = lines blank ++ lines after := by
    intro he
    refine lines_append (.inr ?_) after
    rw [hchars]
    cases hc : l.ending with
    | newline => exact List.suffix_append _ _
    | carriageNewline => exact ⟨l.text ++ ['\r'], by simp [Terminator.chars]⟩
    | absent => exact absurd hc he
  by_cases he : l.ending = .absent
  · rw [hend he, List.append_nil, hl]
    rfl
  · rw [hsplit he, hl]
    rfl

end Text

namespace Mode

variable (m : Mode) {s t : State} {l : Line}

/-! ## Writing -/

lemma reindentLines_of_startsAlike (h : s.StartsAlike t) (hk : s.continuation ≠ .code) (ls : List Line) :
    m.reindentLines s ls = m.reindentLines t ls := by
  induction ls with
  | nil => rfl
  | cons l ls ih =>
    have hs : m.reindentLine s l.text = l.text := reindentLine_of_none m (if_pos hk)
    have ht : m.reindentLine t l.text = l.text := reindentLine_of_none m (if_pos (h.continuation_eq ▸ hk))
    rw [reindentLines_cons, reindentLines_cons, hs, ht]
    -- an empty line leaves the two states apart, and any other line brings them together
    by_cases hl : l.text = []
    · rw [hl, highlightLine_nil, highlightLine_nil, ih]
    · rw [m.highlightLine_of_startsAlike h hl]

/-- A blank line is emptied in code and kept elsewhere, and the lines behind it are written as without it. -/
lemma reindentLines_blank_cons (hb : ∀ c ∈ l.text, isBlank c = true) (s : State) (ls : List Line) :
    m.reindentLines s (l :: ls)
      = ⟨if s.continuation = .code then [] else l.text, l.ending⟩ :: m.reindentLines s ls := by
  rw [reindentLines_cons]
  by_cases hk : s.continuation = .code
  · obtain ⟨columns, hs⟩ := m.exists_suggestion?_eq_some hk l.text
    have hline : m.reindentLine s l.text = [] := by
      rw [reindentLine_of_some m hs, if_pos (trimStart_eq_nil_iff.2 hb)]
    rw [hline, highlightLine_nil, if_pos hk]
  · have hline : m.reindentLine s l.text = l.text := reindentLine_of_none m (if_pos hk)
    have halike := m.startsAlike_highlightLine_of_blank hb s
    rw [hline, if_neg hk, m.reindentLines_of_startsAlike halike (halike.continuation_eq ▸ hk)]

lemma continuation_feed_reindentLines (h : s.continuation = t.continuation) (ls : List Line) :
    (m.feed s ((m.reindentLines s ls).map Line.text)).continuation
      = (m.feed t (ls.map Line.text)).continuation := by
  induction ls generalizing s t with
  | nil => exact h
  | cons l ls ih =>
    have hnext : (m.highlightLine (m.reindentLine s l.text) s).2.continuation
        = (m.highlightLine l.text t).2.continuation := by
      rw [continuation_highlightLine, (m.respaced_reindentLine s l).continuationAfter_eq, h,
        continuation_highlightLine]
    exact ih hnext

lemma reindent_append {before : String} (h : before = "" ∨ ['\n'] <:+ before.toList) (after : String) :
    m.reindent (before ++ after)
      = m.reindent before ++ String.ofList (unlines (m.reindentLines
          (m.feed (m.startState 0) ((m.written before).map Line.text)) (lines after.toList))) := by
  have hlines : lines (before ++ after).toList = lines before.toList ++ lines after.toList := by
    rw [String.toList_append]
    exact lines_append (h.imp_left String.toList_eq_nil_iff.2) _
  rw [reindent_eq, reindent_eq, hlines, reindentLines_append, unlines, List.flatMap_append, String.ofList_append]
  rfl

/-! ## Highlighting -/

lemma highlightFrom_blank_cons {line : List Char} (hb : ∀ c ∈ line, isBlank c = true) (number : Nat)
    (s : State) (ls : List (List Char)) :
    m.highlightFrom number s (line :: ls)
      = ⟨number, (m.highlightLine line s).1⟩ :: (m.highlightFrom number s ls).map LineSpans.below := by
  have hk := (m.startsAlike_highlightLine_of_blank hb s).continuation_eq
  rw [highlightFrom_cons, m.highlightFrom_congr m hk, highlightFrom_succ]

lemma highlight_append {before : String} (h : before = "" ∨ ['\n'] <:+ before.toList) (after : String) :
    m.highlight (before ++ after)
      = m.highlight before ++ m.highlightFrom (1 + (lines before.toList).length)
          (m.feed (m.startState 0) ((lines before.toList).map Line.text))
          ((lines after.toList).map Line.text) := by
  have hlines : lines (before ++ after).toList = lines before.toList ++ lines after.toList := by
    rw [String.toList_append]
    exact lines_append (h.imp_left String.toList_eq_nil_iff.2) _
  rw [highlight_eq, highlight_eq, hlines, List.map_append, highlightFrom_append, List.length_map]

/-! ## Blank lines are neutral -/

/-- **Blank lines are neutral.**

In any state, a line that is not empty has the same spans behind blank lines as without them, and leads to the same
state.  Let a blank line with its terminator be put between two parts of a document, of which the first one ends its
last line.  Then the parts are written as before, and so is the blank line if a string or a comment is open there;
otherwise only its terminator is written.  The lines of both parts have the spans that they had. -/
theorem blank_line_neutral :
    (∀ (s : State) (blanks : List (List Char)), (∀ b ∈ blanks, ∀ c ∈ b, isBlank c = true) →
      ∀ line, line ≠ [] → m.highlightLine line (m.feed s blanks) = m.highlightLine line s) ∧
    ∀ (before blank after : String) (l : Line), (before = "" ∨ ['\n'] <:+ before.toList) →
      lines blank.toList = [l] → (∀ c ∈ l.text, isBlank c = true) → (l.ending = .absent → after = "") →
      let s := m.feed (m.startState 0) ((lines before.toList).map Line.text)
      (∃ rest, m.reindent (before ++ after) = m.reindent before ++ rest ∧
        m.reindent (before ++ (blank ++ after)) = m.reindent before ++
          ((if s.continuation = .code then String.ofList l.ending.chars else blank) ++ rest)) ∧
      ∃ rest, m.highlight (before ++ after) = m.highlight before ++ rest ∧
        m.highlight (before ++ (blank ++ after)) = m.highlight before ++
          ⟨1 + (lines before.toList).length, (m.highlightLine l.text s).1⟩ :: rest.map LineSpans.below := by
  refine ⟨fun s blanks hb line hl => ?_, fun before blank after l hbefore hl hb hend => ?_⟩
  · exact m.highlightLine_of_startsAlike (m.startsAlike_feed_of_blank hb s) hl
  · intro s
    have hlines : lines (blank ++ after).toList = l :: lines after.toList := by
      rw [String.toList_append]
      exact lines_append_of_lines_eq hl fun he => String.toList_eq_nil_iff.2 (hend he)
    refine ⟨⟨_, m.reindent_append hbefore after, ?_⟩, ⟨_, m.highlight_append hbefore after, ?_⟩⟩
    · have hk : (m.feed (m.startState 0) ((m.written before).map Line.text)).continuation = s.continuation :=
        m.continuation_feed_reindentLines rfl _
      have hblank : String.ofList (l.text ++ l.ending.chars) = blank := by
        rw [← String.ofList_toList (s := blank), ← unlines_lines blank.toList, hl]
        exact congrArg String.ofList (List.append_nil _).symm
      -- the blank line is written on its own, and the lines behind it as if it were not there
      rw [m.reindent_append hbefore, hlines, m.reindentLines_blank_cons hb, hk, unlines, List.flatMap_cons,
        String.ofList_append]
      congr 2
      split
      · rfl
      · exact hblank
    · rw [m.highlight_append hbefore, hlines, List.map_cons, m.highlightFrom_blank_cons hb]

/-- Blank lines behind the label of a case, which end its body, and one in a raw string, which stays there and
settles the call around the string. -/
theorem blank_line_neutral_of_raw_string :
    let s := default.feed (default.startState 0) ["switch x \x7b".toList, "case 1:".toList]
    let blanks := ["\t ".toList, []]
    let before := "f(`a\n"
    let blank := "\t \r\n"
    let after := "\n` )\n"
    let l : Line := ⟨"\t ".toList, .carriageNewline⟩
    ((∀ b ∈ blanks, ∀ c ∈ b, isBlank c = true) ∧ "case 2:".toList ≠ [] ∧
        (before = "" ∨ ['\n'] <:+ before.toList) ∧ lines blank.toList = [l] ∧
        (∀ c ∈ l.text, isBlank c = true) ∧ (l.ending = .absent → after = "")) ∧
      ((default.feed s blanks).head.kind ≠ s.head.kind ∧
        default.highlightLine "case 2:".toList (default.feed s blanks)
          = default.highlightLine "case 2:".toList s) ∧
      ∃ rest, default.reindent (before ++ after) = default.reindent before ++ rest ∧
        default.reindent (before ++ (blank ++ after)) = default.reindent before ++ (blank ++ rest) := by
  intro s blanks before blank after l
  -- blanks are tested by `all`, since `decide` might go through all characters for the quantifier
  have hall : ∀ b ∈ blanks, b.all isBlank = true := by decide +kernel
  have hblanks : ∀ b ∈ blanks, ∀ c ∈ b, isBlank c = true := fun b hb => List.all_eq_true.1 (hall b hb)
  have hline : "case 2:".toList ≠ [] := by decide +kernel
  have hbefore : before = "" ∨ ['\n'] <:+ before.toList := by decide +kernel
  have hl : lines blank.toList = [l] := by decide +kernel
  have hb : ∀ c ∈ l.text, isBlank c = true := List.all_eq_true.1 (by decide +kernel)
  have hend : l.ending = .absent → after = "" := by decide +kernel
  obtain ⟨hstate, hdocument⟩ := blank_line_neutral default
  obtain ⟨⟨rest, hwithout, hwith⟩, -⟩ := hdocument before blank after l hbefore hl hb hend
  refine ⟨⟨hblanks, hline, hbefore, hl, hb, hend⟩, ⟨by decide +kernel, hstate s blanks hblanks _ hline⟩,
    rest, hwithout, ?_⟩
  rwa [if_neg (by decide +kernel)] at hwith

end Mode

end GoLayout
