import GoLayout.Proofs.Document.Content
import GoLayout.Proofs.Layout.Levels

/-!
# Tabs and spaces

Whether indentation is written with tabs or with spaces makes no difference to what is read.  The state after a
line depends on the width of its leading blanks and on the text behind them, because the columns of that text are
counted on from that width.  So two runs that write different blanks of the same width stay in the same states, and
write lines that look alike.
-/

namespace GoLayout

open GoLayout.Text GoLayout.Lexis

/-! ## Lines that look alike -/

/-- Two texts are the same but for their leading blanks, and these are of the same width. -/
structure Alike (tabSize : Nat) (text text' : List Char) : Prop where
  trimStart_eq : trimStart text = trimStart text'
  indentation_eq : indentation tabSize text = indentation tabSize text'

namespace Alike

variable {tabSize : Nat} {text text' : List Char}

lemma refl (tabSize : Nat) (text : List Char) : Alike tabSize text text := ⟨rfl, rfl⟩

lemma eq_nil_iff (h : Alike tabSize text text') : text = [] ↔ text' = [] := by
  have key : ∀ line : List Char, line = [] ↔ trimStart line = [] ∧ indentation tabSize line = 0 := by
    intro line
    rw [indentation_eq_zero_iff]
    refine ⟨?_, fun ⟨ht, hs⟩ => hs.trimStart_eq ▸ ht⟩
    rintro rfl
    exact ⟨rfl, rfl⟩
  rw [key text, key text', h.trimStart_eq, h.indentation_eq]

end Alike

/-- Two lines have the same terminator and texts that look alike. -/
structure Text.Line.Alike (tabSize : Nat) (l l' : Line) : Prop where
  text : GoLayout.Alike tabSize l.text l'.text
  ending_eq : l.ending = l'.ending

lemma Text.Line.Alike.eq_empty_iff {tabSize : Nat} {l l' : Line} (h : l.Alike tabSize l')
    {ending : Terminator} : l = ⟨[], ending⟩ ↔ l' = ⟨[], ending⟩ := by
  obtain ⟨text, e⟩ := l
  obtain ⟨text', e'⟩ := l'
  rw [Line.mk.injEq, Line.mk.injEq, show e = e' from h.ending_eq, show text = [] ↔ text' = [] from h.text.eq_nil_iff]

lemma take_zip_right {α β : Type} (as : List α) (bs : List β) (n : Nat) :
    (as.zip bs).take n = as.zip (bs.take n) := by
  induction n generalizing as bs with
  | zero => simp
  | succ n ih =>
    cases as with
    | nil => simp
    | cons a as =>
      cases bs with
      | nil => simp
      | cons b bs => simp [ih]

namespace Mode

variable (m : Mode)

/-- The state after a line counts the columns of what follows the leading blanks from their width on. -/
lemma snd_highlightLine_eq_trimStart {line : List Char} (h : line ≠ []) (s : State) :
    (m.highlightLine line s).2
      = (s.startLine (indentation m.config.tabSize line)).absorbAll m.config.tabSize
          (indentation m.config.tabSize line) (readLine s.continuation (trimStart line)) := by
  rw [snd_highlightLine m h, readLine_eq_append, State.absorbAll_append, flatMap_text_indentSpan,
    State.absorbAll_indentSpan (s.continuation_startLine _)]
  rfl

lemma snd_highlightLine_of_alike {line line' : List Char} (h : Alike m.config.tabSize line line') (s : State) :
    (m.highlightLine line s).2 = (m.highlightLine line' s).2 := by
  by_cases hl : line = []
  · rw [hl, h.eq_nil_iff.1 hl]
  · rw [m.snd_highlightLine_eq_trimStart hl, m.snd_highlightLine_eq_trimStart (h.eq_nil_iff.not.1 hl),
      h.trimStart_eq, h.indentation_eq]

/-- The written document is cut into its lines, one after the other, up to an empty one without a terminator. -/
lemma lines_reindent_eq_take (document : String) :
    lines (m.reindent document).toList
      = (m.written document).take (lines (m.reindent document).toList).length := by
  rcases m.lines_reindent document with h | h
  · rw [written, ← h, List.take_length]
  · rw [written, h, List.take_left]

/-! ## Two ways to write indentation -/

/-- The mode that writes indentation with tabs or without them, and reads lines as before. -/
def withTabs (b : Bool) : Mode :=
  ⟨{ m.config with indentWithTabs := b }, ⟨m.usable.indentUnit_pos, m.usable.tabSize_pos⟩⟩

lemma suggestion?_withTabs (b : Bool) (s : State) (line : List Char) :
    (m.withTabs b).suggestion? s line = m.suggestion? s line := rfl

/-- In the same state the two ways to write a line look alike, and a line that is kept is the same. -/
lemma alike_reindentLine_withTabs (b b' : Bool) (s : State) (line : List Char) :
    Alike m.config.tabSize ((m.withTabs b).reindentLine s line) ((m.withTabs b').reindentLine s line) ∧
      (s.continuation ≠ .code →
        (m.withTabs b).reindentLine s line = (m.withTabs b').reindentLine s line) := by
  -- both modes suggest the same, and where they suggest nothing they keep the line
  cases h : m.suggestion? s line with
  | none =>
    rw [reindentLine_of_none _ (suggestion?_withTabs m b s line ▸ h),
      reindentLine_of_none _ (suggestion?_withTabs m b' s line ▸ h)]
    exact ⟨.refl _ _, fun _ => rfl⟩
  | some columns =>
    have hk : s.continuation = .code := by
      by_contra hk
      have hn : m.suggestion? s line = none := if_pos hk
      rw [h] at hn
      cases hn
    refine ⟨⟨by rw [trimStart_reindentLine, trimStart_reindentLine], ?_⟩, fun hn => absurd hk hn⟩
    rw [reindentLine_of_some _ (suggestion?_withTabs m b s line ▸ h),
      reindentLine_of_some _ (suggestion?_withTabs m b' s line ▸ h)]
    split
    · rfl
    · have hw : ∀ c : Config, indentation c.tabSize (c.blanks columns ++ trimStart line) = columns.toNat :=
        fun c => Config.indentation_blanks_append (startsSolid_trimStart line)
      exact (hw (m.withTabs b).config).trans (hw (m.withTabs b').config).symm

/-- Two runs that write their lines with tabs and with spaces go through the same states, and write lines that
look alike. -/
lemma reindentLines_withTabs (b b' : Bool) (s : State) (ls : List Line) :
    let out := (m.withTabs b).reindentLines s ls
    let out' := (m.withTabs b').reindentLines s ls
    m.states s (out.map Line.text) = m.states s (out'.map Line.text) ∧
      List.Forall₂ (Line.Alike m.config.tabSize) out out' ∧
      List.Forall₂ (fun p l => p.1.continuation ≠ .code → p.2 = l)
        ((m.states s (out.map Line.text)).zip out) out' := by
  induction ls generalizing s with
  | nil => exact ⟨rfl, .nil, .nil⟩
  | cons l ls ih =>
    intro out out'
    obtain ⟨halike, hkept⟩ := m.alike_reindentLine_withTabs b b' s l.text
    -- from the second line on both runs go on from the same state
    have hnext : (m.highlightLine ((m.withTabs b).reindentLine s l.text) s).2
        = (m.highlightLine ((m.withTabs b').reindentLine s l.text) s).2 := m.snd_highlightLine_of_alike halike s
    obtain ⟨hstates, hlines, hlines'⟩ := ih (m.highlightLine ((m.withTabs b).reindentLine s l.text) s).2
    have hout : out = ⟨(m.withTabs b).reindentLine s l.text, l.ending⟩ ::
        (m.withTabs b).reindentLines (m.highlightLine ((m.withTabs b).reindentLine s l.text) s).2 ls := rfl
    have hout' : out' = ⟨(m.withTabs b').reindentLine s l.text, l.ending⟩ ::
        (m.withTabs b').reindentLines (m.highlightLine ((m.withTabs b).reindentLine s l.text) s).2 ls := by
      rw [hnext]
      rfl
    rw [hout, hout', List.map_cons, List.map_cons, states_cons, states_cons, List.zip_cons_cons]
    refine ⟨?_, .cons ⟨halike, rfl⟩ hlines, .cons (fun hk => ?_) hlines'⟩
    · rw [hstates, hnext]
    · rw [hkept hk]

/-- **Tabs or spaces are only two ways to write the same.**

Whether indentation is written with tabs or with spaces, the states before and after each line are the same.  The
written documents have the same lines but for leading blanks of the same width, with the same terminators, and what
stands inside of a string or a comment is the same. -/
theorem reindent_withTabs (document : String) :
    let states b := (m.withTabs b).writtenStates document
    let out b := lines ((m.withTabs b).reindent document).toList
    states true = states false ∧
      List.Forall₂ (Line.Alike m.config.tabSize) (out true) (out false) ∧
      List.Forall₂ (fun p l => p.1.continuation ≠ .code → p.2 = l)
        ((states true).zip (out true)) (out false) := by
  intro states out
  obtain ⟨hstates, halike, hkept⟩ :=
    m.reindentLines_withTabs true false (m.startState 0) (lines document.toList)
  have hfilter : ∀ b, out b = ((m.withTabs b).written document).filter (· ≠ ⟨[], .absent⟩) := fun b => by
    simp only [out, reindent_eq, String.toList_ofList]
    exact ((m.withTabs b).separated_reindentLines _ (separated_lines document.toList)).lines_unlines_eq_filter
  have htake : ∀ b, out b = ((m.withTabs b).written document).take (out b).length := fun b =>
    (m.withTabs b).lines_reindent_eq_take document
  have hout : List.Forall₂ (Line.Alike m.config.tabSize) (out true) (out false) := by
    rw [hfilter true, hfilter false]
    exact List.rel_filter (fun l l' h => by simpa using h.eq_empty_iff.not) halike
  refine ⟨hstates, hout, ?_⟩
  rw [htake true, htake false, hout.length_eq, ← take_zip_right]
  exact List.forall₂_take _ hkept

end Mode

end GoLayout
