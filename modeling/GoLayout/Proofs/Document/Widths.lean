import GoLayout.Proofs.Document.Content
import GoLayout.Proofs.Mode.Root

/-!
# Measured indentation

Indentation is written in columns and measured in columns, and the two are inverse to each other: the writer divides
by the tab width, the reader goes from tab stop to tab stop, and both come to the same number for every tab width.
A line that starts with no blank is thus found again behind the blanks that are written in front of it, and so is the
column that was asked for.

When a document is re-indented, each line that is written is read next.  So the mode measures its own suggestion: it
starts the line with that indentation, and goes on with it behind the line, unless the line closes a bracket of a
line before.  Brackets that the line opens itself remember the same indentation, so it does not matter whether they
are closed again (`Nesting.OpenedAt`).
-/

namespace GoLayout

open GoLayout.Text GoLayout.Lexis GoLayout.Layout

/-! ## Contexts that a line has opened -/

namespace Nesting

/-- All contexts above the innermost `below` ones were opened in a line that is indented by `width`. -/
def OpenedAt (width : Int) (below : Nat) (n : Nesting) : Prop :=
  ∃ opened rest, n.inner = opened ++ rest ∧ rest.length = below ∧ ∀ x ∈ opened, x.indented = width

variable {n : Nesting} {x : Context} {width : Int} {below : Nat}

lemma openedAt_length (n : Nesting) (width : Int) : n.OpenedAt width n.inner.length :=
  ⟨[], n.inner, rfl, rfl, by simp⟩

lemma OpenedAt.mapHead {f : Context → Context} (h : n.OpenedAt width below) (hf : ∀ x, (f x).indented = x.indented) :
    (n.mapHead f).OpenedAt width below := by
  obtain ⟨inner, root⟩ := n
  obtain ⟨opened, rest, hn, hrest, hopened⟩ := h
  dsimp only at hn
  subst hn
  cases opened with
  | nil =>
    cases rest with
    | nil => exact ⟨[], [], rfl, hrest, by simp⟩
    | cons y rest => exact ⟨[], f y :: rest, rfl, hrest, by simp⟩
  | cons y opened =>
    obtain ⟨hy, hys⟩ := List.forall_mem_cons.1 hopened
    exact ⟨f y :: opened, rest, rfl, hrest, List.forall_mem_cons.2 ⟨(hf y).trans hy, hys⟩⟩

lemma OpenedAt.push (h : n.OpenedAt width below) (hx : x.indented = width) : (n.push x).OpenedAt width below := by
  obtain ⟨opened, rest, hn, hrest, hopened⟩ := h
  exact ⟨x :: opened, rest, congrArg (x :: ·) hn, hrest, List.forall_mem_cons.2 ⟨hx, hopened⟩⟩

lemma OpenedAt.of_push (h : (n.push x).OpenedAt width below) (hn : below ≤ n.inner.length) :
    x.indented = width ∧ n.OpenedAt width below := by
  obtain ⟨opened, rest, hpush, hrest, hopened⟩ := h
  cases opened with
  | nil =>
    have hlen := congrArg List.length hpush
    rw [Nesting.push, List.length_cons, List.nil_append] at hlen
    omega
  | cons y opened =>
    obtain ⟨hxy, htail⟩ := List.cons.inj hpush
    obtain ⟨hy, hys⟩ := List.forall_mem_cons.1 hopened
    exact ⟨hxy ▸ hy, opened, rest, htail, hrest, hys⟩

end Nesting

namespace State

variable {s t : State} {width : Int} {below : Nat}

/-- A state within a line that is indented by `width`, before which `below` contexts were open. -/
structure InLine (width : Int) (below : Nat) (s : State) : Prop where
  indented : s.indented = width
  nesting : s.nesting.OpenedAt width below

/-- A span that closes no context of a line before leaves the line indented as it was. -/
lemma Effect.inLine {r : Scan} {column indented : Int} {n : Nesting} (h : Effect r column n indented t)
    (hi : indented = width) (hn : n.OpenedAt width below) (hb : below ≤ t.nesting.inner.length) :
    t.InLine width below := by
  cases h with
  | stays _ _ hnest hind => exact ⟨hind.trans hi, hnest ▸ hn⟩
  | opens b _ _ hnest hind => exact ⟨hind.trans hi, hnest ▸ hn.push hi⟩
  | closes b x _ _ hnest hind =>
    obtain ⟨hx, hbelow⟩ := Nesting.OpenedAt.of_push (hnest ▸ hn) hb
    exact ⟨hind.trans hx, hbelow⟩

end State

namespace Mode

variable {s : State} {width : Int} {below : Nat}

lemma inLine_token (c : Cursor) (hi : (enter c s).indented = width) (hn : s.nesting.OpenedAt width below)
    (hb : below ≤ (token c s).state.nesting.inner.length) : (token c s).state.InLine width below :=
  (effect_token c s).inLine hi (hn.mapHead fun x => Step.indented_touch _ x) hb

/-- The rest of a line keeps its indentation, if it closes no context of a line before. -/
lemma inLine_run {c : Cursor} (hc : ¬c.AtStart) (h : s.InLine width below)
    (hb : ∀ t ∈ run c s, below ≤ t.state.nesting.inner.length) : (stateAfter (run c s) s).InLine width below := by
  fun_induction run c s with
  | case1 c s _ => exact h
  | case2 c s he t ih =>
    obtain ⟨ht, hts⟩ := List.forall_mem_cons.1 hb
    -- within the line no token measures it again
    have hi : (enter c s).indented = width := by rw [enter_of_not_atStart hc, h.indented]
    exact ih (not_atStart_token he) (inLine_token c hi h.nesting ht) hts

variable (m : Mode) {line : List Char}

lemma indented_enter_cursor (line : List Char) (s : State) :
    (enter (m.cursor line) s).indented = ofWidth (m.cursor line).indentation := by
  have hs : (m.cursor line).AtStart := rfl
  rw [enter, if_pos hs]
  rfl

/-- Behind a line the state has the indentation of the line, if no context was closed that was open before it. -/
lemma indented_highlightLine (hl : line ≠ [])
    (hb : ∀ t ∈ m.steps line s, s.nesting.depth ≤ t.state.nesting.depth) :
    (m.highlightLine line s).2.indented = ofWidth (m.cursor line).indentation := by
  have he : ¬(m.cursor line).AtEnd := hl
  have hsteps : m.steps line s = token (m.cursor line) s ::
      run (token (m.cursor line) s).cursor (token (m.cursor line) s).state := run_of_not_atEnd he s
  have hinner : ∀ t ∈ m.steps line s, s.nesting.inner.length ≤ t.state.nesting.inner.length :=
    fun t ht => Nat.le_of_succ_le_succ (hb t ht)
  rw [hsteps] at hinner
  obtain ⟨hfirst, hrest⟩ := List.forall_mem_cons.1 hinner
  -- the first token measures the line, before it opens or closes anything itself
  have htoken := inLine_token (m.cursor line) (m.indented_enter_cursor line s)
    (s.nesting.openedAt_length _) hfirst
  have hrun := (inLine_run (not_atStart_token he) htoken hrest).indented
  rwa [highlightLine, hsteps, stateAfter_cons]

/-! ## Suggestions are in range -/

variable {base : Int}

lemma indented_head_le_maxColumn (hs : s.Sound base) (hb : base ≤ maxColumn) : s.head.indented ≤ maxColumn := by
  by_cases hn : s.nesting.inner = []
  · have hhead : s.head = s.nesting.root := Nesting.head_of_inner_eq_nil hn
    rw [hhead, hs.nesting.root_indented]
    exact hb
  · exact (hs.nesting.indented _ (Nesting.head_mem_inner hn)).2

lemma suggestion?_le_maxColumn {text : List Char} {columns : Int} (hs : s.Sound base) (hb : base ≤ maxColumn)
    (h : m.suggestion? s text = some columns) : columns ≤ maxColumn := by
  have hclamp : ∀ n : Int, clamp n ≤ maxColumn := fun n => by
    unfold clamp minColumn maxColumn
    omega
  simp only [suggestion?] at h
  split at h
  · cases h
  · split at h
    · exact Option.some.inj h ▸ indented_head_le_maxColumn hs hb
    · rw [← Option.some.inj h, Context.lineColumn]
      split <;> exact hclamp _

/-! ## Lines that are written -/

/-- In a state a line is indented by some columns, of which a negative number counts as none: the columns are those of
its leading blanks, and the mode measures them when it reads the line. -/
structure IndentedBy (s : State) (columns : Int) (line : List Char) : Prop where
  blanks : leadingBlanks line = m.config.blanks columns
  indentation : ((m.cursor line).indentation : Int) = max columns 0
  /-- The line starts with this indentation. -/
  enter : (enter (m.cursor line) s).indented = max columns 0
  /-- The state behind the line has it, if no context was closed that was open before the line. -/
  after : (∀ t ∈ m.steps line s, s.nesting.depth ≤ t.state.nesting.depth) →
    (m.highlightLine line s).2.indented = max columns 0

lemma indentation_cursor_blanks {text : List Char} (ht : StartsSolid text) (columns : Int) :
    ((m.cursor (m.config.blanks columns ++ text)).indentation : Int) = max columns 0 := by
  have h : (m.cursor (m.config.blanks columns ++ text)).indentation = columns.toNat :=
    Config.indentation_blanks_append ht
  rw [h, Int.toNat_eq_max]

lemma indentedBy_reindentLine {columns : Int} (hs : s.Sound base) (hb : base ≤ maxColumn)
    (h : m.suggestion? s line = some columns) (ht : trimStart line ≠ []) :
    m.IndentedBy s columns (m.reindentLine s line) := by
  have hout : m.reindentLine s line = m.config.blanks columns ++ trimStart line := by
    rw [reindentLine_of_some m h, if_neg ht]
  have hmeasured : ((m.cursor (m.reindentLine s line)).indentation : Int) = max columns 0 := by
    rw [hout]
    exact m.indentation_cursor_blanks (startsSolid_trimStart line) columns
  -- the suggestion is a column, so its measure is not cut off
  have hcolumn : ofWidth (m.cursor (m.reindentLine s line)).indentation = max columns 0 := by
    have hmax := m.suggestion?_le_maxColumn hs hb h
    rw [ofWidth_of_le, hmeasured]
    unfold maxColumn at *
    omega
  have hne : m.reindentLine s line ≠ [] := by
    intro hnil
    rw [← m.trimStart_reindentLine s line, hnil] at ht
    exact ht trimStart_nil
  refine ⟨?_, hmeasured, ?_, fun hopen => ?_⟩
  · rw [hout]
    exact leadingBlanks_append (fun _ => Config.isBlank_of_mem_blanks) (startsSolid_trimStart line)
  · rw [indented_enter_cursor, hcolumn]
  · rw [m.indented_highlightLine hne hopen, hcolumn]

/-- Each line of code that is not blank is written with the columns that are suggested for it in the state before. -/
lemma exists_indentedBy_reindentLines {ls : List Line} {n : Nat} {l : Line} {t : State} (hs : s.Sound base)
    (hb : base ≤ maxColumn) (hl : ls[n]? = some l)
    (ht : (m.states s ((m.reindentLines s ls).map Line.text))[n]? = some t) (hk : t.continuation = .code)
    (hsolid : trimStart l.text ≠ []) :
    ∃ columns text, m.suggestion? t l.text = some columns ∧
      (m.reindentLines s ls)[n]? = some ⟨text, l.ending⟩ ∧ m.IndentedBy t columns text := by
  induction ls generalizing s n with
  | nil => cases hl
  | cons l' ls ih =>
    rw [reindentLines_cons, List.map_cons, states_cons] at ht
    rw [reindentLines_cons]
    cases n with
    | zero =>
      obtain rfl : l' = l := Option.some.inj hl
      obtain rfl : s = t := Option.some.inj ht
      obtain ⟨columns, hcolumns⟩ := m.exists_suggestion?_eq_some hk l'.text
      exact ⟨columns, _, hcolumns, rfl, m.indentedBy_reindentLine hs hb hcolumns hsolid⟩
    | succ n => exact ih (m.sound_highlightLine hs _) hl ht

/-- **Indentation that is written is measured as the columns that were asked for.**

Behind the blanks that are written for some columns, a text that is empty or starts with no blank is found again when
the line is trimmed, and the line measures these columns, or none if their number is negative.

So take a line of a document that is not blank, and at which re-indenting the document is in code.  It is written with
the columns that are suggested for it, and the mode measures as many when it reads the line. -/
theorem indentation_written (m : Mode) :
    (∀ (columns : Int) (text : List Char), StartsSolid text →
      ((m.cursor (m.config.blanks columns ++ text)).indentation : Int) = max columns 0 ∧
        trimStart (m.config.blanks columns ++ text) = text) ∧
      ∀ (document : String) (n : Nat) (l : Line) (s : State), (lines document.toList)[n]? = some l →
        (m.writtenStates document)[n]? = some s → s.continuation = .code → trimStart l.text ≠ [] →
        ∃ columns text, m.suggestion? s l.text = some columns ∧
          (m.written document)[n]? = some ⟨text, l.ending⟩ ∧ m.IndentedBy s columns text := by
  constructor
  · intro columns text ht
    exact ⟨m.indentation_cursor_blanks ht columns, Config.trimStart_blanks_append ht⟩
  · intro document n l s hl hs hk hsolid
    have hbase : clamp (0 - m.unit) ≤ maxColumn := by
      unfold clamp minColumn maxColumn
      omega
    exact m.exists_indentedBy_reindentLines (m.sound_startState 0) hbase hl hs hk hsolid

/-- A call in braces, indented by a unit that is no multiple of the tab size: the line leaves its bracket open, and the
state behind it is still indented as the line. -/
theorem indentation_written_of_call :
    let m : Mode := ⟨{ indentUnit := 5, tabSize := 3, indentWithTabs := true }, ⟨by decide, by decide⟩⟩
    let document := "if x \x7b\n  f(a[1],\n b)\n\x7d\n"
    let l : Line := ⟨"  f(a[1],".toList, .newline⟩
    let s := m.feed (m.startState 0) ["if x \x7b".toList]
    let text := "\t  f(a[1],".toList
    (StartsSolid "x".toList ∧ (lines document.toList)[1]? = some l ∧ (m.writtenStates document)[1]? = some s ∧
        s.continuation = .code ∧ trimStart l.text ≠ []) ∧
      ((m.cursor (m.config.blanks (-7) ++ "x".toList)).indentation : Int) = 0 ∧
      (m.written document)[1]? = some ⟨text, .newline⟩ ∧ m.IndentedBy s 5 text ∧
      (m.highlightLine text s).2.indented = 5 := by
  intro m document l s text
  have hsolid : StartsSolid "x".toList := by decide
  have hl : (lines document.toList)[1]? = some l := by decide +kernel
  have hs : (m.writtenStates document)[1]? = some s := by decide +kernel
  have hk : s.continuation = .code := by decide +kernel
  have ht : trimStart l.text ≠ [] := by decide +kernel
  obtain ⟨hmeasured, hwritten⟩ := indentation_written m
  obtain ⟨columns, text', hsug, hout, hindented⟩ := hwritten document 1 l s hl hs hk ht
  have hcolumns : m.suggestion? s l.text = some 5 := by decide +kernel
  have htext : (m.written document)[1]? = some ⟨text, .newline⟩ := by decide +kernel
  obtain rfl : 5 = columns := Option.some.inj (hcolumns.symm.trans hsug)
  obtain rfl : text = text' := congrArg Line.text (Option.some.inj (htext.symm.trans hout))
  exact ⟨⟨hsolid, hl, hs, hk, ht⟩, (hmeasured (-7) _ hsolid).1, htext, hindented, hindented.after (by decide +kernel)⟩

end Mode

end GoLayout
