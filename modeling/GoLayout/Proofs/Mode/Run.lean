import GoLayout.Document.Highlight
import GoLayout.Proofs.Lexis.Tokens

/-!
# What a line does

Reading a line is an interplay of a cursor, the scanner and the layout.  Here it is taken apart: the spans
of a line are those of the scanner with their offsets, and the state after the line is the state before it
with the line started and the scans absorbed one after the other, each at its column.  All other facts about
lines are drawn from these two.
-/

namespace GoLayout

open GoLayout.Text GoLayout.Lexis GoLayout.Layout

/-! ## The two parts of a line -/

/-- The spans of some scans that are read from an offset on. -/
def spansFrom (offset : Nat) : List Scan → List Span
  | [] => []
  | r :: rs =>
    ⟨offset, offset + utf8Length r.text, r.text, r.style⟩ ::
      spansFrom (offset + utf8Length r.text) rs

@[simp] lemma map_text_spansFrom (offset : Nat) (rs : List Scan) :
    (spansFrom offset rs).map Span.text = rs.map Scan.text := by
  induction rs generalizing offset with
  | nil => rfl
  | cons r rs ih => exact congrArg (r.text :: ·) (ih _)

namespace State

/-- The state after some scans that are read from a column on. -/
def absorbAll (tabSize : Nat) : Nat → List Scan → State → State
  | _, [], s => s
  | column, r :: rs, s =>
    absorbAll tabSize (columnFrom tabSize column r.text) rs (s.absorb (ofWidth column) r)

variable {tabSize : Nat}

@[simp] lemma absorbAll_nil (column : Nat) (s : State) : absorbAll tabSize column [] s = s := rfl

@[simp] lemma absorbAll_cons (column : Nat) (r : Scan) (rs : List Scan) (s : State) :
    absorbAll tabSize column (r :: rs) s
      = absorbAll tabSize (columnFrom tabSize column r.text) rs (s.absorb (ofWidth column) r) := rfl

/-- Scans are absorbed on from where the ones before ended. -/
lemma absorbAll_append (column : Nat) (rs ts : List Scan) (s : State) :
    absorbAll tabSize column (rs ++ ts) s
      = absorbAll tabSize (columnFrom tabSize column (rs.flatMap Scan.text)) ts
          (absorbAll tabSize column rs s) := by
  induction rs generalizing column s with
  | nil => rfl
  | cons r rs ih => rw [List.cons_append, absorbAll_cons, ih, List.flatMap_cons, columnFrom_append,
      absorbAll_cons]

/-- The state goes on with what the last scan has left open. -/
@[simp] lemma continuation_absorbAll (column : Nat) (rs : List Scan) (s : State) :
    (absorbAll tabSize column rs s).continuation = continuationAfter rs s.continuation := by
  induction rs generalizing column s with
  | nil => rfl
  | cons r rs ih => rw [absorbAll_cons, ih, continuation_absorb, continuationAfter_cons]

end State

/-! ## A run of tokens -/

namespace Mode

variable {c : Cursor} {s : State}

lemma run_of_atEnd (h : c.AtEnd) (s : State) : run c s = [] := by
  rw [run, if_pos h]

lemma run_of_not_atEnd (h : ¬c.AtEnd) (s : State) :
    run c s = token c s :: run (token c s).cursor (token c s).state := by
  rw [run, if_neg h]

/-- Inside a line a token is absorbed without more ado. -/
lemma enter_of_not_atStart (h : ¬c.AtStart) : enter c s = s := if_neg h

/-- Behind a token the cursor stands in the line. -/
lemma not_atStart_token (h : ¬c.AtEnd) : ¬(token c s).cursor.AtStart := by
  have ht : (read (enter c s).continuation c.rest).text ≠ [] := text_read_ne_nil _ h
  have hl := utf8Length_eq_zero_iff.not.2 ht
  have ho : (token c s).cursor.offset
      = c.startToken.start + utf8Length (read (enter c s).continuation c.rest).text := rfl
  intro hs
  have h0 : (token c s).cursor.offset = 0 := hs
  omega

lemma span_token (c : Cursor) (s : State) :
    (token c s).span
      = ⟨c.offset, c.offset + utf8Length (token c s).scan.text, (token c s).scan.text,
          (token c s).scan.style⟩ := by
  have hs : (token c s).cursor.start = c.offset := Cursor.start_startToken c
  have ho : (token c s).cursor.offset = c.offset + utf8Length (token c s).scan.text :=
    congrArg (· + _) hs
  rw [Step.span, hs, ho]
  rfl

lemma cursor_token (c : Cursor) (s : State) :
    (token c s).cursor.token = (read s.continuation c.rest).text := by
  rw [← scan_token]
  rfl

lemma offset_token (c : Cursor) (s : State) :
    (token c s).cursor.offset = c.offset + utf8Length (token c s).scan.text :=
  congrArg (· + _) (Cursor.start_startToken c)

lemma column_startToken_token (c : Cursor) (s : State) :
    (token c s).cursor.startToken.column
      = columnFrom c.tabSize c.startToken.column (token c s).scan.text :=
  Mark.column_after _ _ _

lemma map_span_run (c : Cursor) (s : State) :
    (run c s).map Step.span = spansFrom c.offset (readLine s.continuation c.rest) := by
  rw [← map_scan_run]
  fun_induction run c s with
  | case1 c s h => rfl
  | case2 c s h t ih =>
    rw [List.map_cons, List.map_cons, spansFrom, ih, span_token, offset_token]

/-- The state after a run that has started its line absorbs the scans. -/
lemma stateAfter_run (h : ¬c.AtStart) :
    stateAfter (run c s) s
      = s.absorbAll c.tabSize c.startToken.column (readLine s.continuation c.rest) := by
  rw [← map_scan_run]
  fun_induction run c s with
  | case1 c s h => rfl
  | case2 c s he t ih =>
    have ht : t.state = s.absorb (ofWidth c.startToken.column) t.scan := by
      simp only [t, token, enter_of_not_atStart h]
    have hc : t.cursor.startToken.column
        = columnFrom c.tabSize c.startToken.column t.scan.text := column_startToken_token c s
    rw [List.map_cons, State.absorbAll_cons, ← ht, ← hc]
    exact ih (not_atStart_token he)

/-- The state after a run enters the line before it absorbs the scans. -/
lemma stateAfter_run_of_not_atEnd (h : ¬c.AtEnd) :
    stateAfter (run c s) s
      = (enter c s).absorbAll c.tabSize c.startToken.column (readLine s.continuation c.rest) := by
  have hs : stateAfter (run c s) s
      = stateAfter (run (token c s).cursor (token c s).state) (token c s).state := by
    rw [run_of_not_atEnd h]
    rfl
  rw [hs, stateAfter_run (not_atStart_token h), column_startToken_token, readLine_of_ne_nil _ h,
    continuation_token, rest_token, ← scan_token c s, State.absorbAll_cons]
  simp only [token, continuation_enter]
  rfl

/-! ## Lines -/

variable (m : Mode) (line : List Char)

lemma fst_highlightLine (s : State) :
    (m.highlightLine line s).1 = spansFrom 0 (readLine s.continuation line) :=
  map_span_run (m.cursor line) s

/-- The state after a line starts the line and absorbs the scans. -/
lemma snd_highlightLine {line : List Char} (h : line ≠ []) (s : State) :
    (m.highlightLine line s).2
      = (s.startLine (indentation m.config.tabSize line)).absorbAll m.config.tabSize 0
          (readLine s.continuation line) := by
  have hs : enter (m.cursor line) s = s.startLine (indentation m.config.tabSize line) := if_pos rfl
  have hc : (m.cursor line).startToken.column = 0 := rfl
  have hr : stateAfter (m.steps line s) s
      = (enter (m.cursor line) s).absorbAll m.config.tabSize (m.cursor line).startToken.column
          (readLine s.continuation line) := stateAfter_run_of_not_atEnd (c := m.cursor line) h
  rw [hs, hc] at hr
  exact hr

lemma continuation_highlightLine (s : State) :
    (m.highlightLine line s).2.continuation
      = continuationAfter (readLine s.continuation line) s.continuation := by
  by_cases h : line = []
  · rw [h, highlightLine_nil, readLine_nil, continuationAfter_nil]
  · rw [snd_highlightLine m h, State.continuation_absorbAll, State.continuation_startLine]

/-- The state after some lines. -/
def feed (s : State) (ls : List (List Char)) : State :=
  ls.foldl (fun s line => (m.highlightLine line s).2) s

@[simp] lemma feed_nil (s : State) : m.feed s [] = s := rfl

@[simp] lemma feed_cons (s : State) (ls : List (List Char)) :
    m.feed s (line :: ls) = m.feed (m.highlightLine line s).2 ls := rfl

end Mode

end GoLayout
