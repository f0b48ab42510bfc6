import GoLayout.Proofs.Layout.Effect
import GoLayout.Proofs.Mode.Run

/-!
# Calls

What a mode goes through is a list of calls, each of which reads a token in the state that the one before
has left.  Nothing ties the cursor of a call to that of the one before: a driver may go from line to line as
it likes, and the facts about calls hold of all of them.  The steps of lines that are read one after the
other are such calls.

A step remembers enough of its call: where its token starts, and with that whether it has started a line,
what was read, and the state after it.
-/

namespace GoLayout

open GoLayout.Text GoLayout.Lexis GoLayout.Layout

namespace Mode

/-! ## What a step does to the contexts -/

/-- Whether a step has started its line, as the first token of it. -/
def Step.startsLine (t : Step) : Bool := t.cursor.start = 0

/-- What a step does to the innermost context before it opens or closes one. -/
def Step.touch (t : Step) (x : Context) : Context :=
  if t.startsLine then x.onNewLine.onSpan t.scan else x.onSpan t.scan

/-- A token that is read at the start of a line starts the line. -/
lemma startsLine_token (c : Cursor) (s : State) : (token c s).startsLine = decide c.AtStart := by
  have hs : (token c s).cursor.start = c.offset := Cursor.start_startToken c
  rw [Step.startsLine, hs]
  rfl

lemma nesting_enter (c : Cursor) (s : State) :
    (enter c s).nesting
      = if (token c s).startsLine then s.nesting.mapHead Context.onNewLine else s.nesting := by
  rw [startsLine_token, enter]
  by_cases h : c.AtStart
  · simp [h, State.startLine, State.mapHead]
  · simp [h]

/-- A step has the effect of its span on contexts whose innermost one it has touched. -/
lemma effect_token (c : Cursor) (s : State) :
    State.Effect (token c s).scan (ofWidth (token c s).cursor.column)
      (s.nesting.mapHead (token c s).touch) (enter c s).indented (token c s).state := by
  have hr : (token c s).scan.signal ≠ none → (token c s).scan.isCode = true := isCode_of_signal_read
  have hn : (enter c s).nesting.mapHead (Context.onSpan (token c s).scan)
      = s.nesting.mapHead (token c s).touch := by
    rw [nesting_enter]
    unfold Step.touch
    by_cases h : (token c s).startsLine = true
    · simp [h]
    · simp [h]
  rw [← hn]
  exact State.effect_absorb hr _ _

namespace Step

variable (t : Step) (x : Context)

@[simp] lemma indented_touch : (t.touch x).indented = x.indented := by
  unfold touch
  split
  · exact x.onNewLine.indented_onSpan t.scan
  · exact x.indented_onSpan t.scan

@[simp] lemma column_touch : (t.touch x).column = x.column := by
  unfold touch
  split
  · exact x.onNewLine.column_onSpan t.scan
  · exact x.column_onSpan t.scan

/-- How a step settles the innermost context if that is not settled yet: the start of a line comes before
the code that follows. -/
def alignment : Align := if t.startsLine then .indent else if t.scan.isCode then .column else .unresolved

@[simp] lemma align_touch : (t.touch x).align = x.align.settle t.alignment := by
  unfold touch alignment
  split
  · -- the start of the line has settled it, whatever the span is
    rw [Context.align_onSpan]
    exact Align.settle_settle _ (by simp)
  · exact x.align_onSpan t.scan

/-- Only the start of a line and a label change the kind of the innermost context. -/
lemma kind_touch_cases :
    (t.touch x).kind = (if t.startsLine then x.kind.onNewLine else x.kind) ∨
      (t.touch x).kind = .caseBody ∧ t.scan.signal = some .caseLabel := by
  unfold touch
  split
  · exact x.onNewLine.kind_onSpan_cases t.scan
  · exact x.kind_onSpan_cases t.scan

lemma kind_touch (h : t.scan.signal ≠ some .caseLabel) :
    (t.touch x).kind = if t.startsLine then x.kind.onNewLine else x.kind :=
  (t.kind_touch_cases x).resolve_right fun hl => h hl.2

end Step

/-! ## The contexts after a token, by its signal -/

section Signals

variable {b : Bracket} {c : Cursor} {s : State} {n : Nesting} {x : Context}

/-- A step that is no bracket only touches the innermost context. -/
lemma nesting_token_of_not_bracket
    (ho : ∀ b, (token c s).scan.signal ≠ some (.punct (.opening b)))
    (hc : ∀ b, (token c s).scan.signal ≠ some (.punct (.closing b))) :
    (token c s).state.nesting = s.nesting.mapHead (token c s).touch := by
  cases effect_token c s with
  | stays _ _ hn _ => exact hn
  | opens b hs => exact absurd hs (ho b)
  | closes b x hs => exact absurd hs (hc b)

/-- An opening bracket opens a context that is indented as its line. -/
lemma nesting_token_of_opening (h : (token c s).scan.signal = some (.punct (.opening b))) :
    (token c s).state.nesting
        = (s.nesting.mapHead (token c s).touch).push
            ⟨(token c s).state.indented, ofWidth (token c s).cursor.column, .group b, .unresolved⟩ := by
  cases effect_token c s with
  | stays ho => exact absurd h (ho b)
  | opens b' hs _ hn hi =>
    have hb : b' = b := by simpa [h] using hs.symm
    rw [hn, hi, hb]
  | closes b' x hs => simp [h] at hs

/-- The bracket that closes a context gives back what stands beneath it and its indentation. -/
lemma token_of_closing (h : (token c s).scan.signal = some (.punct (.closing b)))
    (hn : s.nesting = n.push x) (hx : ((token c s).touch x).kind = .group b) :
    (token c s).state.nesting = n ∧ (token c s).state.indented = x.indented := by
  have he := effect_token c s
  rw [hn, Nesting.mapHead_push] at he
  cases he with
  | stays _ hc => exact absurd hx (hc b h (List.cons_ne_nil _ _))
  | opens b' hs => simp [h] at hs
  | closes b' y _ _ hn' hi =>
    obtain ⟨rfl, rfl⟩ := Nesting.push_inj hn'
    exact ⟨rfl, hi.trans (Step.indented_touch _ _)⟩

end Signals

/-! ## Calls one after the other -/

/-- The steps of calls that start in a state, each going on in the state that the one before has left. -/
inductive Calls : State → List Step → Prop
  | nil (s : State) : Calls s []
  | cons (c : Cursor) {s : State} {ts : List Step} (h : Calls (token c s).state ts) :
    Calls s (token c s :: ts)

@[simp] lemma stateAfter_nil (s : State) : stateAfter [] s = s := rfl

@[simp] lemma stateAfter_cons (t : Step) (ts : List Step) (s : State) :
    stateAfter (t :: ts) s = stateAfter ts t.state := rfl

lemma stateAfter_append (ts us : List Step) (s : State) :
    stateAfter (ts ++ us) s = stateAfter us (stateAfter ts s) :=
  List.foldl_append

variable {s : State} {ts us : List Step}

lemma calls_append_iff : Calls s (ts ++ us) ↔ Calls s ts ∧ Calls (stateAfter ts s) us := by
  induction ts generalizing s with
  | nil => exact ⟨fun h => ⟨.nil s, h⟩, And.right⟩
  | cons t ts ih =>
    constructor
    · intro h
      cases h with
      | cons c h => exact ⟨.cons c (ih.1 h).1, (ih.1 h).2⟩
    · rintro ⟨h, hu⟩
      cases h with
      | cons c h => exact .cons c (ih.2 ⟨h, hu⟩)

lemma calls_run (c : Cursor) (s : State) : Calls s (run c s) := by
  fun_induction run c s with
  | case1 c s h => exact .nil s
  | case2 c s h t ih => exact .cons c ih

/-! ## The calls of a document -/

variable (m : Mode)

/-- The steps of lines that are read one after the other. -/
def linesSteps (m : Mode) : State → List (List Char) → List Step
  | _, [] => []
  | s, line :: rest => m.steps line s ++ linesSteps m (m.highlightLine line s).2 rest

/-- The steps of lines lead to the state after the lines. -/
lemma stateAfter_linesSteps (s : State) (ls : List (List Char)) :
    stateAfter (m.linesSteps s ls) s = m.feed s ls := by
  induction ls generalizing s with
  | nil => rfl
  | cons line ls ih =>
    rw [linesSteps, stateAfter_append]
    exact ih _

lemma calls_linesSteps (s : State) (ls : List (List Char)) : Calls s (m.linesSteps s ls) := by
  induction ls generalizing s with
  | nil => exact .nil s
  | cons line ls ih => exact calls_append_iff.2 ⟨calls_run _ s, ih _⟩

end Mode

end GoLayout
