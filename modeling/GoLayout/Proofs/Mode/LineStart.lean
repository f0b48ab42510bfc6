import GoLayout.Proofs.Layout.Levels

/-!
# States in which a line starts alike

The start of a line overwrites a part of the state: the innermost context is settled, the body of a case turns
back into braces, and the line gets its own indentation.  Two states that differ in nothing else start alike,
and from their next line that is not empty on they are the same.  So what is done between two lines has no
effect that lasts, as long as it stays within what the start of a line overwrites.
-/

namespace GoLayout

open GoLayout.Text GoLayout.Lexis GoLayout.Layout

namespace State

/-- A line of any indentation starts alike in two states. -/
def StartsAlike (s t : State) : Prop := ∀ width, s.startLine width = t.startLine width

variable {s t u : State}

lemma StartsAlike.refl (s : State) : s.StartsAlike s := fun _ => rfl

lemma StartsAlike.trans (h : s.StartsAlike t) (h' : t.StartsAlike u) : s.StartsAlike u :=
  fun width => (h width).trans (h' width)

lemma StartsAlike.continuation_eq (h : s.StartsAlike t) : s.continuation = t.continuation := by
  have h0 := congrArg State.continuation (h 0)
  rwa [continuation_startLine, continuation_startLine] at h0

/-- What the start of a line has done is overwritten by the start of the next one. -/
@[simp] lemma startLine_startLine (width width' : Nat) (s : State) :
    (s.startLine width).startLine width' = s.startLine width' := by
  simp [startLine, mapHead]

lemma startsAlike_startLine (width : Nat) (s : State) : (s.startLine width).StartsAlike s :=
  fun width' => startLine_startLine width width' s

lemma startsAlike_mapHead {f : Context → Context} (h : (f s.head).onNewLine = s.head.onNewLine) :
    (s.mapHead f).StartsAlike s := by
  intro width
  obtain ⟨k, ⟨_ | ⟨x, inner⟩, root⟩, indented, startOfLine⟩ := s
  · have hr : (f root).onNewLine = root.onNewLine := h
    simp [startLine, mapHead, Nesting.mapHead, hr]
  · have hx : (f x).onNewLine = x.onNewLine := h
    simp [startLine, mapHead, Nesting.mapHead, hx]

end State

namespace Mode

variable (m : Mode) {s t : State} {line : List Char}

/-- A line that is not empty has the same spans in two states that start alike, and leads to the same state. -/
lemma highlightLine_of_startsAlike (h : s.StartsAlike t) (hl : line ≠ []) :
    m.highlightLine line s = m.highlightLine line t := by
  refine Prod.ext ?_ ?_
  · rw [fst_highlightLine, fst_highlightLine, h.continuation_eq]
  · rw [snd_highlightLine m hl, snd_highlightLine m hl, h, h.continuation_eq]

/-! ## Blank lines -/

/-- A line that holds only blanks does no more than start the line. -/
lemma snd_highlightLine_of_blank (hb : ∀ c ∈ line, isBlank c = true) (hl : line ≠ []) (s : State) :
    (m.highlightLine line s).2 = s.startLine (indentation m.config.tabSize line) := by
  rw [snd_highlightLine m hl, readLine_eq_append, trimStart_eq_nil_iff.2 hb, readLine_nil, List.append_nil,
    State.absorbAll_indentSpan (s.continuation_startLine _)]

/-- Behind a line that holds only blanks a line starts as it would before it. -/
lemma startsAlike_highlightLine_of_blank (hb : ∀ c ∈ line, isBlank c = true) (s : State) :
    (m.highlightLine line s).2.StartsAlike s := by
  by_cases hl : line = []
  · rw [hl, highlightLine_nil]
    exact .refl s
  · rw [m.snd_highlightLine_of_blank hb hl]
    exact State.startsAlike_startLine _ s

lemma startsAlike_feed_of_blank {ls : List (List Char)} (hb : ∀ line ∈ ls, ∀ c ∈ line, isBlank c = true)
    (s : State) : (m.feed s ls).StartsAlike s := by
  induction ls generalizing s with
  | nil => exact .refl s
  | cons line ls ih =>
    obtain ⟨hline, hls⟩ := List.forall_mem_cons.1 hb
    exact (ih hls _).trans (m.startsAlike_highlightLine_of_blank hline s)

end Mode

end GoLayout
