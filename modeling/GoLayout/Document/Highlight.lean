import GoLayout.Mode
import GoLayout.Text.Line

/-!
# Highlighting

The spans of a line, with offsets that start anew in each line, and the spans of a whole document.
-/

namespace GoLayout

open GoLayout.Text

/-- A piece of a line with its style.  Offsets count the bytes of the line in UTF-8. -/
structure Span where
  start : Nat
  stop : Nat
  text : List Char
  style : Option Style
deriving DecidableEq, Repr

/-- The spans of a line of a document; lines are numbered from one. -/
structure LineSpans where
  number : Nat
  spans : List Span
deriving DecidableEq, Repr

namespace Mode

/-- The span that a step has read. -/
def Step.span (t : Step) : Span :=
  ⟨t.cursor.start, t.cursor.offset, t.cursor.token, t.scan.style⟩

/-- The spans of a line, and the state after it. -/
def highlightLine (m : Mode) (line : List Char) (s : State) : List Span × State :=
  let steps := m.steps line s
  (steps.map Step.span, stateAfter steps s)

/-- The spans of lines that are numbered from `number` on. -/
def highlightFrom (m : Mode) : Nat → State → List (List Char) → List LineSpans
  | _, _, [] => []
  | number, s, line :: rest =>
    let (spans, s) := m.highlightLine line s
    ⟨number, spans⟩ :: highlightFrom m (number + 1) s rest

/-- The spans of a document. -/
def highlight (m : Mode) (document : String) : List LineSpans :=
  m.highlightFrom 1 (m.startState 0) (lineTexts document.toList)

/-- An empty line has no spans and leaves the state alone. -/
@[simp] theorem highlightLine_nil (m : Mode) (s : State) : m.highlightLine [] s = ([], s) := by
  have h : m.steps [] s = [] := by
    unfold steps run
    exact if_pos rfl
  simp [highlightLine, h, stateAfter]

end Mode

end GoLayout
