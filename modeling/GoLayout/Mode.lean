import GoLayout.Config.Basic
import GoLayout.Cursor
import GoLayout.Layout.State
import GoLayout.Lexis.Line

/-!
# Modes

A mode is a usable configuration.  It reads a line token by token, keeping the state of the document
in step, and suggests how far a line should be indented, given the state after the line before.

`run` lists the steps of a whole line.  Each step reads at least one character, so the run ends.
-/

namespace GoLayout

open GoLayout.Text GoLayout.Lexis GoLayout.Layout

/-- An editor mode: a configuration whose widths are positive. -/
structure Mode where
  config : Config
  usable : config.Usable

namespace Mode

/-- The mode with the given configuration, or what is wrong with it. -/
def ofConfig (c : Config) : Except Config.Defect Mode :=
  match h : c.defect? with
  | some d => .error d
  | none => .ok ⟨c, Config.defect?_eq_none_iff.1 h⟩

/-- The mode with the default configuration. -/
def default : Mode := ⟨{}, ⟨by decide, by decide⟩⟩

instance : Inhabited Mode := ⟨default⟩

/-- The columns of one indentation level. -/
def unit (m : Mode) : Int := ofWidth m.config.indentUnit

/-- The cursor at the start of a line. -/
def cursor (m : Mode) (line : List Char) : Cursor := .ofLine m.config.tabSize line

/-- The state at the start of a document that stands at a column. -/
def startState (m : Mode) (base : Int) : State := .ofRoot (.root base m.unit)

/-! ## Reading a line -/

/-- One token of a line: the span that was read, the cursor after it, and the state after it. -/
structure Step where
  scan : Scan
  cursor : Cursor
  state : State
deriving DecidableEq, Repr

/-- The state in which the token after a cursor is read.  At the start of a line, when the rest is the
whole line, the line is started. -/
def enter (c : Cursor) (s : State) : State :=
  if c.AtStart then s.startLine (indentation c.tabSize c.rest) else s

/-- Read one token.  At the end of the line nothing is read. -/
def token (c : Cursor) (s : State) : Step :=
  let s := enter c s
  let c := c.startToken
  let r := read s.continuation c.rest
  ⟨r, c.advance ⟨r.text, r.rest⟩, s.absorb (ofWidth c.column) r⟩

/-- Reading a token stays in the line. -/
theorem placed_token {c : Cursor} (s : State) (h : c.Placed) : (token c s).cursor.Placed :=
  h.startToken.advance (whole_read _ _)

/-- Reading a token leaves less of a line that is not at its end. -/
theorem length_rest_token_lt {c : Cursor} (s : State) (h : ¬c.AtEnd) :
    (token c s).cursor.rest.length < c.rest.length :=
  length_rest_read_lt _ h

/-- The steps from a cursor to the end of its line. -/
def run (c : Cursor) (s : State) : List Step :=
  if c.AtEnd then []
  else
    let t := token c s
    t :: run t.cursor t.state
termination_by c.rest.length
decreasing_by exact length_rest_token_lt s ‹_›

/-- The state after a list of steps that starts in `s`. -/
def stateAfter (steps : List Step) (s : State) : State := steps.foldl (fun _ t => t.state) s

/-- The steps of a line. -/
def steps (m : Mode) (line : List Char) (s : State) : List Step := run (m.cursor line) s

@[simp] theorem continuation_enter (c : Cursor) (s : State) :
    (enter c s).continuation = s.continuation := by
  unfold enter
  split <;> rfl

/-- What is read depends on the rest of the line and on what it goes on with, and on nothing else. -/
theorem scan_token (c : Cursor) (s : State) : (token c s).scan = read s.continuation c.rest := by
  simp [token]

theorem continuation_token (c : Cursor) (s : State) :
    (token c s).state.continuation = (read s.continuation c.rest).continuation := by
  simp [token]

theorem rest_token (c : Cursor) (s : State) :
    (token c s).cursor.rest = (read s.continuation c.rest).rest := by
  simp [token]

/-- A run reads the spans of the line. -/
theorem map_scan_run (c : Cursor) (s : State) :
    (run c s).map Step.scan = readLine s.continuation c.rest := by
  fun_induction run c s with
  | case1 c s h => rw [show c.rest = [] from h, readLine_nil, List.map_nil]
  | case2 c s h t ih =>
    rw [List.map_cons, ih, readLine_of_ne_nil _ h, ← continuation_token c s, ← rest_token c s,
      ← scan_token c s]

/-! ## Suggestions -/

/-- The column suggested for a line that starts with `text`, given the state after the line before.
Inside a string or a comment nothing is suggested. -/
def suggestion? (m : Mode) (s : State) (text : List Char) : Option Int :=
  let text := trimStart text
  if s.continuation ≠ .code then none
  else if s.head.kind = .caseBody ∧ startsWithLabel text then some s.head.indented
  else some (s.head.lineColumn m.unit (s.head.isClosedAt text))

/-- The state after a suggestion was asked for: a label ends the body of the case before it. -/
def afterQuery (s : State) (text : List Char) : State :=
  if s.continuation = .code ∧ s.head.kind = .caseBody ∧ startsWithLabel (trimStart text) then
    s.mapHead fun x => { x with kind := .group .brace }
  else s

end Mode

end GoLayout
