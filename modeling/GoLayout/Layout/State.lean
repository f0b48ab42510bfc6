import GoLayout.Lexis.Scan
import GoLayout.Layout.Nesting

/-!
# States

The state of a document between two spans: what the text goes on with, the open contexts, and the
indentation of the line.  A line starts by settling the innermost context; a span of code settles it
too, and then may open, label or close one.  Blanks and comments leave the layout alone.
-/

namespace GoLayout

open GoLayout.Layout GoLayout.Lexis

/-- The state of a document between two spans. -/
structure State where
  /-- What the text goes on with. -/
  continuation : Continuation
  /-- The open contexts. -/
  nesting : Nesting
  /-- The indentation of the line. -/
  indented : Int
  /-- No code of the line has been seen yet. -/
  startOfLine : Bool
deriving DecidableEq, Repr

namespace State

/-- The state at the start of a document with the given root. -/
def ofRoot (root : Context) : State := ⟨.code, .ofRoot root, 0, true⟩

/-- The innermost context. -/
def head (s : State) : Context := s.nesting.head

/-- Change the innermost context. -/
def mapHead (f : Context → Context) (s : State) : State :=
  { s with nesting := s.nesting.mapHead f }

/-- Start a line that is indented by `width` columns. -/
def startLine (width : Nat) (s : State) : State :=
  { s.mapHead Context.onNewLine with indented := ofWidth width, startOfLine := true }

/-- Open a context at a column. -/
def openContext (column : Int) (k : Kind) (s : State) : State :=
  { s with nesting := s.nesting.push ⟨s.indented, column, k, .unresolved⟩ }

/-- Close the innermost context; behind a bracket the line is again indented as the line in which the
bracket was opened.  The root stays open. -/
def closeContext (s : State) : State :=
  match s.nesting.pop? with
  | some (x, n) =>
    { s with nesting := n, indented := if x.kind.isBracket then x.indented else s.indented }
  | none => s

/-- Start the body of a case in the innermost context. -/
def startCase (s : State) : State := s.mapHead fun x => { x with kind := .caseBody }

/-- Follow a signal that was sent at a column. -/
def follow (column : Int) (s : State) : Signal → State
  | .caseLabel => s.startCase
  | .punct p =>
    match Kind.openedBy? p with
    | some k => s.openContext column k
    | none => if s.head.kind.closedBy p then s.closeContext else s

/-- Go past a span that starts at a column. -/
def absorb (column : Int) (s : State) (r : Scan) : State :=
  let s := { s with continuation := r.continuation }
  if r.isCode then
    let s := s.mapHead Context.onCode
    { r.signal.elim s (s.follow column) with startOfLine := false }
  else s

/-! ## What the operations leave alone -/

@[simp] theorem continuation_mapHead (f : Context → Context) (s : State) :
    (s.mapHead f).continuation = s.continuation := rfl

@[simp] theorem continuation_startLine (width : Nat) (s : State) :
    (s.startLine width).continuation = s.continuation := rfl

@[simp] theorem continuation_closeContext (s : State) :
    s.closeContext.continuation = s.continuation := by
  unfold closeContext
  split <;> rfl

@[simp] theorem continuation_follow (column : Int) (s : State) (g : Signal) :
    (s.follow column g).continuation = s.continuation := by
  cases g with
  | caseLabel => rfl
  | punct p =>
    simp only [follow]
    cases Kind.openedBy? p with
    | some k => rfl
    | none =>
      dsimp only
      split
      · exact continuation_closeContext s
      · rfl

/-- Behind a span the text goes on with what the span has left open. -/
@[simp] theorem continuation_absorb (column : Int) (s : State) (r : Scan) :
    (s.absorb column r).continuation = r.continuation := by
  unfold absorb
  dsimp only
  split
  · cases r.signal with
    | none => rfl
    | some g => exact continuation_follow _ _ g
  · rfl

end State

end GoLayout
