import GoLayout.Document.Reindent
import GoLayout.Registry.Basic

/-!
# Traces

What a mode reports while it works.  A trace is read off the states before and after each step and
takes no part in the work: a step may change what the text goes on with, and it may open or close one
context.
-/

namespace GoLayout

open GoLayout.Text

/-- Something that happened and is worth a report. -/
inductive Event
  /-- A span has changed what the text goes on with. -/
  | continues (before after : Continuation)
  /-- A context was opened. -/
  | opened (x : Context)
  /-- A context was closed. -/
  | closed (x : Context)
  /-- A document was highlighted. -/
  | highlighted (lines : Nat)
  /-- A document was re-indented, which has changed some of its lines. -/
  | reindented (lines : Nat)
  /-- A mode was registered. -/
  | defined (spec : Spec)
deriving DecidableEq, Repr

namespace Event

/-- The name of a quote in a report. -/
def quoteName : Quote → String
  | .double => "Double"
  | .single => "Single"
  | .backtick => "Backtick"

/-- The name of a continuation in a report. -/
def continuationName : Continuation → String
  | .code => "Base"
  | .string q => "InString(" ++ quoteName q ++ ")"
  | .comment => "InComment"

/-- The name of a kind of context in a report. -/
def kindName : Kind → String
  | .top => "Top"
  | .group .brace => "Brace"
  | .group .square => "Bracket"
  | .group .paren => "Paren"
  | .caseBody => "Case"

/-- How much attention an event deserves. -/
def level : Event → String
  | .continues .. | .opened _ | .closed _ => "TRACE"
  | .highlighted _ | .reindented _ | .defined _ => "DEBUG"

/-- The report of an event. -/
def message : Event → String
  | .continues before after =>
    "tokenize " ++ continuationName before ++ " -> " ++ continuationName after
  | .opened x =>
    "push " ++ kindName x.kind ++ " at column " ++ toString x.column ++ " (indented "
      ++ toString x.indented ++ ")"
  | .closed x => "pop " ++ kindName x.kind ++ " opened at column " ++ toString x.column
  | .highlighted n => "highlighted " ++ toString n ++ " lines"
  | .reindented n => "re-indented " ++ toString n ++ " lines"
  | .defined spec => "define mode '" ++ spec.name ++ "' (" ++ spec.mime ++ ")"

/-- The line of a log that holds an event. -/
def record (e : Event) : String := e.level ++ " " ++ e.message

/-- What has happened between the states before and after a token.  A context that a token closes is
seen as it is at the start of a line, when the body of a case is a pair of braces again. -/
def ofToken (before after : State) : List Event :=
  (if before.continuation = after.continuation then []
    else [.continues before.continuation after.continuation])
  ++ (if before.nesting.depth < after.nesting.depth then [.opened after.head] else [])
  ++ (if after.nesting.depth < before.nesting.depth then [.closed before.head.onNewLine] else [])

/-- What has happened in a list of steps that starts in `s`. -/
def ofSteps : State → List Mode.Step → List Event
  | _, [] => []
  | s, t :: steps => ofToken s t.state ++ ofSteps t.state steps

end Event

namespace Mode

/-- What happens in a line. -/
def lineEvents (m : Mode) (line : List Char) (s : State) : List Event :=
  Event.ofSteps s (m.steps line s)

/-- What happens in the lines of a document, from a state on. -/
def linesEvents (m : Mode) : State → List (List Char) → List Event
  | _, [] => []
  | s, line :: rest => m.lineEvents line s ++ linesEvents m (m.highlightLine line s).2 rest

/-- What happens when a document is highlighted. -/
def highlightEvents (m : Mode) (document : String) : List Event :=
  let ls := lineTexts document.toList
  m.linesEvents (m.startState 0) ls ++ [.highlighted ls.length]

/-- What happens when a document is re-indented: the lines that are written are read again. -/
def reindentEvents (m : Mode) (document : String) : List Event :=
  let before := terminatedLines document.toList
  let after := m.reindentLines (m.startState 0) before
  let changed := (before.zip after).countP fun l => l.1.text != l.2.text
  m.linesEvents (m.startState 0) (after.map Line.text) ++ [.reindented changed]

end Mode

end GoLayout
