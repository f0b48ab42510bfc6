/-!
# Continuations

A string or a block comment may stay open at the end of a line.  The continuation is what the next
line goes on with; nothing else of the scanner survives the end of a line.
-/

namespace GoLayout

/-- The quotes of a string literal. -/
inductive Quote
  | double
  | single
  /-- The quote of a raw string, in which a backslash means itself. -/
  | backtick
deriving DecidableEq, Repr

namespace Quote

/-- The character of a quote. -/
def char : Quote → Char
  | .double => '\x22'
  | .single => '\x27'
  | .backtick => '\x60'

/-- Whether a backslash means itself. -/
def isRaw (q : Quote) : Bool := q = .backtick

/-- The quote that a character is, if it is one. -/
def ofChar? (c : Char) : Option Quote := [double, single, backtick].find? fun q => q.char = c

/-- A character is the quote that is written with it. -/
theorem ofChar?_eq_some_iff {c : Char} {q : Quote} : ofChar? c = some q ↔ q.char = c := by
  refine ⟨fun h => by simpa using List.find?_some h, ?_⟩
  rintro rfl
  cases q <;> rfl

end Quote

/-- What the text at some place goes on with. -/
inductive Continuation
  /-- Code, outside of any string or comment. -/
  | code
  /-- The inside of a string. -/
  | string (q : Quote)
  /-- The inside of a block comment. -/
  | comment
deriving DecidableEq, Repr

end GoLayout
