import GoLayout.Text.Cut
import GoLayout.Text.Mark

/-!
# Cursors

A cursor is a place in a line together with the token that ends there.  It holds the mark at which the
token starts, the token and the text after it.  A cursor is placed if these are pieces of its line, in
this order and behind the text that the mark measures; every move keeps this, so no cursor leaves its
line or stops inside a character.
-/

namespace GoLayout

open GoLayout.Text

/-- A place in a line. -/
structure Cursor where
  /-- The distance of tab stops, for columns. -/
  tabSize : Nat
  /-- The line in which the cursor stands. -/
  line : List Char
  /-- Where the current token starts. -/
  mark : Mark
  /-- The current token, which ends at the cursor. -/
  token : List Char
  /-- The text after the cursor. -/
  rest : List Char
deriving DecidableEq, Repr

namespace Cursor

/-- The cursor at the start of a line. -/
def ofLine (tabSize : Nat) (line : List Char) : Cursor := ⟨tabSize, line, {}, [], line⟩

/-- The line consists of some text that the mark measures, the token, and the rest. -/
def Placed (c : Cursor) : Prop :=
  ∃ passed, c.line = passed ++ c.token ++ c.rest ∧ c.mark = Mark.after c.tabSize {} passed

/-! ## Measures -/

/-- The offset at which the current token starts. -/
def start (c : Cursor) : Nat := c.mark.offset

/-- The offset of the cursor. -/
def offset (c : Cursor) : Nat := c.mark.offset + utf8Length c.token

/-- The visual column at which the current token starts. -/
def column (c : Cursor) : Nat := c.mark.column

/-- The visual width of the leading blanks of the line. -/
def indentation (c : Cursor) : Nat := Text.indentation c.tabSize c.line

/-- The column at which the current token starts, counted in words. -/
def column? (c : Cursor) : Option Nat := countColumn? c.tabSize c.start c.line

/-- The width of the leading blanks of the line, counted in words. -/
def indentation? (c : Cursor) : Option Nat :=
  countColumn? c.tabSize (utf8Length c.line - utf8Length (trimStart c.line)) c.line

/-- Nothing of the line has been read. -/
def AtStart (c : Cursor) : Prop := c.offset = 0

/-- Everything of the line has been read. -/
def AtEnd (c : Cursor) : Prop := c.rest = []

instance (c : Cursor) : Decidable c.AtStart := inferInstanceAs (Decidable (_ = _))

instance (c : Cursor) : Decidable c.AtEnd := inferInstanceAs (Decidable (_ = _))

/-! ## Moves -/

/-- Let the next token start at the cursor. -/
def startToken (c : Cursor) : Cursor :=
  { c with mark := c.mark.after c.tabSize c.token, token := [] }

/-- Move to where the rest is cut, and count what was taken to the token. -/
def advance (c : Cursor) (k : Cut) : Cursor :=
  { c with token := c.token ++ k.taken, rest := k.rest }

/-- The next character, which is not read. -/
def peek (c : Cursor) : Option Char := c.rest.head?

/-- Read the next character. -/
def next (c : Cursor) : Option Char × Cursor :=
  (c.peek, c.advance (Cut.one (fun _ => true) c.rest))

/-- Read a run of characters that satisfy `p`, and tell whether there were any. -/
def eatWhile (c : Cursor) (p : Char → Bool) : Bool × Cursor :=
  (c.peek.any p, c.advance (Cut.span p c.rest))

/-- Read a run of blanks, and tell whether there were any. -/
def eatBlanks (c : Cursor) : Bool × Cursor := c.eatWhile isBlank

/-- Read the next character if it is the given one. -/
def eat (c : Cursor) (ch : Char) : Bool × Cursor :=
  (c.peek == some ch, c.advance (Cut.one (· == ch) c.rest))

/-- Read what a recognizer takes, and tell whether it succeeded. -/
def eatMatch (c : Cursor) (f : List Char → Option Cut) : Bool × Cursor :=
  ((f c.rest).isSome, c.advance (Cut.orStay f c.rest))

/-- Read everything that is left. -/
def skipToEnd (c : Cursor) : Cursor := c.advance (Cut.all c.rest)

/-! ## Cursors stay placed -/

theorem placed_ofLine (tabSize : Nat) (line : List Char) : (ofLine tabSize line).Placed :=
  ⟨[], rfl, rfl⟩

theorem Placed.startToken {c : Cursor} (h : c.Placed) : c.startToken.Placed := by
  obtain ⟨passed, hl, hm⟩ := h
  refine ⟨passed ++ c.token, ?_, ?_⟩
  · rw [Cursor.startToken, List.append_nil]
    exact hl
  · rw [Mark.after_append]
    exact congrArg (Mark.after c.tabSize · c.token) hm

/-- Moving along a cut of the rest stays in the line. -/
theorem Placed.advance {c : Cursor} {k : Cut} (h : c.Placed) (hk : k.whole = c.rest) :
    (c.advance k).Placed := by
  obtain ⟨passed, hl, hm⟩ := h
  refine ⟨passed, ?_, hm⟩
  rw [← hk] at hl
  simpa [Cursor.advance, Cut.whole] using hl

@[simp] theorem rest_startToken (c : Cursor) : c.startToken.rest = c.rest := rfl

@[simp] theorem rest_advance (c : Cursor) (k : Cut) : (c.advance k).rest = k.rest := rfl

/-- The next token starts where the cursor stands. -/
@[simp] theorem start_startToken (c : Cursor) : c.startToken.start = c.offset :=
  Mark.offset_after c.tabSize c.mark c.token

end Cursor

end GoLayout
