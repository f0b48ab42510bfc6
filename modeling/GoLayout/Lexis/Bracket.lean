/-!
# Brackets, punctuation and signals

Punctuation characters are spans of their own.  A punctuation span, and a `case` or `default`
keyword, sends a signal to the layout: brackets open and close contexts, and a label starts the body
of a case.
-/

namespace GoLayout

/-- The three pairs of brackets. -/
inductive Bracket
  | brace
  | square
  | paren
deriving DecidableEq, Repr

namespace Bracket

/-- The character that opens a pair. -/
def opener : Bracket → Char
  | .brace => '{'
  | .square => '['
  | .paren => '('

/-- The character that closes a pair. -/
def closer : Bracket → Char
  | .brace => '}'
  | .square => ']'
  | .paren => ')'

end Bracket

/-- Punctuation. -/
inductive Punct
  | opening (b : Bracket)
  | closing (b : Bracket)
  | comma
  | semicolon
  | colon
  | dot
deriving DecidableEq, Repr

namespace Punct

/-- The character of a punctuation mark. -/
def char : Punct → Char
  | .opening b => b.opener
  | .closing b => b.closer
  | .comma => ','
  | .semicolon => ';'
  | .colon => ':'
  | .dot => '.'

/-- All punctuation marks. -/
def marks : List Punct :=
  [.opening .brace, .closing .brace, .opening .square, .closing .square, .opening .paren,
    .closing .paren, .comma, .semicolon, .colon, .dot]

/-- The punctuation mark that a character is, if it is one. -/
def ofChar? (c : Char) : Option Punct := marks.find? fun p => p.char = c

/-- Every punctuation mark is found by its character. -/
@[simp] theorem ofChar?_char (p : Punct) : ofChar? p.char = some p := by
  cases p with
  | opening b => cases b <;> rfl
  | closing b => cases b <;> rfl
  | _ => rfl

/-- A character is the punctuation mark that is written with it. -/
theorem ofChar?_eq_some_iff {c : Char} {p : Punct} : ofChar? c = some p ↔ p.char = c := by
  refine ⟨fun h => ?_, fun h => h ▸ ofChar?_char p⟩
  simpa using List.find?_some h

end Punct

/-- What a span tells the layout. -/
inductive Signal
  /-- A punctuation mark. -/
  | punct (p : Punct)
  /-- A `case` or `default` keyword. -/
  | caseLabel
deriving DecidableEq, Repr

end GoLayout
