/-!
# Lines and their terminators

A document is split behind its line feeds into pieces, and what ends a piece is told afterwards.  A carriage
return directly before a line feed belongs to the terminator, and anywhere else to the line; the last piece
may be unterminated, and then it is not empty.  Who writes the document again takes the longest terminator
off a piece and keeps it; who only wants the texts takes off a line feed and then a carriage return.
-/

namespace GoLayout.Text

/-- What ends a line. -/
inductive Terminator
  /-- A line feed. -/
  | newline
  /-- A carriage return and a line feed. -/
  | carriageNewline
  /-- The end of the document. -/
  | absent
deriving DecidableEq, Repr

/-- The characters of a terminator. -/
def Terminator.chars : Terminator → List Char
  | .newline => ['\n']
  | .carriageNewline => ['\r', '\n']
  | .absent => []

/-- A line of a document with its terminator. -/
structure Line where
  text : List Char
  ending : Terminator
deriving DecidableEq, Repr

/-- The characters of a line with those of its terminator. -/
def Line.chars (l : Line) : List Char := l.text ++ l.ending.chars

/-- The document that consists of the given lines. -/
def unlines (ls : List Line) : List Char := ls.flatMap Line.chars

/-! ## Pieces -/

/-- Put one character in front of a document that is already split into pieces. -/
def extendPieces (c : Char) (ps : List (List Char)) : List (List Char) :=
  if c = '\n' then [c] :: ps
  else
    match ps with
    | [] => [[c]]
    | p :: ps => (c :: p) :: ps

/-- The pieces of a document, split behind each line feed. -/
def pieces (document : List Char) : List (List Char) := document.foldr extendPieces []

/-- A piece as a line: its terminator is the longest one that ends it. -/
def Line.ofPiece (piece : List Char) : Line :=
  if ['\r', '\n'] <:+ piece then ⟨piece.dropLast.dropLast, .carriageNewline⟩
  else if ['\n'] <:+ piece then ⟨piece.dropLast, .newline⟩
  else ⟨piece, .absent⟩

/-- A piece without its line feed and a carriage return before that. -/
def chomp (piece : List Char) : List Char :=
  if ['\n'] <:+ piece then
    if ['\r'] <:+ piece.dropLast then piece.dropLast.dropLast else piece.dropLast
  else piece

/-- The lines of a document with their terminators. -/
def terminatedLines (document : List Char) : List Line := (pieces document).map Line.ofPiece

/-- The texts of the lines of a document. -/
def lineTexts (document : List Char) : List (List Char) := (pieces document).map chomp

end GoLayout.Text
