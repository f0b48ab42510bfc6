/-!
# Specifications of modes

What an editor is told about a mode when the mode is registered: which characters re-indent a line,
which brackets close themselves, how text is folded, and how comments are written.
-/

namespace GoLayout

/-- What an editor is told about a mode. -/
structure Spec where
  name : String
  mime : String
  /-- The characters that re-indent the line in which they are typed. -/
  electricChars : String
  /-- The brackets that are closed as soon as they are opened. -/
  closeBrackets : List (Char × Char)
  fold : String
  blockCommentStart : String
  blockCommentEnd : String
  lineComment : String
deriving DecidableEq, Repr

namespace Spec

/-- The specification of the mode for Go. -/
def go : Spec where
  name := "go"
  mime := "text/x-go"
  electricChars := "\x7b\x7d):"
  closeBrackets :=
    [('(', ')'), ('[', ']'), ('{', '}'), ('\x27', '\x27'), ('\x22', '\x22'), ('\x60', '\x60')]
  fold := "brace"
  blockCommentStart := "/*"
  blockCommentEnd := "*/"
  lineComment := "//"

/-- Whether typing a character re-indents the line. -/
def isElectric (spec : Spec) (c : Char) : Bool := spec.electricChars.toList.contains c

/-- The bracket that is inserted when a character is typed. -/
def closingBracket? (spec : Spec) (c : Char) : Option Char := spec.closeBrackets.lookup c

/-- A line within a block comment. -/
def blockComment (spec : Spec) (line : String) : String :=
  spec.blockCommentStart ++ " " ++ line ++ " " ++ spec.blockCommentEnd

end Spec

end GoLayout
