/-!
# Words and character classes

The keyword and atom tables of Go, and the classes of characters from which identifiers and operators
are built.  A word is an entry of a table only as a whole: `cases` is neither a keyword nor a label.
-/

namespace GoLayout.Lexis

/-- Identifier characters: letters and digits of ASCII, the underscore, the dollar sign, and every
character from U+00A1 upward, which stands in for the letters outside ASCII. -/
def isIdentChar (c : Char) : Bool :=
  c.isAlphanum || c == '_' || c == '$' || decide (0xA1 ≤ c.toNat)

/-- Operator characters. -/
def isOperatorChar (c : Char) : Bool :=
  ['+', '-', '*', '&', '^', '%', ':', '=', '<', '>', '!', '|', '/'].contains c

/-- Characters that continue a word in a source of plain ASCII. -/
def isWordChar (c : Char) : Bool := c.isAlphanum || c == '_'

/-- The words that are scanned as the label of a case. -/
def labelWords : List String := ["case", "default"]

/-- The keywords that are no labels, and the predeclared types. -/
def keywords : List String :=
  ["break", "chan", "const", "continue", "defer", "else", "fallthrough", "for", "func", "go",
    "goto", "if", "import", "interface", "map", "package", "range", "return", "select", "struct",
    "switch", "type", "var",
    "bool", "byte", "complex64", "complex128", "float32", "float64", "int8", "int16", "int32",
    "int64", "string", "uint8", "uint16", "uint32", "uint64", "int", "uint", "uintptr", "error",
    "rune", "any", "comparable"]

/-- The predeclared constants and functions. -/
def atoms : List String :=
  ["true", "false", "iota", "nil", "append", "cap", "close", "complex", "copy", "delete", "imag",
    "len", "make", "new", "panic", "print", "println", "real", "recover"]

/-- The classes of words that the tables know. -/
inductive WordClass
  | label
  | keyword
  | atom
deriving DecidableEq, Repr

/-- The class of a word, if it is an entry of a table. -/
def wordClass? (text : List Char) : Option WordClass :=
  let word := String.ofList text
  if labelWords.contains word then some .label
  else if keywords.contains word then some .keyword
  else if atoms.contains word then some .atom
  else none

/-- The labels that are looked for at the front of a line. -/
def labelTags : List String := ["case", "default"]

/-- Whether a text starts with a label as a whole word. -/
def startsWithLabel (text : List Char) : Bool :=
  labelTags.any fun word =>
    word.toList.isPrefixOf text && !(text.drop word.length).head?.any isWordChar

/-- The labels are `case` and `default`. -/
theorem wordClass?_eq_label_iff {text : List Char} :
    wordClass? text = some .label ↔ text = "case".toList ∨ text = "default".toList := by
  have key : labelWords.contains (String.ofList text) = true ↔
      text = "case".toList ∨ text = "default".toList := by
    simp [labelWords, ← String.toList_inj]
  unfold wordClass?
  dsimp only
  split
  · rename_i h
    simpa using key.1 h
  · rename_i h
    rw [key] at h
    refine iff_of_false ?_ h
    split
    · simp
    · split <;> simp

end GoLayout.Lexis
