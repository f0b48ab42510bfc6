import GoLayout.Document.Highlight
import GoLayout.Json.Writer
import GoLayout.Registry.Spec
import GoLayout.Text.Quoted

/-!
# Listings

Highlighted documents as text: a table with one span in a line, JSON, or the document itself with the
colours of a terminal.
-/

namespace GoLayout

open GoLayout.Text

/-! ## Tables -/

/-- A text with blanks before it, up to a width. -/
def padStart (width : Nat) (s : String) : String :=
  String.ofList (List.replicate (width - s.length) ' ') ++ s

/-- A text with blanks after it, up to a width. -/
def padEnd (width : Nat) (s : String) : String :=
  s ++ String.ofList (List.replicate (width - s.length) ' ')

/-- The name of a style in a table; a dash stands for no style. -/
def styleLabel (style : Option Style) : String := (style.map Style.name).getD "-"

/-- The line of a table for a span. -/
def Span.row (number : Nat) (s : Span) : String :=
  padStart 4 (toString number) ++ ":" ++ padEnd 4 (toString s.start) ++ " "
    ++ padEnd 9 (styleLabel s.style) ++ " " ++ String.ofList (quote s.text) ++ "\n"

/-- The table of the spans of a document. -/
def table (ls : List LineSpans) : String :=
  String.join (ls.flatMap fun l => l.spans.map (Span.row l.number))

/-! ## JSON -/

/-- A span as JSON. -/
def Span.json (s : Span) : Json.Layout :=
  Json.object [("start", Json.number s.start), ("end", Json.number s.stop),
    ("text", Json.string (String.ofList s.text)),
    ("style", (s.style.map fun style => Json.string style.name).getD Json.null)]

/-- The spans of a line as JSON. -/
def LineSpans.json (l : LineSpans) : Json.Layout :=
  Json.object [("line", Json.number l.number), ("spans", Json.array (l.spans.map Span.json))]

/-- A specification as JSON. -/
def Spec.json (spec : Spec) : Json.Layout :=
  let char (c : Char) := Json.string (String.ofList [c])
  Json.object [("name", Json.string spec.name), ("mime", Json.string spec.mime),
    ("electricChars", Json.string spec.electricChars),
    ("closeBrackets", Json.array (spec.closeBrackets.map fun p => Json.array [char p.1, char p.2])),
    ("fold", Json.string spec.fold), ("blockCommentStart", Json.string spec.blockCommentStart),
    ("blockCommentEnd", Json.string spec.blockCommentEnd),
    ("lineComment", Json.string spec.lineComment)]

/-! ## Colours -/

/-- The end of a coloured text. -/
def resetSequence : List Char := ['\x1b', '[', '0', 'm']

/-- The sequence that starts a coloured text. -/
def colourSequence (code : String) : List Char := ['\x1b', '['] ++ code.toList ++ ['m']

/-- A text in which every end of a coloured text is followed by `again`. -/
def resume (again : List Char) : List Char → List Char
  | '\x1b' :: '[' :: '0' :: 'm' :: s => resetSequence ++ again ++ resume again s
  | c :: s => c :: resume again s
  | [] => []

/-- A text in a colour, or as it is if colours are off.  A coloured text within it ends in this
colour. -/
def colour (on : Bool) (code : String) (s : List Char) : List Char :=
  if on then colourSequence code ++ resume (colourSequence code) s ++ resetSequence else s

/-- The colour of a style. -/
def Style.colour? : Style → Option String
  | .keyword => some "1;34"
  | .atom => some "35"
  | .number => some "36"
  | .string => some "32"
  | .comment => some "3;90"
  | .operator => some "33"
  | .variable => none

/-- The text of a span in the colour of its style. -/
def Span.painted (on : Bool) (s : Span) : List Char :=
  match s.style.bind Style.colour? with
  | some code => colour on code s.text
  | none => s.text

/-- A highlighted document with its colours; every line is ended by a line feed. -/
def painted (on : Bool) (ls : List LineSpans) : String :=
  String.ofList (ls.flatMap fun l => l.spans.flatMap (Span.painted on) ++ ['\n'])

end GoLayout
