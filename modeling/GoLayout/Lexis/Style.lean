/-!
# Styles

A style is the highlighting class of a span.  Blanks and punctuation have no style.
-/

namespace GoLayout

/-- The highlighting class of a span. -/
inductive Style
  | keyword
  | atom
  | number
  | string
  | comment
  | operator
  | variable
deriving DecidableEq, Repr

/-- The name under which a theme looks a style up. -/
def Style.name : Style → String
  | .keyword => "keyword"
  | .atom => "atom"
  | .number => "number"
  | .string => "string"
  | .comment => "comment"
  | .operator => "operator"
  | .variable => "variable"

end GoLayout
