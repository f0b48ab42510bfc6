import GoLayout.Lexis.Bracket
import GoLayout.Layout.Extent

/-!
# Contexts

A context is an open bracket, the body of a case, or the document itself.  It remembers how far its
line was indented and at which column it was opened, and it settles once how the lines in it are
aligned: to the column after the opener if something follows the opener on its line, and one unit
deeper than the opener's line otherwise.
-/

namespace GoLayout

open GoLayout.Layout

/-- What kind of text a context holds. -/
inductive Kind
  /-- The whole document. -/
  | top
  /-- The inside of a pair of brackets. -/
  | group (b : Bracket)
  /-- The body of a case; it turns back into a pair of braces on the next line. -/
  | caseBody
deriving DecidableEq, Repr

namespace Kind

/-- The bracket that closes a context. -/
def bracket? : Kind → Option Bracket
  | .group b => some b
  | _ => none

/-- The character that closes a context. -/
def closer? (k : Kind) : Option Char := k.bracket?.map Bracket.closer

/-- Whether a bracket closes a context. -/
def isBracket (k : Kind) : Bool := k.closer?.isSome

/-- Whether a punctuation mark closes a context. -/
def closedBy (k : Kind) : Punct → Bool
  | .closing b => k = .group b
  | _ => false

/-- The kind of context that a punctuation mark opens. -/
def openedBy? : Punct → Option Kind
  | .opening b => some (.group b)
  | _ => none

/-- The kind at the start of the next line. -/
def onNewLine : Kind → Kind
  | .caseBody => .group .brace
  | k => k

@[simp] theorem isBracket_group (b : Bracket) : (group b).isBracket = true := rfl

@[simp] theorem openedBy?_opening (b : Bracket) : openedBy? (.opening b) = some (.group b) := rfl

@[simp] theorem openedBy?_closing (b : Bracket) : openedBy? (.closing b) = none := rfl

@[simp] theorem onNewLine_onNewLine (k : Kind) : k.onNewLine.onNewLine = k.onNewLine := by
  cases k <;> rfl

end Kind

/-- How the lines of a context are aligned. -/
inductive Align
  /-- Not settled yet. -/
  | unresolved
  /-- To the column after the opener. -/
  | column
  /-- One unit deeper than the line of the opener. -/
  | indent
deriving DecidableEq, Repr

/-- Settle an alignment that is not settled yet. -/
def Align.settle (a settled : Align) : Align :=
  match a with
  | .unresolved => settled
  | a => a

@[simp] theorem Align.settle_unresolved (a : Align) : Align.unresolved.settle a = a := rfl

/-- An alignment is settled once. -/
@[simp] theorem Align.settle_settle {a b : Align} (c : Align) (h : b ≠ .unresolved) :
    (a.settle b).settle c = a.settle b := by
  cases a <;> cases b <;> first | rfl | exact absurd rfl h

/-- An open context. -/
structure Context where
  /-- The indentation of the line in which the context was opened. -/
  indented : Int
  /-- The column of the opener. -/
  column : Int
  kind : Kind
  align : Align
deriving DecidableEq, Repr

namespace Context

/-- The context of a document that starts at column `base` with the given indent unit. -/
def root (base unit : Int) : Context := ⟨clamp (base - unit), 0, .top, .indent⟩

/-- What becomes of the innermost context when a line starts. -/
def onNewLine (x : Context) : Context :=
  { x with kind := x.kind.onNewLine, align := x.align.settle .indent }

/-- What becomes of the innermost context when code follows on its line. -/
def onCode (x : Context) : Context := { x with align := x.align.settle .column }

/-- The column of a line in the context, which its closing bracket may start. -/
def lineColumn (x : Context) (unit : Int) (closing : Bool) : Int :=
  match x.align with
  | .column => clamp (x.column + if closing then 0 else 1)
  | _ => clamp (x.indented + if closing then 0 else unit)

/-- Whether a text starts with the closing bracket of the context. -/
def isClosedAt (x : Context) (text : List Char) : Bool :=
  x.kind.closer?.any fun c => text.head? == some c

@[simp] theorem onNewLine_onNewLine (x : Context) : x.onNewLine.onNewLine = x.onNewLine := by
  simp [onNewLine]

end Context

end GoLayout
