import GoLayout.Decimal.Shortest
import GoLayout.Text.Offset
import GoLayout.Text.Quoted

/-!
# Faults of a JSON text

Why a JSON text cannot be read, and where.  A reader holds nothing but the text it has not read yet,
so a fault carries that text, and how many bytes of it belong to the fault; the line and the column
are told from the whole text in the end.
-/

namespace GoLayout.Json

open GoLayout.Text GoLayout.Decimal

/-- A value that was found where another one was expected. -/
inductive Found
  | null
  | boolean (b : Bool)
  | integer (n : Int)
  | decimal (negative : Bool) (magnitude : Binary64)
  | string (s : List Char)
  | sequence
  | map
deriving DecidableEq, Repr

/-- Decimals are written positionally from five places after the point up to sixteen before it, and
with a signed exponent otherwise. -/
def decimalFormat : Format := ⟨-5, 15, ['+']⟩

/-- The description of a value. -/
def Found.describe : Found → String
  | .null => "null"
  | .boolean b => "boolean \x60" ++ toString b ++ "\x60"
  | .integer n => "integer \x60" ++ toString n ++ "\x60"
  | .decimal negative x =>
    "floating point \x60" ++ (if negative then "-" else "") ++ String.ofList (x.text decimalFormat)
      ++ "\x60"
  | .string s => "string " ++ String.ofList (quote s)
  | .sequence => "sequence"
  | .map => "map"

/-- Why a text cannot be read. -/
inductive Reason
  | endInValue
  | endInObject
  | endInList
  | endInString
  | expectedValue
  | expectedWord
  | expectedColon
  | expectedObjectEnd
  | expectedListEnd
  | keyNotString
  | trailingComma
  | trailingCharacters
  | invalidNumber
  | numberOutOfRange
  | invalidEscape
  | unfinishedSurrogate
  | loneSurrogate
  | controlCharacter
  /-- A value of another kind than the expected one. -/
  | invalidType (found : Found) (expected : String)
  /-- A value of the expected kind that is not allowed. -/
  | invalidValue (found : Found) (expected : String)
  | unknownField (key : List Char) (known : List String)
  | duplicateField (key : String)
deriving DecidableEq, Repr

/-- The wording of a reason. -/
def Reason.message : Reason → String
  | .endInValue => "EOF while parsing a value"
  | .endInObject => "EOF while parsing an object"
  | .endInList => "EOF while parsing a list"
  | .endInString => "EOF while parsing a string"
  | .expectedValue => "expected value"
  | .expectedWord => "expected ident"
  | .expectedColon => "expected \x60:\x60"
  | .expectedObjectEnd => "expected \x60,\x60 or \x60\x7d\x60"
  | .expectedListEnd => "expected \x60,\x60 or \x60]\x60"
  | .keyNotString => "key must be a string"
  | .trailingComma => "trailing comma"
  | .trailingCharacters => "trailing characters"
  | .invalidNumber => "invalid number"
  | .numberOutOfRange => "number out of range"
  | .invalidEscape => "invalid escape"
  | .unfinishedSurrogate => "unexpected end of hex escape"
  | .loneSurrogate => "lone leading surrogate in hex escape"
  | .controlCharacter => "control character (\\u0000-\\u001F) found while parsing a string"
  | .invalidType found expected => "invalid type: " ++ found.describe ++ ", expected " ++ expected
  | .invalidValue found expected => "invalid value: " ++ found.describe ++ ", expected " ++ expected
  | .unknownField key known =>
    "unknown field \x60" ++ String.ofList key ++ "\x60, expected one of "
      ++ String.intercalate ", " (known.map fun k => "\x60" ++ k ++ "\x60")
  | .duplicateField key => "duplicate field \x60" ++ key ++ "\x60"

/-- Why a text cannot be read, and the text that was left when this was seen.  The fault ends `ahead`
bytes after the start of that text, or at its end. -/
structure Fault where
  reason : Reason
  unread : List Char
  ahead : Nat := 0
deriving DecidableEq, Repr

/-- A place in a text: lines count from one, and columns count the bytes before the place. -/
structure Place where
  line : Nat := 1
  column : Nat := 0
deriving DecidableEq, Repr

namespace Place

/-- The place after a character. -/
def next (p : Place) (c : Char) : Place :=
  if c = '\n' then ⟨p.line + 1, 0⟩ else ⟨p.line, p.column + c.utf8Size⟩

/-- The place some bytes after `p`, or the end of the text if it is shorter.  Between the bytes of a
character the column counts those before the place. -/
def after (p : Place) : Nat → List Char → Place
  | _, [] => p
  | n, c :: s => if n < c.utf8Size then ⟨p.line, p.column + n⟩ else (p.next c).after (n - c.utf8Size) s

end Place

/-- The place of a fault in the text that was read. -/
def Fault.place (text : List Char) (f : Fault) : Place :=
  Place.after {} (utf8Length text - utf8Length f.unread + f.ahead) text

/-- The report on a text that cannot be read: why, and where. -/
structure Report where
  reason : Reason
  place : Place
deriving DecidableEq, Repr

/-- The report of a fault in the text that was read. -/
def Fault.report (text : List Char) (f : Fault) : Report := ⟨f.reason, f.place text⟩

/-- The wording of a report. -/
def Report.message (r : Report) : String :=
  r.reason.message ++ " at line " ++ toString r.place.line ++ " column " ++ toString r.place.column

end GoLayout.Json
