/-!
# Writing JSON

Values laid out over several lines, two blanks for each level.  A value is a function from its level to
its text, and arrays and objects are built from their parts.
-/

namespace GoLayout.Json

/-- A value as text, given the level at which it stands. -/
abbrev Layout := Nat → String

/-- A hexadecimal digit. -/
def hexDigit (n : Nat) : Char := (Nat.toDigits 16 (n % 16)).headD '0'

/-- A character within a string.  Quotes, backslashes and controls are escaped, and nothing else. -/
def escapeChar (c : Char) : List Char :=
  if c = '\x22' ∨ c = '\\' then ['\\', c]
  else if c = '\x08' then ['\\', 'b']
  else if c = '\x0c' then ['\\', 'f']
  else if c = '\n' then ['\\', 'n']
  else if c = '\r' then ['\\', 'r']
  else if c = '\t' then ['\\', 't']
  else if c.toNat < 0x20 then ['\\', 'u', '0', '0', hexDigit (c.toNat / 16), hexDigit c.toNat]
  else [c]

/-- A string. -/
def string (s : String) : Layout := fun _ =>
  String.ofList ('\x22' :: s.toList.flatMap escapeChar ++ ['\x22'])

/-- A number. -/
def number (n : Nat) : Layout := fun _ => toString n

/-- A truth value. -/
def bool (b : Bool) : Layout := fun _ => if b then "true" else "false"

/-- The value that stands for nothing. -/
def null : Layout := fun _ => "null"

/-- The start of a line at a level. -/
def lineStart (level : Nat) : String := String.ofList ('\n' :: List.replicate (2 * level) ' ')

/-- Parts within brackets, one in a line; without parts, the brackets alone. -/
def enclose (opener closer : String) (parts : List Layout) : Layout := fun level =>
  match parts with
  | [] => opener ++ closer
  | parts =>
    let lines := parts.map fun part => lineStart (level + 1) ++ part (level + 1)
    opener ++ String.intercalate "," lines ++ lineStart level ++ closer

/-- An array. -/
def array (elements : List Layout) : Layout := enclose "[" "]" elements

/-- An object with its entries in the given order. -/
def object (entries : List (String × Layout)) : Layout :=
  enclose "\x7b" "\x7d" (entries.map fun e => fun level => string e.1 level ++ ": " ++ e.2 level)

end GoLayout.Json
