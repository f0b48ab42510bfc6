import GoLayout.Text.Printable

/-!
# Quoted text

Text within double quotes, in one line and with nothing invisible in it.  Quotes and backslashes are
escaped by a backslash, some controls have a letter, and a character that cannot be shown on its own
is written as its code point in hexadecimal.  Single quotes stand for themselves.
-/

namespace GoLayout.Text

/-- A code point in an escape sequence. -/
def codePointEscape (c : Char) : List Char :=
  ['\\', 'u', '{'] ++ Nat.toDigits 16 c.toNat ++ ['}']

/-- A character within quotes. -/
def quoteChar (c : Char) : List Char :=
  if c = '\x22' ∨ c = '\\' then ['\\', c]
  else if c = '\t' then ['\\', 't']
  else if c = '\r' then ['\\', 'r']
  else if c = '\n' then ['\\', 'n']
  else if c = '\x00' then ['\\', '0']
  else if extendsGrapheme c || !isPrintable c then codePointEscape c
  else [c]

/-- A text within quotes. -/
def quote (s : List Char) : List Char := '\x22' :: s.flatMap quoteChar ++ ['\x22']

/-- A string within quotes. -/
def quoteString (s : String) : String := String.ofList (quote s.toList)

end GoLayout.Text
