import GoLayout.Text.Ranges

/-!
# Blank characters

A blank is a character with the Unicode property `White_Space`.  Leading blanks are what indentation
consists of, and a line that holds nothing but blanks is an empty line of the layout.  This file
gives the table of the property and the cut of a line at its first character that is not blank.
-/

namespace GoLayout.Text

/-- The code points with the property `White_Space`, as inclusive ranges in ascending order. -/
def blankRanges : List (Nat × Nat) :=
  [(0x09, 0x0D), (0x20, 0x20), (0x85, 0x85), (0xA0, 0xA0), (0x1680, 0x1680), (0x2000, 0x200A),
    (0x2028, 0x2029), (0x202F, 0x202F), (0x205F, 0x205F), (0x3000, 0x3000)]

/-- A character is blank if its code point lies in one of the ranges. -/
def isBlank (c : Char) : Bool := inRanges blankRanges c.toNat

/-- The leading blanks of a line. -/
def leadingBlanks (line : List Char) : List Char := line.takeWhile isBlank

/-- A line without its leading blanks. -/
def trimStart (line : List Char) : List Char := line.dropWhile isBlank

/-- Cutting off the leading blanks loses nothing. -/
@[simp] theorem leadingBlanks_append_trimStart (line : List Char) :
    leadingBlanks line ++ trimStart line = line :=
  List.takeWhile_append_dropWhile

@[simp] theorem isBlank_space : isBlank ' ' = true := by decide

@[simp] theorem isBlank_tab : isBlank '\t' = true := by decide

end GoLayout.Text
