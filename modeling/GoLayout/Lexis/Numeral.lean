import GoLayout.Text.Cut

/-!
# Numerals

Recognizers for what follows the first character of a numeral.  They tell how far a numeral reaches
and leave its value alone.  An underscore counts as a digit everywhere; an exponent that lacks its
digits is given back as a whole.
-/

namespace GoLayout.Lexis

open GoLayout.Text

/-- Decimal digits and the underscore. -/
def isDecimalDigit (c : Char) : Bool := c.isDigit || c == '_'

/-- Octal digits and the underscore. -/
def isOctalDigit (c : Char) : Bool := ('0' ≤ c && c ≤ '7') || c == '_'

/-- Hexadecimal digits of either case and the underscore. -/
def isHexDigit (c : Char) : Bool :=
  c.isDigit || ('a' ≤ c && c ≤ 'f') || ('A' ≤ c && c ≤ 'F') || c == '_'

/-- The letter that announces an exponent. -/
def isExponentMark (c : Char) : Bool := c == 'e' || c == 'E'

/-- The letter that announces hexadecimal digits. -/
def isHexMark (c : Char) : Bool := c == 'x' || c == 'X'

/-- The sign of an exponent. -/
def isSign (c : Char) : Bool := c == '+' || c == '-'

/-- The decimal point. -/
def isPoint (c : Char) : Bool := c == '.'

/-- An exponent: its mark, an optional sign and at least one digit. -/
def exponent? : List Char → Option Cut
  | [] => none
  | c :: s =>
    if isExponentMark c then
      let sign := Cut.one isSign s
      (Cut.span? isDecimalDigit sign.rest).map fun digits => ⟨c :: (sign.taken ++ digits.taken), digits.rest⟩
    else none

/-- What follows a leading point: digits and an optional exponent. -/
def fractionTail? (s : List Char) : Option Cut :=
  (Cut.span? isDecimalDigit s).map fun digits => digits.andThen (Cut.orStay exponent?)

/-- What follows the leading zero of a hexadecimal numeral: the mark and at least one digit. -/
def hexTail? : List Char → Option Cut
  | [] => none
  | c :: s => if isHexMark c then (Cut.span? isHexDigit s).map (Cut.cons c) else none

/-- What follows the leading zero of an octal numeral. -/
def octalTail? (s : List Char) : Option Cut := Cut.span? isOctalDigit s

/-- What follows the first digit of a decimal numeral; every part of it is optional. -/
def decimalTail (s : List Char) : Cut :=
  (((Cut.span isDecimalDigit s).andThen (Cut.one isPoint)).andThen (Cut.span isDecimalDigit)).andThen
    (Cut.orStay exponent?)

theorem whole_of_exponent? {s : List Char} {k : Cut} (h : exponent? s = some k) : k.whole = s := by
  cases s with
  | nil => simp [exponent?] at h
  | cons c s =>
    simp only [exponent?] at h
    split at h
    · obtain ⟨digits, hd, rfl⟩ := Option.map_eq_some_iff.1 h
      have hw := Cut.whole_of_span? hd
      have ho := Cut.whole_one isSign s
      simp only [Cut.whole] at hw ho ⊢
      rw [List.cons_append, List.append_assoc, hw, ho]
    · simp at h

theorem whole_orStay_exponent? (s : List Char) : (Cut.orStay exponent? s).whole = s :=
  Cut.whole_orStay fun _ h => whole_of_exponent? h

theorem whole_of_fractionTail? {s : List Char} {k : Cut} (h : fractionTail? s = some k) :
    k.whole = s := by
  obtain ⟨digits, hd, rfl⟩ := Option.map_eq_some_iff.1 h
  rw [Cut.whole_andThen (whole_orStay_exponent? _), Cut.whole_of_span? hd]

theorem whole_of_hexTail? {s : List Char} {k : Cut} (h : hexTail? s = some k) : k.whole = s := by
  cases s with
  | nil => simp [hexTail?] at h
  | cons c s =>
    simp only [hexTail?] at h
    split at h
    · obtain ⟨digits, hd, rfl⟩ := Option.map_eq_some_iff.1 h
      rw [Cut.whole_cons, Cut.whole_of_span? hd]
    · simp at h

theorem whole_of_octalTail? {s : List Char} {k : Cut} (h : octalTail? s = some k) : k.whole = s :=
  Cut.whole_of_span? h

@[simp] theorem whole_decimalTail (s : List Char) : (decimalTail s).whole = s := by
  rw [decimalTail, Cut.whole_andThen (whole_orStay_exponent? _), Cut.whole_andThen (Cut.whole_span _ _),
    Cut.whole_andThen (Cut.whole_one _ _), Cut.whole_span]

/-- A numeral, given its first character, which is a digit or a point. -/
def numeral (c : Char) (s : List Char) : Cut :=
  if c = '.' then (Cut.orStay fractionTail? s).cons c
  else if c = '0' then (Cut.orStay (fun s => (hexTail? s).or (octalTail? s)) s).cons c
  else (decimalTail s).cons c

@[simp] theorem whole_numeral (c : Char) (s : List Char) : (numeral c s).whole = c :: s := by
  unfold numeral
  split
  · rw [Cut.whole_cons, Cut.whole_orStay fun _ h => whole_of_fractionTail? h]
  · split
    · rw [Cut.whole_cons, Cut.whole_orStay]
      intro k h
      rcases Option.or_eq_some_iff.1 h with h | ⟨_, h⟩
      · exact whole_of_hexTail? h
      · exact whole_of_octalTail? h
    · rw [Cut.whole_cons, whole_decimalTail]

end GoLayout.Lexis
