import GoLayout.Json.Fault
import GoLayout.Text.Cut

/-!
# Reading JSON

A reader takes a value from the front of a text and leaves the rest.  This file has the readers of the
lexical parts of JSON: blanks, words, strings and numbers, and the report on a value of another kind
than the expected one.
-/

namespace GoLayout.Json

open GoLayout.Text GoLayout.Decimal

/-- A reader takes a value from the front of a text, or fails. -/
abbrev Reader (α : Type) : Type := List Char → Except Fault (α × List Char)

/-- Fail in front of the next character. -/
def fail {α : Type} (reason : Reason) : Reader α := fun s => .error ⟨reason, s, 0⟩

/-- Fail within the next character, after its first byte. -/
def failAt {α : Type} (reason : Reason) : Reader α := fun s => .error ⟨reason, s, 1⟩

/-- Succeed with a value and read nothing. -/
def yields {α : Type} (a : α) : Reader α := fun s => .ok (a, s)

/-- Read with `p`, and go on with what `f` makes of its value. -/
def andThen {α β : Type} (p : Reader α) (f : α → Reader β) : Reader β := fun s =>
  match p s with
  | .ok (a, rest) => f a rest
  | .error e => .error e

/-! ## Blanks and words -/

/-- The blanks of JSON. -/
def isJsonBlank (c : Char) : Bool := c == ' ' || c == '\n' || c == '\t' || c == '\r'

/-- A text without its leading blanks. -/
def skipBlanks (s : List Char) : List Char := s.dropWhile isJsonBlank

/-- Read the given characters, the rest of a word. -/
def word : List Char → Reader Unit
  | [], s => .ok ((), s)
  | _ :: _, [] => fail .endInValue []
  | w :: ws, c :: s => if c = w then word ws s else failAt .expectedWord (c :: s)

/-! ## Strings -/

/-- The value of a hexadecimal digit. -/
def hexValue? (c : Char) : Option Nat :=
  if c.isDigit then some (c.toNat - 48)
  else if 'a' ≤ c ∧ c ≤ 'f' then some (c.toNat - 87)
  else if 'A' ≤ c ∧ c ≤ 'F' then some (c.toNat - 55)
  else none

/-- The number that four hexadecimal digits stand for. -/
def hexQuad? (a b c d : Char) : Option Nat := do
  return (((← hexValue? a) * 16 + (← hexValue? b)) * 16 + (← hexValue? c)) * 16 + (← hexValue? d)

/-- Fail at four bytes that are not four hexadecimal digits. -/
def badQuad {α : Type} : Reader α := fun s =>
  if utf8Length s < 4 then fail .endInString [] else .error ⟨.invalidEscape, s, 4⟩

/-- Read four hexadecimal digits. -/
def quad : Reader Nat
  | a :: b :: c :: d :: s =>
    match hexQuad? a b c d with
    | some n => .ok (n, s)
    | none => badQuad (a :: b :: c :: d :: s)
  | s => badQuad s

/-- The first half of a surrogate pair. -/
def isLeading (n : Nat) : Bool := 0xD800 ≤ n && n ≤ 0xDBFF

/-- The second half of a surrogate pair. -/
def isTrailing (n : Nat) : Bool := 0xDC00 ≤ n && n ≤ 0xDFFF

/-- The character that a surrogate pair stands for. -/
def ofSurrogates (leading trailing : Nat) : Char :=
  Char.ofNat (0x10000 + (leading - 0xD800) * 0x400 + (trailing - 0xDC00))

/-- Read the given character, which is due in the middle of a surrogate pair. -/
def pairMark (mark : Char) : Reader Unit
  | [] => fail .endInString []
  | c :: s => if c = mark then .ok ((), s) else failAt .unfinishedSurrogate (c :: s)

/-- Read a code point after a backslash and the letter `u`. -/
def codePoint : Reader Char :=
  andThen quad fun n =>
    if isTrailing n then fail .loneSurrogate
    else if isLeading n then
      andThen (pairMark '\\') fun _ => andThen (pairMark 'u') fun _ => andThen quad fun n' =>
        if isTrailing n' then yields (ofSurrogates n n')
        else fail .loneSurrogate
    else yields (Char.ofNat n)

/-- The character that a letter stands for after a backslash. -/
def simpleEscape? (c : Char) : Option Char :=
  [('\x22', '\x22'), ('\\', '\\'), ('/', '/'), ('b', '\x08'), ('f', '\x0c'), ('n', '\n'),
    ('r', '\r'), ('t', '\t')].lookup c

/-- Read what stands after a backslash. -/
def escape : Reader Char
  | [] => fail .endInString []
  | c :: s =>
    if c = 'u' then codePoint s
    else
      match simpleEscape? c with
      | some d => .ok (d, s)
      | none => failAt .invalidEscape (c :: s)

theorem length_le_of_quad {s : List Char} {n : Nat} {rest : List Char} (h : quad s = .ok (n, rest)) :
    rest.length ≤ s.length := by
  unfold quad at h
  split at h
  · rename_i a b c d s'
    split at h
    · cases h
      simp only [List.length_cons]
      omega
    · unfold badQuad fail at h
      split at h <;> cases h
  · unfold badQuad fail at h
    split at h <;> cases h

theorem length_le_of_pairMark {mark : Char} {s rest : List Char} {u : Unit}
    (h : pairMark mark s = .ok (u, rest)) : rest.length ≤ s.length := by
  cases s with
  | nil => cases h
  | cons c s =>
    simp only [pairMark] at h
    split at h
    · cases h
      simp
    · cases h

theorem of_andThen {α β : Type} {p : Reader α} {f : α → Reader β} {s : List Char}
    {r : β × List Char} (h : andThen p f s = .ok r) :
    ∃ a rest, p s = .ok (a, rest) ∧ f a rest = .ok r := by
  unfold andThen at h
  split at h
  · exact ⟨_, _, ‹_›, h⟩
  · cases h

theorem rest_of_yields {α : Type} {a b : α} {s rest : List Char}
    (h : yields a s = .ok (b, rest)) : rest = s := by
  simp only [yields, Except.ok.injEq, Prod.mk.injEq] at h
  exact h.2.symm

theorem length_le_of_codePoint {s rest : List Char} {c : Char} (h : codePoint s = .ok (c, rest)) :
    rest.length ≤ s.length := by
  unfold codePoint at h
  obtain ⟨n, s₁, h₁, h⟩ := of_andThen h
  have l₁ := length_le_of_quad h₁
  split at h
  · cases h
  · split at h
    · obtain ⟨_, s₂, h₂, h⟩ := of_andThen h
      obtain ⟨_, s₃, h₃, h⟩ := of_andThen h
      obtain ⟨n', s₄, h₄, h⟩ := of_andThen h
      have l₂ := length_le_of_pairMark h₂
      have l₃ := length_le_of_pairMark h₃
      have l₄ := length_le_of_quad h₄
      split at h
      · have := rest_of_yields h
        subst this
        omega
      · cases h
    · have := rest_of_yields h
      subst this
      omega

theorem length_le_of_escape {s rest : List Char} {c : Char} (h : escape s = .ok (c, rest)) :
    rest.length ≤ s.length := by
  cases s with
  | nil => cases h
  | cons d s =>
    simp only [escape] at h
    split at h
    · have := length_le_of_codePoint h
      simp only [List.length_cons]
      omega
    · split at h
      · cases h
        simp
      · cases h

/-- Read the inside of a string and the quote after it. -/
def stringBody (s : List Char) : Except Fault (List Char × List Char) :=
  match s with
  | [] => fail .endInString []
  | c :: s =>
    if c = '\x22' then .ok ([], s)
    else if c = '\\' then
      match _h : escape s with
      | .error e => .error e
      | .ok (d, rest) => (stringBody rest).map fun r => (d :: r.1, r.2)
    else if c.toNat < 0x20 then failAt .controlCharacter (c :: s)
    else (stringBody s).map fun r => (c :: r.1, r.2)
termination_by s.length
decreasing_by
  · exact Nat.lt_succ_of_le (length_le_of_escape _h)
  · exact Nat.lt_succ_self _

/-! ## Numbers -/

/-- The largest number that is counted exactly. -/
def maxExact : Nat := 18446744073709551615

/-- The largest exponent. -/
def maxExponent : Nat := 2147483647

/-- The value of a decimal digit. -/
def digitValue (c : Char) : Nat := c.toNat - 48

/-- Read digits behind `n` as long as the number stays at most `limit`; tell how many were read. -/
def digitsWithin (limit : Nat) : Nat → List Char → Nat × Nat × List Char
  | n, [] => (n, 0, [])
  | n, c :: s =>
    if c.isDigit && n * 10 + digitValue c ≤ limit then
      let (m, k, rest) := digitsWithin limit (n * 10 + digitValue c) s
      (m, k + 1, rest)
    else (n, 0, c :: s)

/-- A text without its leading digits. -/
def skipDigits (s : List Char) : List Char := s.dropWhile Char.isDigit

/-- Whether a text starts with a digit. -/
def startsWithDigit (s : List Char) : Bool := s.head?.any Char.isDigit

/-- A number of JSON: an integer, if it has no fraction or exponent and is small enough, or else the
nearest decimal. -/
abbrev Number := Found

/-- The decimal with the given digits and power of ten, unless it is too large. -/
def decimal (negative : Bool) (digits : Nat) (power : Int) : Reader Number :=
  match Binary64.ofDecimal? digits power with
  | some x => yields (.decimal negative x)
  | none => fail .numberOutOfRange

/-- Read an exponent after its mark. -/
def exponent (negative : Bool) (digits : Nat) (power : Int) : Reader Number := fun s =>
  let sign := Cut.one (fun c => c == '+' || c == '-') s
  let down := sign.taken = ['-']
  if sign.rest = [] then fail .endInValue []
  else if !startsWithDigit sign.rest then failAt .invalidNumber sign.rest
  else
    let (e, _, rest) := digitsWithin maxExponent 0 sign.rest
    if startsWithDigit rest then
      if digits ≠ 0 ∧ ¬down then fail .numberOutOfRange (rest.drop 1)
      else .ok (.decimal negative .zero, skipDigits rest)
    else
      decimal negative digits (if down then power - e else power + e) rest

/-- Whether a text starts with the mark of an exponent. -/
def startsWithMark (s : List Char) : Bool := s.head?.any fun c => c == 'e' || c == 'E'

/-- Read what may follow the digits of a decimal. -/
def decimalEnd (negative : Bool) (digits : Nat) (power : Int) : Reader Number := fun s =>
  if startsWithMark s then exponent negative digits power (s.drop 1) else decimal negative digits power s

/-- Read the digits after a point; those that the exact digits have no room for are dropped. -/
def fraction (negative : Bool) (digits : Nat) (power : Int) : Reader Number := fun s =>
  let (n, k, rest) := digitsWithin maxExact digits s
  if k = 0 ∧ ¬startsWithDigit rest then
    if rest = [] then fail .endInValue [] else failAt .invalidNumber rest
  else decimalEnd negative n (power - k) (skipDigits rest)

/-- Read what may follow the digits before the point. -/
def numberEnd (negative : Bool) (digits : Nat) : Reader Number := fun s =>
  if s.head? = some '.' then fraction negative digits 0 (s.drop 1)
  else if startsWithMark s then exponent negative digits 0 (s.drop 1)
  else if ¬negative then .ok (.integer digits, s)
  else if 1 ≤ digits ∧ digits ≤ 9223372036854775808 then .ok (.integer (-digits), s)
  else decimal negative digits 0 s

/-- Read a number without its sign.  The digits that the exact digits have no room for only count for
the power of ten. -/
def unsigned (negative : Bool) : Reader Number
  | [] => fail .endInValue []
  | c :: s =>
    if c = '0' then
      if startsWithDigit s then failAt .invalidNumber s else numberEnd negative 0 s
    else if ¬c.isDigit then failAt .invalidNumber (c :: s)
    else
      let (n, _, rest) := digitsWithin maxExact 0 (c :: s)
      if startsWithDigit rest then
        let k := (rest.takeWhile Char.isDigit).length
        let rest := skipDigits rest
        if rest.head? = some '.' then fraction negative n k (rest.drop 1)
        else decimalEnd negative n k rest
      else numberEnd negative n rest

/-- Read a number, if the text starts with one. -/
def number? (s : List Char) : Option (Except Fault (Number × List Char)) :=
  if s.head? = some '-' then some (unsigned true (s.drop 1))
  else if startsWithDigit s then some (unsigned false s)
  else none

/-! ## Values of another kind -/

/-- Fail at a value of another kind than the expected one.  A scalar is read, so that the fault stands
behind it; a sequence or a map is not entered. -/
def unexpected {α : Type} (expected : String) : Reader α := fun s =>
  let wrong (p : Reader Found) : Reader α := andThen p fun x => fail (.invalidType x expected)
  match number? s with
  | some (.ok (x, rest)) => fail (.invalidType x expected) rest
  | some (.error e) => .error e
  | none =>
    match s with
    | 'n' :: s => wrong (andThen (word ['u', 'l', 'l']) fun _ => yields .null) s
    | 't' :: s => wrong (andThen (word ['r', 'u', 'e']) fun _ => yields (.boolean true)) s
    | 'f' :: s => wrong (andThen (word ['a', 'l', 's', 'e']) fun _ => yields (.boolean false)) s
    | '\x22' :: s => wrong (andThen stringBody fun t => yields (.string t)) s
    | '[' :: _ => fail (.invalidType .sequence expected) s
    | '{' :: _ => fail (.invalidType .map expected) s
    | _ => failAt .expectedValue s

/-- Read a number of 32 bits without sign. -/
def natural : Reader Nat := fun s =>
  let s := skipBlanks s
  if s = [] then fail .endInValue []
  else
    match number? s with
    | some (.ok (.integer n, rest)) =>
      if 0 ≤ n ∧ n ≤ 4294967295 then .ok (n.toNat, rest)
      else fail (.invalidValue (.integer n) "u32") rest
    | some (.ok (x, rest)) => fail (.invalidType x "u32") rest
    | some (.error e) => .error e
    | none => unexpected "u32" s

/-- Read a truth value. -/
def boolean : Reader Bool := fun s =>
  match skipBlanks s with
  | [] => fail .endInValue []
  | 't' :: s => andThen (word ['r', 'u', 'e']) (fun _ => yields true) s
  | 'f' :: s => andThen (word ['a', 'l', 's', 'e']) (fun _ => yields false) s
  | s => unexpected "a boolean" s

end GoLayout.Json
