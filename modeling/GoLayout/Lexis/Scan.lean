import GoLayout.Text.Blank
import GoLayout.Lexis.Style
import GoLayout.Lexis.Bracket
import GoLayout.Lexis.Continuation
import GoLayout.Lexis.Word
import GoLayout.Lexis.Numeral

/-!
# Scanning

`scan` takes one span from the front of a line, given what the line goes on with, and classifies it.
In code the first character decides: a quote opens a string, a digit or a point starts a numeral, a
punctuation mark stands alone, `//` and `/*` open comments, operator characters form runs, and
everything else starts a word.  `read` does the same but takes a run of blanks as a span of its own.

Both take at least one character of a line that is not empty, and lose nothing.
-/

namespace GoLayout.Lexis

open GoLayout.Text

/-- One span of a line: its text, the text after it, its class, what it tells the layout, and what
the text after it goes on with. -/
structure Scan where
  text : List Char
  rest : List Char
  style : Option Style
  signal : Option Signal
  continuation : Continuation
deriving DecidableEq, Repr

namespace Scan

/-- The text from which the span was taken. -/
def whole (r : Scan) : List Char := r.text ++ r.rest

/-- Take one more character in front. -/
def cons (c : Char) (r : Scan) : Scan := { r with text := c :: r.text }

/-- A span of code with a style. -/
def styled (style : Style) (k : Cut) : Scan := ⟨k.taken, k.rest, some style, none, .code⟩

/-- Whether a span is code, as opposed to blanks and comments: it has a style other than that of a
comment, or it tells the layout something. -/
def isCode (r : Scan) : Bool :=
  r.style != some .comment && (r.style.isSome || r.signal.isSome)

@[simp] theorem whole_cons (c : Char) (r : Scan) : (r.cons c).whole = c :: r.whole := rfl

@[simp] theorem whole_styled (style : Style) (k : Cut) : (styled style k).whole = k.whole := rfl

end Scan

/-- The cut after the quote that closes a string, if there is one in the line.  `escaped` tells
whether the character before was a backslash that counts. -/
def stringCloser? (q : Quote) : Bool → List Char → Option Cut
  | _, [] => none
  | escaped, c :: s =>
    if c = q.char ∧ escaped = false then some ⟨[c], s⟩
    else (stringCloser? q (!escaped && !q.isRaw && c == '\\') s).map (Cut.cons c)

/-- The cut after the `*/` that closes a comment, if there is one in the line.  `starred` tells
whether the character before was a star. -/
def commentCloser? : Bool → List Char → Option Cut
  | _, [] => none
  | starred, c :: s =>
    if c = '/' ∧ starred = true then some ⟨[c], s⟩
    else (commentCloser? (c == '*') s).map (Cut.cons c)

/-- The inside of a string up to its closing quote, or the whole line if it stays open. -/
def scanString (q : Quote) (s : List Char) : Scan :=
  match stringCloser? q false s with
  | some k => .styled .string k
  | none => ⟨s, [], some .string, none, .string q⟩

/-- The inside of a comment up to its end, or the whole line if it stays open. -/
def scanComment (s : List Char) : Scan :=
  match commentCloser? false s with
  | some k => .styled .comment k
  | none => ⟨s, [], some .comment, none, .comment⟩

/-- The style of a word. -/
def wordStyle : Option WordClass → Style
  | some .label => .keyword
  | some .keyword => .keyword
  | some .atom => .atom
  | none => .variable

/-- What a word tells the layout. -/
def wordSignal : Option WordClass → Option Signal
  | some .label => some .caseLabel
  | _ => none

/-- A word, given its first character: that character and the identifier characters after it. -/
def scanWord (c : Char) (s : List Char) : Scan :=
  let k := (Cut.span isIdentChar s).cons c
  ⟨k.taken, k.rest, some (wordStyle (wordClass? k.taken)), wordSignal (wordClass? k.taken), .code⟩

/-- One span of code. -/
def scanCode : List Char → Scan
  | [] => ⟨[], [], none, none, .code⟩
  | c :: s =>
    match Quote.ofChar? c with
    | some q => (scanString q s).cons c
    | none =>
      if c.isDigit || c == '.' then .styled .number (numeral c s)
      else
        match Punct.ofChar? c with
        | some p => ⟨[c], s, none, some (.punct p), .code⟩
        | none =>
          if c = '/' ∧ s.head? = some '*' then ((scanComment s.tail).cons '*').cons '/'
          else if c = '/' ∧ s.head? = some '/' then .styled .comment (Cut.all (c :: s))
          else if isOperatorChar c then .styled .operator ((Cut.span isOperatorChar s).cons c)
          else scanWord c s

/-- One span of a line that goes on with the given continuation. -/
def scan : Continuation → List Char → Scan
  | .code, s => scanCode s
  | .string q, s => scanString q s
  | .comment, s => scanComment s

/-- One span of a line, where a run of blanks is a span without style. -/
def read (k : Continuation) (s : List Char) : Scan :=
  if leadingBlanks s = [] ∧ s ≠ [] then scan k s
  else ⟨leadingBlanks s, trimStart s, none, none, k⟩

/-! ## Nothing is lost -/

theorem whole_of_stringCloser? {q : Quote} {escaped : Bool} {s : List Char} {k : Cut}
    (h : stringCloser? q escaped s = some k) : k.whole = s := by
  induction s generalizing escaped k with
  | nil => simp [stringCloser?] at h
  | cons c s ih =>
    simp only [stringCloser?] at h
    split at h
    · cases h
      rfl
    · obtain ⟨k', hk, rfl⟩ := Option.map_eq_some_iff.1 h
      rw [Cut.whole_cons, ih hk]

theorem whole_of_commentCloser? {starred : Bool} {s : List Char} {k : Cut}
    (h : commentCloser? starred s = some k) : k.whole = s := by
  induction s generalizing starred k with
  | nil => simp [commentCloser?] at h
  | cons c s ih =>
    simp only [commentCloser?] at h
    split at h
    · cases h
      rfl
    · obtain ⟨k', hk, rfl⟩ := Option.map_eq_some_iff.1 h
      rw [Cut.whole_cons, ih hk]

@[simp] theorem whole_scanString (q : Quote) (s : List Char) : (scanString q s).whole = s := by
  unfold scanString
  split
  · rename_i k h
    rw [Scan.whole_styled, whole_of_stringCloser? h]
  · simp [Scan.whole]

@[simp] theorem whole_scanComment (s : List Char) : (scanComment s).whole = s := by
  unfold scanComment
  split
  · rename_i k h
    rw [Scan.whole_styled, whole_of_commentCloser? h]
  · simp [Scan.whole]

@[simp] theorem whole_scanWord (c : Char) (s : List Char) : (scanWord c s).whole = c :: s := by
  have h : ((Cut.span isIdentChar s).cons c).whole = c :: s := by simp
  exact h

@[simp] theorem whole_scanCode (s : List Char) : (scanCode s).whole = s := by
  cases s with
  | nil => rfl
  | cons c s =>
    simp only [scanCode]
    split
    · simp
    · split
      · simp
      · split
        · rfl
        · split
          · rename_i h
            obtain ⟨rfl, h⟩ := h
            cases s with
            | nil => simp at h
            | cons d s =>
              simp only [List.head?_cons, Option.some.injEq] at h
              subst h
              simp
          · split
            · simp
            · split <;> simp

@[simp] theorem whole_scan (k : Continuation) (s : List Char) : (scan k s).whole = s := by
  cases k <;> simp [scan]

@[simp] theorem whole_read (k : Continuation) (s : List Char) : (read k s).whole = s := by
  unfold read
  split
  · simp
  · exact leadingBlanks_append_trimStart s

/-! ## Something is taken -/

theorem taken_ne_nil_of_stringCloser? {q : Quote} {escaped : Bool} {s : List Char} {k : Cut}
    (h : stringCloser? q escaped s = some k) : k.taken ≠ [] := by
  cases s with
  | nil => simp [stringCloser?] at h
  | cons c s =>
    simp only [stringCloser?] at h
    split at h
    · cases h
      simp
    · obtain ⟨k', _, rfl⟩ := Option.map_eq_some_iff.1 h
      simp [Cut.cons]

theorem taken_ne_nil_of_commentCloser? {starred : Bool} {s : List Char} {k : Cut}
    (h : commentCloser? starred s = some k) : k.taken ≠ [] := by
  cases s with
  | nil => simp [commentCloser?] at h
  | cons c s =>
    simp only [commentCloser?] at h
    split at h
    · cases h
      simp
    · obtain ⟨k', _, rfl⟩ := Option.map_eq_some_iff.1 h
      simp [Cut.cons]

theorem text_scanString_ne_nil {q : Quote} {s : List Char} (h : s ≠ []) :
    (scanString q s).text ≠ [] := by
  unfold scanString
  split
  · rename_i k hk
    exact taken_ne_nil_of_stringCloser? hk
  · exact h

theorem text_scanComment_ne_nil {s : List Char} (h : s ≠ []) : (scanComment s).text ≠ [] := by
  unfold scanComment
  split
  · rename_i k hk
    exact taken_ne_nil_of_commentCloser? hk
  · exact h

/-- A span of code starts with the first character of the text. -/
theorem head?_text_scanCode (c : Char) (s : List Char) :
    (scanCode (c :: s)).text.head? = some c := by
  simp only [scanCode]
  split
  · rfl
  · split
    · unfold numeral
      split
      · rfl
      · split <;> rfl
    · split
      · rfl
      · split
        · rename_i h
          exact congrArg some h.1.symm
        · split
          · rfl
          · split <;> rfl

theorem text_scan_ne_nil (k : Continuation) {s : List Char} (h : s ≠ []) :
    (scan k s).text ≠ [] := by
  cases k with
  | code =>
    cases s with
    | nil => exact absurd rfl h
    | cons c s =>
      intro e
      have := head?_text_scanCode c s
      rw [show (scanCode (c :: s)).text = [] from e] at this
      simp at this
  | string q => exact text_scanString_ne_nil h
  | comment => exact text_scanComment_ne_nil h

/-- Scanning leaves less than it was given. -/
theorem length_rest_scan_lt (k : Continuation) {s : List Char} (h : s ≠ []) :
    (scan k s).rest.length < s.length := by
  have hw := congrArg List.length (whole_scan k s)
  have ht := List.length_pos_iff.2 (text_scan_ne_nil k h)
  simp only [Scan.whole, List.length_append] at hw
  omega

/-- Nothing is left of an empty text. -/
@[simp] theorem rest_scan_nil (k : Continuation) : (scan k []).rest = [] :=
  (List.append_eq_nil_iff.1 (whole_scan k [])).2

/-- Reading takes at least one character of a text that is not empty. -/
theorem text_read_ne_nil (k : Continuation) {s : List Char} (h : s ≠ []) :
    (read k s).text ≠ [] := by
  unfold read
  split
  · exact text_scan_ne_nil k h
  · rename_i hb
    exact fun e => hb ⟨e, h⟩

/-- Reading leaves less than it was given. -/
theorem length_rest_read_lt (k : Continuation) {s : List Char} (h : s ≠ []) :
    (read k s).rest.length < s.length := by
  have hw := congrArg List.length (whole_read k s)
  have ht := List.length_pos_iff.2 (text_read_ne_nil k h)
  simp only [Scan.whole, List.length_append] at hw
  omega

end GoLayout.Lexis
