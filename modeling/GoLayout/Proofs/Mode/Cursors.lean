import GoLayout.Proofs.Lexis.Grammar
import GoLayout.Proofs.Mode.Tiling

/-!
# Moves of a cursor

Whoever scans a line holds a cursor and moves it as he likes: he looks at the next character, reads it, reads a run of
characters or what a recognizer takes, starts a token, or gives up on the rest.  Each move reads a part from the front
of the rest and leaves the line alone, so whatever the moves are, the cursor stays placed.

A placed cursor is a pair of places in the bytes of its line.  Both are borders of characters, and what the cursor
tells is what the line holds before, between and behind them.
-/

namespace GoLayout

open GoLayout.Text GoLayout.Lexis

namespace Text.Cut

variable {p : Char → Bool} {s : List Char}

lemma one_eq_stay (h : s.head?.any p = false) : one p s = stay s := by
  cases s with
  | nil => rfl
  | cons c s =>
    have hc : ¬p c = true := by simpa using h
    exact if_neg hc

lemma span_eq_stay (h : s.head?.any p = false) : span p s = stay s := by
  cases s with
  | nil => rfl
  | cons c s =>
    have hc : p c = false := by simpa using h
    simp [span, stay, hc]

lemma orStay_eq_stay {f : List Char → Option Cut} (h : (f s).isSome = false) : orStay f s = stay s := by
  rw [orStay, Option.not_isSome_iff_eq_none.1 (Bool.eq_false_iff.1 h)]
  rfl

end Text.Cut

namespace Cursor

/-! ## Moves -/

/-- The recognizers of what follows the first character of a numeral. -/
inductive Recognizer
  | fraction
  | hex
  | octal
  | decimal
deriving DecidableEq, Repr

/-- What a recognizer takes. -/
def Recognizer.cut? : Recognizer → List Char → Option Cut
  | .fraction => fractionTail?
  | .hex => hexTail?
  | .octal => octalTail?
  | .decimal => fun s => some (decimalTail s)

/-- What can be done with a cursor. -/
inductive Move
  | next
  | peek
  | eat (ch : Char)
  | eatWhile (p : Char → Bool)
  | eatBlanks
  | eatMatch (r : Recognizer)
  | startToken
  | skipToEnd

/-- What a move answers. -/
inductive Answer
  | char (c : Option Char)
  | flag (b : Bool)
  | nothing
deriving DecidableEq, Repr

/-- A move has not found what it was looking for. -/
def Answer.Fails (a : Answer) : Prop := a = .char none ∨ a = .flag false

/-- The class of characters of which a move reads a run. -/
def Move.class? : Move → Option (Char → Bool)
  | .eatWhile p => some p
  | .eatBlanks => some isBlank
  | _ => none

/-- Make a move. -/
def perform (c : Cursor) : Move → Answer × Cursor
  | .next => (.char c.next.1, c.next.2)
  | .peek => (.char c.peek, c)
  | .eat ch => (.flag (c.eat ch).1, (c.eat ch).2)
  | .eatWhile p => (.flag (c.eatWhile p).1, (c.eatWhile p).2)
  | .eatBlanks => (.flag c.eatBlanks.1, c.eatBlanks.2)
  | .eatMatch r => (.flag (c.eatMatch r.cut?).1, (c.eatMatch r.cut?).2)
  | .startToken => (.nothing, c.startToken)
  | .skipToEnd => (.nothing, c.skipToEnd)

/-- Make some moves, one after the other. -/
def performAll (c : Cursor) (moves : List Move) : Cursor := moves.foldl (fun c move => (c.perform move).2) c

variable {c : Cursor} {move : Move}

lemma Recognizer.whole_of_cut? {r : Recognizer} {s : List Char} {k : Cut} (h : r.cut? s = some k) : k.whole = s := by
  cases r with
  | fraction => exact whole_of_fractionTail? h
  | hex => exact whole_of_hexTail? h
  | octal => exact whole_of_octalTail? h
  | decimal =>
    obtain rfl := Option.some.inj h
    exact whole_decimalTail s

@[simp] lemma advance_stay (c : Cursor) : c.advance (.stay c.rest) = c := by
  simp [advance, Cut.stay]

/-- A move starts a token, stays, or reads a part of the rest. -/
lemma perform_cases (c : Cursor) (move : Move) :
    (c.perform move).2 = c.startToken ∨ ∃ k : Cut, k.whole = c.rest ∧ (c.perform move).2 = c.advance k := by
  cases move with
  | next => exact .inr ⟨_, Cut.whole_one _ _, rfl⟩
  | peek => exact .inr ⟨_, Cut.whole_stay _, c.advance_stay.symm⟩
  | eat ch => exact .inr ⟨_, Cut.whole_one _ _, rfl⟩
  | eatWhile p => exact .inr ⟨_, Cut.whole_span _ _, rfl⟩
  | eatBlanks => exact .inr ⟨_, Cut.whole_span _ _, rfl⟩
  | eatMatch r => exact .inr ⟨_, Cut.whole_orStay fun _ => Recognizer.whole_of_cut?, rfl⟩
  | startToken => exact .inl rfl
  | skipToEnd => exact .inr ⟨_, Cut.whole_all _, rfl⟩

/-! ## What a move does -/

/-- What a move does to a cursor. -/
structure Obeys (c : Cursor) (move : Move) : Prop where
  /-- The cursor does not go back. -/
  offset_le : c.offset ≤ (c.perform move).2.offset
  /-- A move that fails reads nothing. -/
  eq_of_fails : (c.perform move).1.Fails → (c.perform move).2 = c
  /-- A run is read up to the first character that is not of the class. -/
  run : ∀ p, move.class? = some p → ∃ run, c.rest = run ++ (c.perform move).2.rest ∧
    MaximalRun p run (c.perform move).2.rest ∧ (c.perform move).2.token = c.token ++ run

lemma offset_advance (c : Cursor) (k : Cut) : (c.advance k).offset = c.offset + utf8Length k.taken := by
  simp [advance, offset, Nat.add_assoc]

lemma offset_le_perform (c : Cursor) (move : Move) : c.offset ≤ (c.perform move).2.offset := by
  rcases c.perform_cases move with h | ⟨k, -, h⟩
  · rw [h]
    exact (start_startToken c).ge
  · rw [h, offset_advance]
    exact Nat.le_add_right _ _

/-- A move that fails leaves the cursor where it stands. -/
lemma perform_of_fails (h : (c.perform move).1.Fails) : (c.perform move).2 = c := by
  have hflag : ∀ {b : Bool}, (Answer.flag b).Fails → b = false := by
    rintro b (hb | hb)
    · cases hb
    · exact Answer.flag.inj hb
  -- a move that fails reads an empty part of the rest
  cases move with
  | next =>
    have hn : c.peek = none := by
      rcases h with h | h
      · exact Answer.char.inj h
      · cases h
    have hs : c.rest.head?.any (fun _ => true) = false := by rw [show c.rest.head? = none from hn]; rfl
    exact (congrArg c.advance (Cut.one_eq_stay hs)).trans c.advance_stay
  | peek => rfl
  | eat ch =>
    have hs : c.rest.head?.any (· == ch) = false := by
      have hp : (c.rest.head? == some ch) = false := hflag h
      cases hr : c.rest.head? with
      | none => rfl
      | some d => simpa [hr] using hp
    exact (congrArg c.advance (Cut.one_eq_stay hs)).trans c.advance_stay
  | eatWhile p => exact (congrArg c.advance (Cut.span_eq_stay (hflag h))).trans c.advance_stay
  | eatBlanks => exact (congrArg c.advance (Cut.span_eq_stay (hflag h))).trans c.advance_stay
  | eatMatch r => exact (congrArg c.advance (Cut.orStay_eq_stay (hflag h))).trans c.advance_stay
  | startToken => rcases h with h | h <;> cases h
  | skipToEnd => rcases h with h | h <;> cases h

/-- A run of a class is read as far as it goes. -/
lemma exists_run_eatWhile (c : Cursor) (p : Char → Bool) :
    ∃ run, c.rest = run ++ (c.eatWhile p).2.rest ∧ MaximalRun p run (c.eatWhile p).2.rest ∧
      (c.eatWhile p).2.token = c.token ++ run :=
  ⟨(Cut.span p c.rest).taken, (Cut.whole_span p c.rest).symm, maximalRun_span p c.rest, rfl⟩

lemma obeys (c : Cursor) (move : Move) : c.Obeys move where
  offset_le := c.offset_le_perform move
  eq_of_fails := perform_of_fails
  run := by
    intro p hp
    cases move with
    | eatWhile q =>
      obtain rfl := Option.some.inj hp
      exact c.exists_run_eatWhile q
    | eatBlanks =>
      obtain rfl := Option.some.inj hp
      exact c.exists_run_eatWhile isBlank
    | _ => cases hp

/-! ## Where cursors stand -/

/-- A cursor stands in a line: between two borders of characters, so that nothing that it tells has to be cut out of the
middle of a character or from outside of the line. -/
structure StandsIn (c : Cursor) (tabSize : Nat) (line : List Char) : Prop where
  start_le_offset : c.start ≤ c.offset
  offset_le_size : c.offset ≤ (String.ofList line).utf8ByteSize
  isValid_start : String.Pos.Raw.IsValid (String.ofList line) ⟨c.start⟩
  isValid_offset : String.Pos.Raw.IsValid (String.ofList line) ⟨c.offset⟩
  /-- The token is the slice from the start to the cursor. -/
  extract_token : String.Pos.Raw.extract (String.ofList line) ⟨c.start⟩ ⟨c.offset⟩ = String.ofList c.token
  /-- The rest is the slice from the cursor to the end. -/
  extract_rest : String.Pos.Raw.extract (String.ofList line) ⟨c.offset⟩ ⟨(String.ofList line).utf8ByteSize⟩
    = String.ofList c.rest
  /-- The token and the rest are the slice from the start to the end. -/
  extract_token_rest : String.Pos.Raw.extract (String.ofList line) ⟨c.start⟩ ⟨(String.ofList line).utf8ByteSize⟩
    = String.ofList (c.token ++ c.rest)
  /-- The column is that of the part before the start. -/
  column_eq : (upToByte? c.start line).map (columnAfter tabSize) = some c.column
  /-- The indentation is the column of the part of the line that trimming cuts off. -/
  indentation_eq : (upToByte? (utf8Length line - utf8Length (trimStart line)) line).map (columnAfter tabSize)
    = some c.indentation

lemma Placed.standsIn (h : c.Placed) : c.StandsIn c.tabSize c.line := by
  obtain ⟨passed, hline, hmark⟩ := h
  have hstart : c.start = utf8Length passed := by
    rw [start, hmark, Mark.offset_after]
    exact Nat.zero_add _
  have hoffset : c.offset = utf8Length passed + utf8Length c.token := congrArg (· + _) hstart
  have hsize : (String.ofList c.line).utf8ByteSize = utf8Length passed + utf8Length c.token + utf8Length c.rest := by
    rw [String.utf8ByteSize_ofList, ← utf8Length_eq_utf8Len, hline, utf8Length_append, utf8Length_append]
  have hcolumn : c.column = columnAfter c.tabSize passed := by
    rw [column, hmark, Mark.column_after]
    rfl
  -- the text behind the token, and the text from its start on
  have hrest := extract_utf8Length (passed ++ c.token) c.rest []
  have hboth := extract_utf8Length passed (c.token ++ c.rest) []
  rw [List.append_nil, utf8Length_append, ← hline, ← hsize, ← hoffset] at hrest
  rw [List.append_nil, ← List.append_assoc, utf8Length_append, ← Nat.add_assoc, ← hline, ← hsize, ← hstart] at hboth
  refine ⟨by omega, by omega, ?_, ?_, ?_, hrest, hboth, ?_, ?_⟩
  · rw [hstart, hline, List.append_assoc]
    exact isValid_utf8Length _ _
  · rw [hoffset, hline, ← utf8Length_append]
    exact isValid_utf8Length _ _
  · rw [hoffset, hstart, hline]
    exact extract_utf8Length _ _ _
  · rw [hstart, hcolumn, hline, List.append_assoc, upToByte?_append]
    rfl
  · have hup := upToByte?_append (leadingBlanks c.line) (trimStart c.line)
    rw [leadingBlanks_append_trimStart] at hup
    rw [utf8Length_sub_trimStart, hup]
    rfl

/-- A move keeps a cursor placed, in the same line. -/
lemma Placed.perform (h : c.Placed) (move : Move) :
    (c.perform move).2.Placed ∧ (c.perform move).2.line = c.line ∧ (c.perform move).2.tabSize = c.tabSize := by
  rcases c.perform_cases move with hm | ⟨k, hk, hm⟩
  · rw [hm]
    exact ⟨h.startToken, rfl, rfl⟩
  · rw [hm]
    exact ⟨h.advance hk, rfl, rfl⟩

lemma Placed.performAll (h : c.Placed) (moves : List Move) :
    (c.performAll moves).Placed ∧ (c.performAll moves).line = c.line ∧ (c.performAll moves).tabSize = c.tabSize := by
  induction moves generalizing c with
  | nil => exact ⟨h, rfl, rfl⟩
  | cons move moves ih =>
    obtain ⟨hplaced, hline, htab⟩ := h.perform move
    obtain ⟨hplaced', hline', htab'⟩ := ih hplaced
    exact ⟨hplaced', hline'.trans hline, htab'.trans htab⟩

/-- **However it is moved, a cursor stands in its line.**  Whatever move is made next, the cursor does not go back, it
stays where it is if the move fails, and a run of characters is read just up to the first one that is not of the
class. -/
theorem standsIn_performAll (tabSize : Nat) (line : List Char) (moves : List Move) :
    ((ofLine tabSize line).performAll moves).StandsIn tabSize line ∧
      ∀ move, ((ofLine tabSize line).performAll moves).Obeys move := by
  obtain ⟨hplaced, hline, htab⟩ := (placed_ofLine tabSize line).performAll moves
  have hstands := hplaced.standsIn
  rw [hline, htab] at hstands
  exact ⟨hstands, obeys _⟩

end Cursor

end GoLayout
