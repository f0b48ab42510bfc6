import GoLayout.Proofs.Lexis.Closers
import GoLayout.Proofs.Lexis.Words
import GoLayout.Proofs.Mode.Run

/-!
# The lexical grammar of code

What a span of code may look like is said here by a grammar.  Runs are as long as possible: a run of blanks, of
operator characters or of identifier characters goes on until a character of another kind.  Which rule applies is
settled by the first character, and for `/` by the second one as well.

* `Lexeme`: the grammar, one rule for each kind of span;
* `Lexeme.read_eq`: the scanner reads a span of the grammar as it is, so the grammar leaves no choice;
* `lexeme_read`: every text starts with a span of the grammar, and that is what the scanner reads;
* `Mode.lexeme_token`: hence a token of code is the one span that the grammar allows.
-/

namespace GoLayout

open GoLayout.Text

namespace Lexis

/-! ## Runs -/

/-- A run of characters of a class that does not go on in the text behind it. -/
structure MaximalRun (p : Char → Bool) (run rest : List Char) : Prop where
  all : ∀ c ∈ run, p c = true
  stops : ∀ c ∈ rest.head?, p c = false

lemma maximalRun_span (p : Char → Bool) (s : List Char) :
    MaximalRun p (Cut.span p s).taken (Cut.span p s).rest := by
  refine ⟨fun c hc => List.mem_takeWhile_imp hc, fun c hc => ?_⟩
  have hh := List.head?_dropWhile_not p s
  rw [show (s.dropWhile p).head? = some c from hc] at hh
  simpa using hh

lemma MaximalRun.span_eq {p : Char → Bool} {run rest : List Char} (h : MaximalRun p run rest) :
    Cut.span p (run ++ rest) = ⟨run, rest⟩ := by
  have ht : rest.takeWhile p = [] ∧ rest.dropWhile p = rest := by
    cases rest with
    | nil => exact ⟨rfl, rfl⟩
    | cons c rest =>
      have hc : p c = false := h.stops c rfl
      simp [hc]
  rw [Cut.span, List.takeWhile_append_of_pos h.all, List.dropWhile_append_of_pos h.all, ht.1, ht.2,
    List.append_nil]

/-! ## The grammar -/

/-- A character that starts a word, because no other rule is about it. -/
structure StartsWord (c : Char) : Prop where
  not_blank : isBlank c = false
  not_quote : Quote.ofChar? c = none
  not_digit : c.isDigit = false
  not_punct : Punct.ofChar? c = none
  not_operator : isOperatorChar c = false

/-- The style and the signal of a word: the tables settle the style, and the labels alone tell the layout
something. -/
structure ReadsWord (word : List Char) (style : Style) (signal : Option Signal) : Prop where
  keyword_iff : style = .keyword ↔ String.ofList word ∈ labelWords ∨ String.ofList word ∈ keywords
  atom_iff : style = .atom ↔ String.ofList word ∈ atoms
  variable_iff : style = .variable ↔ String.ofList word ∉ labelWords ∧ String.ofList word ∉ keywords ∧
    String.ofList word ∉ atoms
  signal_eq : signal
    = if word = "case".toList ∨ word = "default".toList then some .caseLabel else none

/-- The spans of code. -/
inductive Lexeme : Scan → Prop
  /-- A run of blanks. -/
  | blanks {run rest : List Char} (hne : run ≠ []) (h : MaximalRun isBlank run rest) :
    Lexeme ⟨run, rest, none, none, .code⟩
  /-- A punctuation mark alone.  A point is no mark but the start of a number. -/
  | mark {p : Punct} {rest : List Char} (hp : p ≠ .dot) :
    Lexeme ⟨[p.char], rest, none, some (.punct p), .code⟩
  /-- A comment up to the end of the line. -/
  | lineComment {text : List Char} : Lexeme ⟨'/' :: '/' :: text, [], some .comment, none, .code⟩
  /-- A block comment, which may stay open. -/
  | blockComment {text inside rest : List Char} {after : Continuation}
    (h : Extent .comment text inside rest after) :
    Lexeme ⟨'/' :: '*' :: inside, rest, some .comment, none, after⟩
  /-- A run of operator characters that starts neither with a colon nor as a comment. -/
  | operator {c : Char} {run rest : List Char} (hc : isOperatorChar c = true) (hcolon : c ≠ ':')
    (hcomment : c = '/' → (run ++ rest).head? ≠ some '/' ∧ (run ++ rest).head? ≠ some '*')
    (h : MaximalRun isOperatorChar run rest) : Lexeme ⟨c :: run, rest, some .operator, none, .code⟩
  /-- A string, which may stay open. -/
  | string {q : Quote} {text inside rest : List Char} {after : Continuation}
    (h : Extent (.string q) text inside rest after) :
    Lexeme ⟨q.char :: inside, rest, some .string, none, after⟩
  /-- A number, which starts with a digit or a point and goes on as `numeral` says. -/
  | number {c : Char} {text : List Char} (hc : c.isDigit = true ∨ c = '.') :
    Lexeme (.styled .number (numeral c text))
  /-- A word: any other character, and the identifier characters behind it. -/
  | word {c : Char} {run rest : List Char} {style : Style} {signal : Option Signal} (hc : StartsWord c)
    (h : MaximalRun isIdentChar run rest) (hw : ReadsWord (c :: run) style signal) :
    Lexeme ⟨c :: run, rest, some style, signal, .code⟩

/-- The class of a word tells how it is read. -/
lemma readsWord_wordClass? (word : List Char) :
    ReadsWord word (wordStyle (wordClass? word)) (wordSignal (wordClass? word)) := by
  have hl : wordClass? word = some .label ↔ String.ofList word ∈ labelWords := wordClass?_eq_some_iff
  have hk : wordClass? word = some .keyword ↔ String.ofList word ∈ keywords := wordClass?_eq_some_iff
  have ha : wordClass? word = some .atom ↔ String.ofList word ∈ atoms := wordClass?_eq_some_iff
  constructor <;> simp only [← hl, ← hk, ← ha, ← wordClass?_eq_label_iff] <;>
    (cases wordClass? word with
      | none => simp [wordStyle, wordSignal]
      | some w => cases w <;> simp [wordStyle, wordSignal])

lemma ReadsWord.unique {word : List Char} {style style' : Style} {signal signal' : Option Signal}
    (h : ReadsWord word style signal) (h' : ReadsWord word style' signal') :
    style = style' ∧ signal = signal' := by
  refine ⟨?_, h.signal_eq.trans h'.signal_eq.symm⟩
  by_cases hk : String.ofList word ∈ labelWords ∨ String.ofList word ∈ keywords
  · rw [h.keyword_iff.2 hk, h'.keyword_iff.2 hk]
  · by_cases ha : String.ofList word ∈ atoms
    · rw [h.atom_iff.2 ha, h'.atom_iff.2 ha]
    · rw [not_or] at hk
      rw [h.variable_iff.2 ⟨hk.1, hk.2, ha⟩, h'.variable_iff.2 ⟨hk.1, hk.2, ha⟩]

/-! ## First characters -/

lemma read_cons {c : Char} (h : isBlank c = false) (s : List Char) :
    read .code (c :: s) = scanCode (c :: s) :=
  if_pos ⟨startsSolid_cons_iff.2 h, List.cons_ne_nil c s⟩

lemma isDigit_disjoint {c : Char} (h : c.isDigit = true) :
    isBlank c = false ∧ Quote.ofChar? c = none := by
  have hn : 48 ≤ c.toNat ∧ c.toNat ≤ 57 := by simpa [Char.isDigit_iff_toNat] using h
  constructor
  · rw [← Bool.not_eq_true, isBlank, inRanges_iff]
    rintro ⟨r, hr, hlo, hhi⟩
    have : ∀ r ∈ blankRanges, r.2 < 48 ∨ 57 < r.1 := by decide
    have := this r hr
    omega
  · rw [Option.eq_none_iff_forall_ne_some]
    intro q hq
    rw [Quote.ofChar?_eq_some_iff] at hq
    subst hq
    cases q <;> exact absurd h (by decide)

/-- An operator character other than the colon is of no other kind. -/
lemma isOperatorChar_disjoint {c : Char} (h : isOperatorChar c = true) :
    isBlank c = false ∧ Quote.ofChar? c = none ∧ (c.isDigit || c == '.') = false ∧
      (c ≠ ':' → Punct.ofChar? c = none) := by
  have hmem := List.contains_iff_mem.1 h
  simp only [List.mem_cons, List.not_mem_nil, or_false] at hmem
  rcases hmem with rfl | rfl | rfl | rfl | rfl | rfl | rfl | rfl | rfl | rfl | rfl | rfl | rfl <;>
    refine ⟨by decide, rfl, by decide, fun hcolon => ?_⟩ <;> first | rfl | exact absurd rfl hcolon

/-! ## The scanner reads the grammar -/

lemma Extent.read_opener_append {k after : Continuation} {text inside rest : List Char} (hk : k ≠ .code)
    (h : Extent k text inside rest after) :
    read .code (k.opener ++ (inside ++ rest)) = ⟨k.opener ++ inside, rest, k.style?, none, after⟩ := by
  have hw : inside ++ rest = text := by
    cases h with
    | stays _ => exact List.append_nil text
    | closes _ => rfl
  obtain ⟨rfl, rfl, rfl⟩ := (extent_scan_self hk text).unique h
  rw [hw]
  exact read_opener hk text

/-- **The scanner reads a span of the grammar as it is.** -/
theorem Lexeme.read_eq {r : Scan} (h : Lexeme r) : read .code r.whole = r := by
  -- a form of the grammar tells the first character, and so the branch in which the scanner reads it
  cases h with
  | @blanks run rest hne h =>
    have hs : Cut.span isBlank (run ++ rest) = ⟨run, rest⟩ := h.span_eq
    have ht : leadingBlanks (run ++ rest) = run := congrArg Cut.taken hs
    have hr : trimStart (run ++ rest) = rest := congrArg Cut.rest hs
    rw [Scan.whole, read, ht, hr, if_neg fun e => hne e.1]
  | @mark p rest hp =>
    have hb : isBlank p.char = false := by
      cases p with
      | opening b => cases b <;> decide
      | closing b => cases b <;> decide
      | _ => decide
    refine (read_cons hb rest).trans ?_
    cases p with
    | opening b => cases b <;> rfl
    | closing b => cases b <;> rfl
    | dot => exact absurd rfl hp
    | _ => rfl
  | lineComment =>
    rw [Scan.whole, List.append_nil]
    exact read_cons (by decide) _
  | blockComment h => exact h.read_opener_append (by decide)
  | string h => exact h.read_opener_append (by simp)
  | @operator c run rest hc hcolon hcomment h =>
    obtain ⟨hb, hq, hd, hp⟩ := isOperatorChar_disjoint hc
    rw [Scan.whole, List.cons_append, read_cons hb]
    simp only [scanCode, hq, hd, hp hcolon, hc]
    rw [if_neg Bool.false_ne_true, if_neg fun e => (hcomment e.1).2 e.2, if_neg fun e => (hcomment e.1).1 e.2,
      if_pos trivial, h.span_eq]
    rfl
  | @number c text hc =>
    rw [Scan.whole_styled, whole_numeral]
    rcases hc with hc | rfl
    · obtain ⟨hb, hq⟩ := isDigit_disjoint hc
      rw [read_cons hb]
      simp [scanCode, hq, hc]
    · exact read_cons (by decide) text
  | @word c run rest style signal hc h hw =>
    obtain ⟨hstyle, hsignal⟩ := hw.unique (readsWord_wordClass? (c :: run))
    rw [Scan.whole, List.cons_append, read_cons hc.not_blank]
    -- a letter belongs to no branch before the one for words
    have hdot : (c == '.') = false := by
      rw [beq_eq_false_iff_ne]
      rintro rfl
      exact absurd hc.not_punct (by decide)
    simp only [scanCode, hc.not_quote, hc.not_digit, hdot, Bool.or_false, hc.not_punct, hc.not_operator]
    have hslash : c ≠ '/' := by
      rintro rfl
      exact absurd hc.not_operator (by decide)
    rw [if_neg Bool.false_ne_true, if_neg fun e => hslash e.1, if_neg fun e => hslash e.1,
      if_neg Bool.false_ne_true, scanWord, h.span_eq, hstyle, hsignal]
    rfl

lemma lexeme_scanString (q : Quote) (s : List Char) : Lexeme ((scanString q s).cons q.char) := by
  have hk : Continuation.string q ≠ .code := by simp
  rw [show scanString q s = scan (.string q) s from rfl, scan_eta hk]
  exact .string (extent_scan_self hk s)

lemma lexeme_scanComment (s : List Char) : Lexeme (((scanComment s).cons '*').cons '/') := by
  have hk : Continuation.comment ≠ .code := by simp
  rw [show scanComment s = scan .comment s from rfl, scan_eta hk]
  exact .blockComment (extent_scan_self hk s)

lemma lexeme_scanCode {c : Char} (hb : isBlank c = false) (s : List Char) : Lexeme (scanCode (c :: s)) := by
  -- the branches of `scanCode`, in the order in which it tries the kinds of first characters
  simp only [scanCode]
  split
  · rename_i q hq
    rw [Quote.ofChar?_eq_some_iff] at hq
    subst hq
    exact lexeme_scanString q s
  · rename_i hq
    split
    · rename_i hd
      exact .number (by simpa using hd)
    · rename_i hd
      split
      · rename_i p hp
        rw [Punct.ofChar?_eq_some_iff] at hp
        subst hp
        exact .mark (by rintro rfl; exact hd rfl)
      · rename_i hp
        split
        · rename_i h
          obtain ⟨rfl, hs⟩ := h
          obtain ⟨s, rfl⟩ := List.head?_eq_some_iff.1 hs
          exact lexeme_scanComment s
        · rename_i hblock
          split
          · rename_i h
            obtain ⟨rfl, hs⟩ := h
            obtain ⟨s, rfl⟩ := List.head?_eq_some_iff.1 hs
            exact .lineComment
          · rename_i hline
            have hcomment : c = '/' → s.head? ≠ some '/' ∧ s.head? ≠ some '*' := fun e =>
              ⟨fun h => hline ⟨e, h⟩, fun h => hblock ⟨e, h⟩⟩
            split
            · rename_i hc
              have hw : (Cut.span isOperatorChar s).taken ++ (Cut.span isOperatorChar s).rest = s :=
                Cut.whole_span isOperatorChar s
              refine .operator hc ?_ (hw.symm ▸ hcomment) (maximalRun_span isOperatorChar s)
              rintro rfl
              exact absurd hp (by decide)
            · rename_i hc
              have hdigit : c.isDigit = false := (Bool.or_eq_false_iff.1 (Bool.eq_false_of_not_eq_true hd)).1
              exact .word ⟨hb, hq, hdigit, hp, Bool.eq_false_of_not_eq_true hc⟩
                (maximalRun_span isIdentChar s) (readsWord_wordClass? _)

/-- **Every text starts with a span of the grammar.** -/
theorem lexeme_read {s : List Char} (hs : s ≠ []) : Lexeme (read .code s) := by
  by_cases hb : leadingBlanks s = []
  · obtain ⟨c, s, rfl⟩ := List.exists_cons_of_ne_nil hs
    have hc : isBlank c = false := startsSolid_cons_iff.1 hb
    rw [read_cons hc]
    exact lexeme_scanCode hc s
  · rw [read, if_neg fun e => hb e.1]
    exact .blanks hb (maximalRun_span isBlank s)

end Lexis

/-! ## Tokens of code -/

namespace Mode

open GoLayout.Lexis GoLayout.Layout

/-- **A token of code is the one span that the grammar allows.**

The span is at the front of what is left of the line, and nothing else that the grammar allows is.  A lookup that
reads the longest entry of the tables classifies its text as the tables do. -/
theorem lexeme_token (c : Cursor) {s : State} (hs : s.continuation = .code) (hc : ¬c.AtEnd) :
    let t := token c s
    let r : Scan := ⟨t.cursor.token, t.cursor.rest, t.scan.style, t.scan.signal, t.state.continuation⟩
    r.whole = c.rest ∧ Lexeme r ∧ (∀ r' : Scan, r'.whole = c.rest → Lexeme r' → r' = r) ∧
      ∀ lookup, LongestMatch lookup → wholeMatch? lookup t.cursor.token = wordClass? t.cursor.token := by
  intro t r
  have hr : r = read .code c.rest := by
    simp only [r, t, cursor_token, rest_token, scan_token, continuation_token, hs]
  refine ⟨?_, ?_, fun r' hw hl => ?_, fun lookup h => h.wholeMatch?_eq _⟩
  · rw [hr, whole_read]
  · rw [hr]
    exact lexeme_read hc
  · rw [hr, ← hw, hl.read_eq]

/-- A word of which only the front is a keyword, and a shorter part of that as well, is a variable. -/
theorem lexeme_token_of_interfaces :
    let c := Cursor.ofLine 4 "interfaces\x7bint80\x7d".toList
    let s := default.startState 0
    let t := token c s
    let r : Scan := ⟨"interfaces".toList, "\x7bint80\x7d".toList, some .variable, none, .code⟩
    (s.continuation = .code ∧ ¬c.AtEnd ∧ LongestMatch longestMatch?) ∧
      t.cursor.token = r.text ∧ t.cursor.rest = r.rest ∧ t.scan = r ∧
      Lexeme r ∧ (∀ r' : Scan, r'.whole = c.rest → Lexeme r' → r' = r) ∧
      longestMatch? r.text = some (.keyword, "interface".toList) ∧ wordClass? r.text = none := by
  intro c s t r
  have hs : s.continuation = .code := rfl
  have hc : ¬c.AtEnd := by decide
  have ht : t.cursor.token = r.text := by decide +kernel
  have hr : (⟨t.cursor.token, t.cursor.rest, t.scan.style, t.scan.signal, t.state.continuation⟩ : Scan) = r := by
    decide +kernel
  obtain ⟨-, hl, hu, hclass⟩ := lexeme_token c hs hc
  have hword := hclass longestMatch? longestMatch_longestMatch?
  rw [hr] at hl hu
  rw [ht] at hword
  exact ⟨⟨hs, hc, longestMatch_longestMatch?⟩, ht, by decide +kernel, by decide +kernel, hl, hu,
    by decide +kernel, hword.symm.trans (by decide +kernel)⟩

end Mode

end GoLayout
