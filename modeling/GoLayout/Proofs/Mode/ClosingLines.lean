import GoLayout.Proofs.Lexis.Signals
import GoLayout.Proofs.Mode.Alignment

/-!
# Lines that close a context

A suggestion looks at the first character of a line and at the innermost context as the lines before have left
it.  When the line is read, its start changes the context first, and only then the first token may close it.
The two agree on a line that closes the context of a bracket: it is suggested the column of that bracket, or
of its line.

They do not agree in the body of a case, which only the start of a line turns back into braces.  There the
closing brace is suggested the column of any other line in the body.
-/

namespace GoLayout

open GoLayout.Text GoLayout.Lexis GoLayout.Layout

namespace Mode

variable (m : Mode) {s : State} {line : List Char} {ts : List Step}

/-! ## The first token -/

/-- The first step of a line that reads more than blanks. -/
def firstToken? (s : State) (line : List Char) : Option Step :=
  (m.steps line s).find? (HasSolid ·.scan.text)

/-- A line closes the innermost context at once if its first token does. -/
def ClosesAtOnce (s : State) (line : List Char) : Prop :=
  ∃ t ∈ m.firstToken? s line, t.state.nesting.depth < s.nesting.depth

instance (s : State) (line : List Char) : Decidable (m.ClosesAtOnce s line) :=
  inferInstanceAs (Decidable (∃ t ∈ _, _))

lemma scan_firstToken? (s : State) (line : List Char) :
    (m.firstToken? s line).map Step.scan = (readLine s.continuation (trimStart line)).head? := by
  have hr : (m.steps line s).map Step.scan = readLine s.continuation line := map_scan_run _ _
  rw [← head?_tokens, tokens, List.head?_filter, ← hr, List.find?_map]
  rfl

lemma nesting_token_of_blank {c : Cursor} (h : ¬HasSolid (token c s).scan.text) :
    (token c s).state.nesting
      = if (token c s).startsLine then s.nesting.mapHead Context.onNewLine else s.nesting := by
  have hc : (token c s).scan.isCode = false := by
    rw [Bool.eq_false_iff]
    exact fun hc => h ((isCode_read_iff _ _).1 hc).1
  have hs : (token c s).state = { enter c s with continuation := (token c s).scan.continuation } :=
    State.absorb_of_not_isCode hc
  rw [hs, ← nesting_enter]

lemma nesting_stateAfter_of_blank (hc : Calls s ts) (hb : ∀ t ∈ ts, ¬HasSolid t.scan.text) :
    (stateAfter ts s).nesting = s.nesting ∨ (stateAfter ts s).nesting = s.nesting.mapHead Context.onNewLine := by
  induction hc with
  | nil s => exact .inl rfl
  | @cons c s ts hc ih =>
    obtain ⟨ht, hts⟩ := List.forall_mem_cons.1 hb
    have hn := nesting_token_of_blank ht
    rw [stateAfter_cons]
    by_cases hl : (token c s).startsLine = true
    · rw [if_pos hl] at hn
      rcases ih hts with h | h
      · exact .inr (h.trans hn)
      · exact .inr (by simp [h, hn])
    · rw [if_neg hl] at hn
      rw [← hn]
      exact ih hts

/-! ## Closing lines -/

lemma kind_eq_of_onNewLine {k : Kind} {b : Bracket} (h : k.onNewLine = .group b) :
    k = .caseBody ∨ k = .group b := by
  cases k with
  | caseBody => exact .inl rfl
  | _ => exact .inr h

lemma closing_of_depth_lt {c : Cursor} (h : (token c s).state.nesting.depth < s.nesting.depth) :
    ∃ b : Bracket, (token c s).scan.signal = some (.punct (.closing b)) ∧ s.head.kind.onNewLine = .group b := by
  cases effect_token c s with
  | stays _ _ hn _ => simp [hn] at h
  | opens b _ _ hn _ =>
    rw [hn, Nesting.depth_push, Nesting.depth_mapHead] at h
    omega
  | closes b x hsig hx hn _ =>
    have hh : (token c s).touch s.head = x := by
      have hh := congrArg Nesting.head hn
      rwa [Nesting.head_mapHead, Nesting.head_push] at hh
    rw [← hh, Step.kind_touch _ _ (by simp [hsig])] at hx
    refine ⟨b, hsig, ?_⟩
    split at hx
    · exact hx
    · rw [hx]
      rfl

variable {m}

/-- A line that closes the innermost context at once starts with a closing bracket, and the context is that of
the bracket or the body of a case. -/
lemma ClosesAtOnce.exists_closer (h : m.ClosesAtOnce s line) (hk : s.continuation = .code) :
    ∃ b : Bracket, (trimStart line).head? = some b.closer ∧ s.nesting.inner ≠ [] ∧
      (s.head.kind = .caseBody ∨ s.head.kind = .group b) := by
  obtain ⟨t, ht, hlt⟩ := h
  have hscan := m.scan_firstToken? s line
  rw [ht, hk] at hscan
  obtain ⟨-, ts, us, hsteps, hblank⟩ := List.find?_eq_some_iff_append.1 ht
  have hcalls : Calls s (ts ++ t :: us) := by
    rw [← hsteps]
    exact calls_run _ s
  obtain ⟨hts, hrest⟩ := calls_append_iff.1 hcalls
  -- up to the token there are only blanks, so at most the line has been started
  have hn := nesting_stateAfter_of_blank hts (by simpa using hblank)
  generalize stateAfter ts s = s' at hrest hn
  have hdepth : s'.nesting.depth = s.nesting.depth := by
    rcases hn with hn | hn <;> simp [hn]
  have hkind : s'.head.kind.onNewLine = s.head.kind.onNewLine := by
    unfold State.head
    rcases hn with hn | hn
    · rw [hn]
    · rw [hn, Nesting.head_mapHead]
      exact Kind.onNewLine_onNewLine _
  cases hrest with
  | cons c hrest =>
    obtain ⟨b, hsig, hb⟩ := closing_of_depth_lt (hdepth ▸ hlt)
    refine ⟨b, ?_, ?_, kind_eq_of_onNewLine (hkind ▸ hb)⟩
    · rw [← head?_readLine_signal_closing (startsSolid_trimStart line), ← hscan]
      simp [hsig]
    · intro hnil
      rw [Nesting.depth, Nesting.depth, hnil] at hlt
      simp at hlt

lemma startsWithLabel_of_closer {text : List Char} {b : Bracket} (h : text.head? = some b.closer) :
    startsWithLabel text = false := by
  obtain ⟨rest, rfl⟩ := List.head?_eq_some_iff.1 h
  cases b <;> simp [startsWithLabel, labelTags, Bracket.closer]

/-- In the body of a case a closing bracket is suggested the column of any other line but a label. -/
lemma suggestion?_of_caseBody (m : Mode) {b : Bracket} (hk : s.continuation = .code)
    (hc : s.head.kind = .caseBody) (ht : (trimStart line).head? = some b.closer) :
    m.suggestion? s line = some (s.head.lineColumn m.unit false) := by
  have hclosed : s.head.isClosedAt (trimStart line) = false := by
    simp [Context.isClosedAt, hc, Kind.closer?, Kind.bracket?]
  simp [suggestion?, hk, hclosed, startsWithLabel_of_closer ht]

/-- **A line that closes a bracket stands where the bracket stands, or its line.**  If the first token of a line
closes the innermost context, the line is suggested the column of the opening bracket, or the indentation of
its line if the lines in it are aligned to that.  Only in the body of a case the closing line is taken for one
more line of the body. -/
theorem suggestion?_of_closesAtOnce (m : Mode) (base : Int) (ls : List (List Char)) (line : List Char)
    (hk : (m.feed (m.startState base) ls).continuation = .code)
    (h : m.ClosesAtOnce (m.feed (m.startState base) ls) line) :
    let x := (m.feed (m.startState base) ls).head
    m.suggestion? (m.feed (m.startState base) ls) line = some (
      if x.kind = .caseBody then
        if x.align = .column then clamp (x.column + 1) else clamp (x.indented + m.unit)
      else if x.align = .column then x.column else x.indented) := by
  have hsound := m.sound_feed base ls
  generalize m.feed (m.startState base) ls = s at hk h hsound
  intro x
  obtain ⟨b, ht, hne, hkind⟩ := h.exists_closer hk
  -- a suggestion looks at the kind from before the line, which may still be the body of a case
  rcases hkind with hc | hb
  · rw [suggestion?_of_caseBody m hk hc ht, if_pos hc]
    unfold Context.lineColumn
    cases x.align <;> simp [x]
  · have hmem : s.head ∈ s.nesting.inner := by
      obtain ⟨n, hn⟩ := Nesting.exists_eq_push hne
      rw [State.head, hn]
      exact List.mem_cons_self
    rw [m.suggestion?_of_group hk hb (hsound.nesting.indented _ hmem) (hsound.nesting.column _ hmem)]
    simp [x, hb, ht]

/-- The line that closes a call whose arguments are aligned to its parenthesis. -/
theorem suggestion?_of_closing_paren :
    let s := default.feed (default.startState 0) ["\tf(a, // (".toList, "  b".toList]
    (s.continuation = .code ∧ default.ClosesAtOnce s "\t) \x7b".toList) ∧
      s.head = ⟨4, 5, .group .paren, .column⟩ ∧ default.suggestion? s "\t) \x7b".toList = some 5 := by
  intro s
  have hk : s.continuation = .code := by decide +kernel
  have h : default.ClosesAtOnce s "\t) \x7b".toList := by decide +kernel
  have hx : s.head = ⟨4, 5, .group .paren, .column⟩ := by decide +kernel
  have hs := suggestion?_of_closesAtOnce default 0 _ _ hk h
  refine ⟨⟨hk, h⟩, hx, hs.trans ?_⟩
  rw [hx]
  rfl

/-- Behind the label of a case the closing brace of the switch is not suggested the indentation of the switch. -/
theorem not_suggestion?_eq_opening :
    ¬∀ (m : Mode) (base : Int) (ls : List (List Char)) (line : List Char),
      (m.feed (m.startState base) ls).continuation = .code →
      m.ClosesAtOnce (m.feed (m.startState base) ls) line →
      m.suggestion? (m.feed (m.startState base) ls) line = some (
        let x := (m.feed (m.startState base) ls).head
        if x.align = .column then x.column else x.indented) := by
  intro h
  have hs := h default 0 ["switch x \x7b".toList, "case 1:".toList] "\x7d".toList (by decide +kernel)
    (by decide +kernel)
  -- the suggestion is a unit, and the switch is not indented
  exact absurd hs (by decide +kernel)

end Mode

end GoLayout
