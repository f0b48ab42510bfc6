import GoLayout.Proofs.Layout.Levels
import GoLayout.Proofs.Lexis.Closers
import GoLayout.Proofs.Mode.Run

/-!
# Lines inside of strings and comments

A string or a comment stays open line after line until a line has a closer.  Up to there a line is one span
behind its leading blanks, the stack of contexts keeps its depth and nothing is suggested.  The line with the
closer is inside up to the first one, and behind it it is read as a line of code of its own.
-/

namespace GoLayout

open GoLayout.Text GoLayout.Lexis GoLayout.Layout

/-! ## Spans at other places -/

/-- The span of a piece of a line that starts at an offset.  An empty piece has none. -/
def pieceSpan (offset : Nat) (text : List Char) (style : Option Style) : List Span :=
  if text = [] then [] else [⟨offset, offset + utf8Length text, text, style⟩]

/-- A span in a line with `n` more bytes before it. -/
def Span.shift (n : Nat) (x : Span) : Span := { x with start := x.start + n, stop := x.stop + n }

lemma spansFrom_append (offset : Nat) (rs ts : List Scan) :
    spansFrom offset (rs ++ ts)
      = spansFrom offset rs ++ spansFrom (offset + utf8Length (rs.flatMap Scan.text)) ts := by
  induction rs generalizing offset with
  | nil => rfl
  | cons r rs ih => rw [List.cons_append, spansFrom, ih, List.flatMap_cons, utf8Length_append, ← Nat.add_assoc,
      spansFrom, List.cons_append]

lemma spansFrom_add (offset n : Nat) (rs : List Scan) :
    spansFrom (offset + n) rs = (spansFrom offset rs).map (Span.shift n) := by
  induction rs generalizing offset with
  | nil => rfl
  | cons r rs ih =>
    rw [spansFrom, Nat.add_right_comm offset n, ih]
    rfl

lemma spansFrom_indentSpan (k : Continuation) (line : List Char) :
    spansFrom 0 (indentSpan k line) = pieceSpan 0 (leadingBlanks line) none := by
  unfold indentSpan pieceSpan
  split <;> rfl

lemma spansFrom_indentSpan_append (k : Continuation) (line : List Char) (rs : List Scan) :
    spansFrom 0 (indentSpan k line ++ rs)
      = pieceSpan 0 (leadingBlanks line) none ++ spansFrom (utf8Length (leadingBlanks line)) rs := by
  rw [spansFrom_append, spansFrom_indentSpan, flatMap_text_indentSpan, Nat.zero_add]

namespace State

/-- Plain spans leave the depth of the stack as it is. -/
lemma depth_absorbAll_of_isPlain {rs : List Scan} (h : ∀ r ∈ rs, r.isPlain = true) (tabSize column : Nat)
    (s : State) : (absorbAll tabSize column rs s).nesting.depth = s.nesting.depth := by
  induction rs generalizing column s with
  | nil => rfl
  | cons r rs ih =>
    obtain ⟨hr, hrs⟩ := List.forall_mem_cons.1 h
    rw [absorbAll_cons, ih hrs]
    rcases (keeps_absorb_of_isPlain hr (ofWidth column) s).nesting with hn | hn <;> simp [hn]

end State

namespace Mode

variable (m : Mode) {k : Continuation} {s : State} {line : List Char}

/-- Behind each step of a line is open what its span leaves open. -/
lemma map_continuation_steps (line : List Char) (s : State) :
    (m.steps line s).map (·.state.continuation)
      = (readLine s.continuation line).map Scan.continuation := by
  have hr : (m.steps line s).map Step.scan = readLine s.continuation line := map_scan_run _ _
  have ht : ∀ (c : Cursor) (s : State), ∀ t ∈ run c s, t.state.continuation = t.scan.continuation := by
    intro c s
    fun_induction run c s with
    | case1 c s h => simp
    | case2 c s h t ih =>
      refine List.forall_mem_cons.2 ⟨?_, ih⟩
      rw [continuation_token, scan_token]
  rw [← hr, List.map_map]
  exact List.map_congr_left (ht _ _)

/-! ## Lines without a closer -/

lemma highlightLine_of_not_hasCloser (hs : s.continuation = k) (hk : k ≠ .code) (h : ¬HasCloser k line) :
    (m.highlightLine line s).2.continuation = k ∧
      (m.highlightLine line s).2.nesting.depth = s.nesting.depth := by
  have hread := readLine_of_not_hasCloser hk h
  constructor
  · rw [continuation_highlightLine, hs, hread, continuationAfter_append, continuationAfter_indentSpan]
    split <;> rfl
  · by_cases hl : line = []
    · rw [hl, highlightLine_nil]
    · -- neither the leading blanks nor the inside tell the layout anything
      have hplain : ∀ r ∈ readLine k line, r.isPlain = true := by
        intro r hr
        rw [hread, List.mem_append] at hr
        have hsig : r.signal = none := by
          rcases hr with hr | hr
          · unfold indentSpan at hr
            split at hr
            · cases hr
            · rw [List.mem_singleton.1 hr]
          · split at hr
            · cases hr
            · rw [List.mem_singleton.1 hr]
        simp [Scan.isPlain, hsig]
      rw [snd_highlightLine m hl, hs, State.depth_absorbAll_of_isPlain hplain]
      exact Nesting.depth_mapHead _ _

/-- Lines without a closer leave open what was open, and the stack as deep as it was. -/
lemma feed_of_not_hasCloser {ls : List (List Char)} (hs : s.continuation = k) (hk : k ≠ .code)
    (h : ∀ line ∈ ls, ¬HasCloser k line) :
    (m.feed s ls).continuation = k ∧ (m.feed s ls).nesting.depth = s.nesting.depth := by
  induction ls generalizing s with
  | nil => exact ⟨hs, rfl⟩
  | cons line ls ih =>
    obtain ⟨hline, hls⟩ := List.forall_mem_cons.1 h
    obtain ⟨hcont, hdepth⟩ := m.highlightLine_of_not_hasCloser hs hk hline
    obtain ⟨hcont', hdepth'⟩ := ih hcont hls
    rw [feed_cons]
    exact ⟨hcont', hdepth'.trans hdepth⟩

lemma spans_of_not_hasCloser (hs : s.continuation = k) (hk : k ≠ .code) (h : ¬HasCloser k line) :
    (m.highlightLine line s).1
      = pieceSpan 0 (leadingBlanks line) none ++
        pieceSpan (utf8Length (leadingBlanks line)) (trimStart line) k.style? := by
  rw [fst_highlightLine, hs, readLine_of_not_hasCloser hk h, spansFrom_indentSpan_append]
  congr 1
  unfold pieceSpan
  split <;> rfl

/-! ## Lines with a closer -/

/-- What a line with a closer is read as: the inside up to the end of the first closer, and the rest as a line of
code of its own. -/
structure ReadsOut (k : Continuation) (s : State) (inside rest : List Char) : Prop where
  /-- The inside ends in the first closer. -/
  first : EndsInFirstCloser k inside
  /-- The spans are the leading blanks, the inside, and the spans of the rest further to the right. -/
  spans : ∀ s₀ : State, s₀.continuation = .code →
    (m.highlightLine (inside ++ rest) s).1
      = pieceSpan 0 (leadingBlanks inside) none ++
        ⟨utf8Length (leadingBlanks inside), utf8Length inside, trimStart inside, k.style?⟩ ::
          (m.highlightLine rest s₀).1.map (Span.shift (utf8Length inside))
  /-- What is open behind each of the spans. -/
  continuations : ∀ s₀ : State, s₀.continuation = .code →
    (m.steps (inside ++ rest) s).map (·.state.continuation)
      = (pieceSpan 0 (leadingBlanks inside) none).map (fun _ => k) ++
        .code :: (m.steps rest s₀).map (·.state.continuation)

lemma exists_readsOut (hs : s.continuation = k) (hk : k ≠ .code) (h : HasCloser k line) :
    ∃ inside rest, line = inside ++ rest ∧ m.ReadsOut k s inside rest := by
  obtain ⟨inside, rest, rfl, hfirst, hblanks, hread⟩ := readLine_of_hasCloser hk h
  refine ⟨inside, rest, rfl, hfirst, fun s₀ h₀ => ?_, fun s₀ h₀ => ?_⟩
  · have hlen : utf8Length (leadingBlanks inside) + utf8Length (trimStart inside) = utf8Length inside := by
      rw [← utf8Length_append, leadingBlanks_append_trimStart]
    rw [fst_highlightLine, hs, hread, spansFrom_indentSpan_append, ← hblanks, spansFrom, hlen,
      fst_highlightLine, h₀, ← spansFrom_add, Nat.zero_add]
  · have hindent : (indentSpan k (inside ++ rest)).map Scan.continuation
        = (pieceSpan 0 (leadingBlanks inside) none).map fun _ => k := by
      rw [hblanks]
      unfold indentSpan pieceSpan
      split <;> rfl
    rw [map_continuation_steps, hs, hread, List.map_append, hindent, List.map_cons, map_continuation_steps, h₀]

/-- **A string or a comment goes on until its first closer.**

After any lines without a closer the same is still open, the stack is as deep as before, and no column is
suggested.  The next line is leading blanks and at most one span of the inside if it has no closer either.
Otherwise it is inside up to the first closer, and code is read from there on.  Where a string or a comment is
opened in code, the token that opens it reaches just as far. -/
theorem highlight_inside (m : Mode) {s : State} {k : Continuation} (hs : s.continuation = k)
    (hk : k ≠ .code) {ls : List (List Char)} (hls : ∀ line ∈ ls, ¬HasCloser k line) :
    let s' := m.feed s ls
    (s'.continuation = k ∧ s'.nesting.depth = s.nesting.depth ∧ ∀ text, m.suggestion? s' text = none) ∧
    (∀ line, ¬HasCloser k line → (m.highlightLine line s').1
      = pieceSpan 0 (leadingBlanks line) none ++
        pieceSpan (utf8Length (leadingBlanks line)) (trimStart line) k.style?) ∧
    (∀ line, HasCloser k line →
      ∃ inside rest, line = inside ++ rest ∧ m.ReadsOut k s' inside rest) ∧
    ∀ (c : Cursor) (s₀ : State) (text : List Char), s₀.continuation = .code → c.rest = k.opener ++ text →
      ∃ inside, Extent k text inside (token c s₀).cursor.rest (token c s₀).state.continuation ∧
        (token c s₀).cursor.token = k.opener ++ inside ∧ (token c s₀).scan.style = k.style? := by
  intro s'
  obtain ⟨hcont, hdepth⟩ := m.feed_of_not_hasCloser hs hk hls
  refine ⟨⟨hcont, hdepth, fun text => if_pos (hcont.trans_ne hk)⟩, fun line hl => ?_, fun line hl => ?_,
    fun c s₀ text h₀ hc => ?_⟩
  · exact m.spans_of_not_hasCloser hcont hk hl
  · exact m.exists_readsOut hcont hk hl
  · -- what opens the string or the comment is not searched for a closer
    have hread : read s₀.continuation c.rest
        = ⟨k.opener ++ (scan k text).text, (scan k text).rest, k.style?, none,
            (scan k text).continuation⟩ := by
      rw [h₀, hc, read_opener hk]
    refine ⟨(scan k text).text, ?_, ?_, ?_⟩
    · rw [rest_token, continuation_token, hread]
      exact extent_scan_self hk text
    · rw [cursor_token, hread]
    · rw [scan_token, hread]

/-- A string over several lines, in which quotes are escaped by one and by three backslashes.  The backslash
before the end of its first line escapes nothing. -/
theorem highlight_inside_of_escaped_quotes :
    let s := default.feed (default.startState 0) ["x := f(\"a\\".toList]
    let ls := ["  \\\" \x7b".toList, [], "   ".toList, "\\\\\\\" /*".toList]
    let s' := default.feed s ls
    (s.continuation = .string .double ∧ Continuation.string .double ≠ .code ∧
        ∀ line ∈ ls, ¬HasCloser (.string .double) line) ∧
      s'.nesting.depth = 2 ∧ default.suggestion? s' ")".toList = none ∧
      (default.highlightLine " \\\" `".toList s').1
        = [⟨0, 1, " ".toList, none⟩, ⟨1, 5, "\\\" `".toList, some .string⟩] ∧
      ∃ inside rest, "\t\\\\\" + y) // \"".toList = inside ++ rest ∧
        default.ReadsOut (.string .double) s' inside rest := by
  intro s ls s'
  have hs : s.continuation = .string .double := by decide +kernel
  have hk : Continuation.string .double ≠ .code := by decide
  have hls : ∀ line ∈ ls, ¬HasCloser (.string .double) line := by decide +kernel
  obtain ⟨⟨-, hdepth, hpass⟩, hopen, hclosed, -⟩ := highlight_inside default hs hk hls
  have hd : s.nesting.depth = 2 := by decide +kernel
  refine ⟨⟨hs, hk, hls⟩, hdepth.trans hd, hpass _, ?_, hclosed _ (by decide +kernel)⟩
  rw [hopen _ (by decide +kernel)]
  decide +kernel

end Mode

end GoLayout
