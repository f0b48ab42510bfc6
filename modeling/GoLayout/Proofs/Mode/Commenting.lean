import GoLayout.Proofs.Lexis.Closers
import GoLayout.Proofs.Mode.Run
import GoLayout.Registry.Spec
import GoLayout.Trace

/-!
# Lines that are commented out

An editor comments a line out by writing the delimiters of a block comment around it, each with a space between.  The
space keeps a slash at the front of the line away from the star of `/*`, and a star at its end away from the slash of
`*/`; so the comment ends too early if the line itself has a `*/` in it, and never otherwise.
-/

namespace GoLayout

open GoLayout.Text GoLayout.Lexis GoLayout.Layout

namespace Lexis

variable {k : Continuation} {text : List Char}

lemma hasCloser_comment_iff : HasCloser .comment text ↔ ['*', '/'] <:+: text := by
  rw [List.infix_iff_suffix_prefix]
  exact exists_congr fun p => and_comm

lemma EndsInFirstCloser.not_hasCloser {c : Char} (h : EndsInFirstCloser k (text ++ [c])) : ¬HasCloser k text := by
  rintro ⟨p, hp, hc⟩
  have hlen := congrArg List.length (h.first p (hp.trans (List.prefix_append _ _)) hc)
  have hle := hp.length_le
  rw [List.length_append, List.length_singleton] at hlen
  omega

/-- What follows the `/*` of a line that is commented out. -/
def commentBody (line : List Char) : List Char := ' ' :: line ++ [' ', '*'] ++ ['/']

lemma endsInCloser_commentBody (line : List Char) : EndsInCloser .comment (commentBody line) :=
  ⟨' ' :: line ++ [' '], by simp [commentBody]⟩

/-- The comment around a line is closed by its end alone if there is no `*/` in the line. -/
lemma endsInFirstCloser_commentBody_iff {line : List Char} :
    EndsInFirstCloser .comment (commentBody line) ↔ ¬['*', '/'] <:+: line := by
  have hbody : HasCloser .comment (' ' :: line ++ [' ', '*']) ↔ ['*', '/'] <:+: line := by
    have hsplit : ' ' :: line ++ [' ', '*'] = ' ' :: line ++ [' '] ++ ['*'] := by simp
    rw [hsplit, hasCloser_concat, hasCloser_concat, endsInCloser_comment_concat, endsInCloser_comment_concat,
      hasCloser_comment_iff, List.infix_cons_iff]
    simp
  rw [← hbody]
  exact ⟨EndsInFirstCloser.not_hasCloser, fun h => endsInFirstCloser_concat h (endsInCloser_commentBody line)⟩

end Lexis

lemma Spec.toList_blockComment_go (line : String) :
    (Spec.go.blockComment line).toList = Continuation.comment.opener ++ commentBody line.toList := by
  simp [Spec.blockComment, Spec.go, Continuation.opener, commentBody]

namespace Mode

/-- A line is nothing but a comment: one span from its start to its end, behind which code goes on, and no context is
opened or closed. -/
structure IsComment (m : Mode) (line : List Char) (s : State) : Prop where
  spans_eq : (m.highlightLine line s).1 = [⟨0, utf8Length line, line, some .comment⟩]
  continuation_eq : (m.highlightLine line s).2.continuation = .code
  opened_notMem : ∀ x, .opened x ∉ m.lineEvents line s
  closed_notMem : ∀ x, .closed x ∉ m.lineEvents line s

variable (m : Mode) {s : State} {body : List Char}

/-- A line that starts with `/*` is read as a comment as far as that is scanned, and on from there. -/
lemma readLine_comment (body : List Char) :
    readLine .code (Continuation.comment.opener ++ body)
      = ⟨Continuation.comment.opener ++ (scan .comment body).text, (scan .comment body).rest, some .comment, none,
          (scan .comment body).continuation⟩
        :: readLine (scan .comment body).continuation (scan .comment body).rest := by
  have hne : Continuation.comment.opener ++ body ≠ [] := List.cons_ne_nil _ _
  rw [readLine_of_ne_nil _ hne, read_opener (by decide)]
  rfl

lemma readLine_of_endsInFirstCloser (h : EndsInFirstCloser .comment body) :
    readLine .code (Continuation.comment.opener ++ body)
      = [⟨Continuation.comment.opener ++ body, [], some .comment, none, .code⟩] := by
  have hclosed : Extent .comment (body ++ []) body [] .code := .closes h
  rw [List.append_nil] at hclosed
  obtain ⟨htext, hrest, hafter⟩ := (extent_scan_self (by decide) body).unique hclosed
  rw [readLine_comment, htext, hrest, hafter, readLine_nil]

/-- A comment that is read as one span ends with its line, if it is closed there at all. -/
lemma endsInFirstCloser_of_readLine {text : List Char} (hc : HasCloser .comment body)
    (h : (readLine .code (Continuation.comment.opener ++ body)).map Scan.text = [text])
    (ht : text = Continuation.comment.opener ++ body) : EndsInFirstCloser .comment body := by
  rw [readLine_comment, List.map_cons, List.cons.injEq] at h
  have hscan : (scan .comment body).text = body := List.append_cancel_left (h.1.trans ht)
  obtain ⟨-, hfirst, -⟩ := (extent_scan_self (k := .comment) (by decide) body).of_hasCloser hc
  rwa [hscan] at hfirst

lemma snd_highlightLine_of_endsInFirstCloser (hs : s.continuation = .code) (h : EndsInFirstCloser .comment body) :
    (m.highlightLine (Continuation.comment.opener ++ body) s).2 = s.startLine 0 := by
  have hwidth : indentation m.config.tabSize (Continuation.comment.opener ++ body) = 0 := rfl
  have hne : Continuation.comment.opener ++ body ≠ [] := List.cons_ne_nil _ _
  have hcont : (s.startLine 0).continuation = .code := hs
  rw [snd_highlightLine m hne, hs, readLine_of_endsInFirstCloser h, hwidth, State.absorbAll_cons, State.absorbAll_nil,
    ← hcont]
  rfl

lemma lineEvents_of_endsInFirstCloser (hs : s.continuation = .code) (h : EndsInFirstCloser .comment body) :
    m.lineEvents (Continuation.comment.opener ++ body) s = [] := by
  have hscans : (m.steps (Continuation.comment.opener ++ body) s).map Step.scan = _ := map_scan_run _ _
  have hstate : stateAfter (m.steps (Continuation.comment.opener ++ body) s) s = _ :=
    m.snd_highlightLine_of_endsInFirstCloser hs h
  rw [show (m.cursor _).rest = Continuation.comment.opener ++ body from rfl, hs,
    readLine_of_endsInFirstCloser h] at hscans
  obtain ⟨t, hsteps, -⟩ := List.map_eq_singleton_iff.1 hscans
  rw [hsteps] at hstate
  have ht : t.state = s.startLine 0 := hstate
  have hdepth : (s.startLine 0).nesting.depth = s.nesting.depth := Nesting.depth_mapHead _ _
  rw [lineEvents, hsteps]
  simp [Event.ofSteps, Event.ofToken, ht, hdepth]

/-- **A line can be commented out if and only if it has no `*/` in it.**  Then the comment is safe indeed: it starts its
line and leaves everything else alone. -/
theorem isComment_blockComment_iff (line : String) (hs : s.continuation = .code) :
    (m.IsComment (Spec.go.blockComment line).toList s ↔ ¬['*', '/'] <:+: line.toList) ∧
      (¬['*', '/'] <:+: line.toList →
        (m.highlightLine (Spec.go.blockComment line).toList s).2 = s.startLine 0) := by
  rw [Spec.toList_blockComment_go, ← endsInFirstCloser_commentBody_iff]
  refine ⟨⟨fun h => ?_, fun h => ?_⟩, m.snd_highlightLine_of_endsInFirstCloser hs⟩
  · have htexts := congrArg (List.map Span.text) h.spans_eq
    rw [fst_highlightLine, map_text_spansFrom, hs] at htexts
    have hclosed : HasCloser .comment (commentBody line.toList) := ⟨_, List.prefix_rfl, endsInCloser_commentBody _⟩
    exact endsInFirstCloser_of_readLine hclosed htexts rfl
  · have hstate := m.snd_highlightLine_of_endsInFirstCloser hs h
    have hevents := m.lineEvents_of_endsInFirstCloser hs h
    refine ⟨?_, ?_, by simp [hevents], by simp [hevents]⟩
    · rw [fst_highlightLine, hs, readLine_of_endsInFirstCloser h, spansFrom, spansFrom, Nat.zero_add]
    · rw [hstate]
      exact hs

/-- Behind a label, a line with stars and slashes at both ends, quotes and brackets is commented out; a line with a
comment of its own is not. -/
theorem isComment_blockComment_of_slashes :
    let s := default.feed (default.startState 0) ["switch x \x7b".toList, "case 1:".toList]
    s.continuation = .code ∧
      default.IsComment (Spec.go.blockComment "/ \"f([ // `/* *").toList s ∧
      (default.highlightLine (Spec.go.blockComment "/ \"f([ // `/* *").toList s).2 = s.startLine 0 ∧
      ¬default.IsComment (Spec.go.blockComment "x /* y */ + (").toList s := by
  intro s
  have hs : s.continuation = .code := by decide +kernel
  have hsafe : ¬['*', '/'] <:+: "/ \"f([ // `/* *".toList := by decide
  obtain ⟨hiff, hstate⟩ := isComment_blockComment_iff default "/ \"f([ // `/* *" hs
  obtain ⟨hiff', -⟩ := isComment_blockComment_iff default "x /* y */ + (" hs
  exact ⟨hs, hiff.2 hsafe, hstate hsafe, fun h => hiff'.1 h (by decide)⟩

end Mode

end GoLayout
