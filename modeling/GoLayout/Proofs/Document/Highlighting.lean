import GoLayout.Proofs.Document.Content

/-!
# What highlighting depends on

The spans of a line are those of the scanner, and the scanner is given the line and what the line goes on with.
Contexts, columns and settings are kept beside it and are not read.  So two runs over the same lines that go on
with the same at first have the same spans line by line, whatever their modes and their states are, and they go
on with the same at every line.
-/

namespace GoLayout

open GoLayout.Text GoLayout.Lexis

/-- The spans of a line that stands one line further down. -/
def LineSpans.below (l : LineSpans) : LineSpans := { l with number := l.number + 1 }

namespace Mode

variable (m m' : Mode) {s s' : State}

/-! ## Lines one after the other -/

lemma highlightFrom_cons (number : Nat) (s : State) (line : List Char) (ls : List (List Char)) :
    m.highlightFrom number s (line :: ls)
      = ⟨number, (m.highlightLine line s).1⟩ ::
          m.highlightFrom (number + 1) (m.highlightLine line s).2 ls := rfl

lemma highlightFrom_append (number : Nat) (s : State) (ls ls' : List (List Char)) :
    m.highlightFrom number s (ls ++ ls')
      = m.highlightFrom number s ls ++ m.highlightFrom (number + ls.length) (m.feed s ls) ls' := by
  induction ls generalizing number s with
  | nil => rfl
  | cons line ls ih =>
    rw [List.cons_append, highlightFrom_cons, ih, highlightFrom_cons, List.cons_append, feed_cons,
      List.length_cons, Nat.add_right_comm, Nat.add_assoc]

lemma highlightFrom_succ (number : Nat) (s : State) (ls : List (List Char)) :
    m.highlightFrom (number + 1) s ls = (m.highlightFrom number s ls).map LineSpans.below := by
  induction ls generalizing number s with
  | nil => rfl
  | cons line ls ih =>
    rw [highlightFrom_cons, ih, highlightFrom_cons, List.map_cons]
    rfl

/-! ## Two runs over the same lines -/

lemma continuation_startState (base : Int) : (m.startState base).continuation = .code := rfl

/-- A line has the same spans in two runs in which the same is open before it, and the same is open after it. -/
lemma highlightLine_congr (h : s.continuation = s'.continuation) (line : List Char) :
    (m.highlightLine line s).1 = (m'.highlightLine line s').1 ∧
      (m.highlightLine line s).2.continuation = (m'.highlightLine line s').2.continuation := by
  constructor
  · rw [fst_highlightLine, fst_highlightLine, h]
  · rw [continuation_highlightLine, continuation_highlightLine, h]

lemma highlightFrom_congr (h : s.continuation = s'.continuation) (number : Nat) (ls : List (List Char)) :
    m.highlightFrom number s ls = m'.highlightFrom number s' ls := by
  induction ls generalizing number s s' with
  | nil => rfl
  | cons line ls ih =>
    obtain ⟨hspans, hnext⟩ := m.highlightLine_congr m' h line
    rw [highlightFrom_cons, highlightFrom_cons, hspans, ih hnext]

/-- **Highlighting looks at the text and at what is open, and at nothing else.**

Let two modes read the same lines in two states in which the same is open.  Then each line has the same spans in
both runs, and the same is open before each line and after the last one.  So a document is highlighted the same in
all modes. -/
theorem highlight_independent (h : s.continuation = s'.continuation) (number : Nat) (ls : List (List Char)) :
    m.highlightFrom number s ls = m'.highlightFrom number s' ls ∧
      (m.states s ls).map State.continuation = (m'.states s' ls).map State.continuation ∧
      ∀ document, m.highlight document = m'.highlight document := by
  refine ⟨m.highlightFrom_congr m' h number ls, ?_, fun document => ?_⟩
  · rw [map_continuation_states, map_continuation_states, h]
  · have hstart : (m.startState 0).continuation = (m'.startState 0).continuation := by
      rw [continuation_startState, continuation_startState]
    rw [highlight_eq, highlight_eq, m.highlightFrom_congr m' hstart]

/-- A raw string that is open at the top of one document, and in a call within a case of another one that is
indented with tabs. -/
theorem highlight_independent_of_raw_strings :
    let m' : Mode := ⟨{ indentUnit := 8, tabSize := 3, indentWithTabs := true }, ⟨by decide, by decide⟩⟩
    let s := default.feed (default.startState 0) ["x := `a".toList]
    let s' := m'.feed (m'.startState 5) ["\tswitch y \x7b".toList, "case 1: f(`".toList]
    let ls := ["b` + g(\x7b /* c".toList, "\t*/ \"".toList, [], " \\\" \" `".toList]
    (s.continuation = s'.continuation ∧ s.nesting.depth = 1 ∧ s'.nesting.depth = 3) ∧
      default.highlightFrom 1 s ls = m'.highlightFrom 1 s' ls ∧
      (m'.states s' ls).map State.continuation
        = [.string .backtick, .comment, .string .double, .string .double, .string .backtick] := by
  intro m' s s' ls
  have hs : s.continuation = s'.continuation := by decide +kernel
  obtain ⟨hspans, hstates, -⟩ := highlight_independent default m' hs 1 ls
  refine ⟨⟨hs, by decide +kernel, by decide +kernel⟩, hspans, ?_⟩
  rw [← hstates]
  decide +kernel

end Mode

end GoLayout
