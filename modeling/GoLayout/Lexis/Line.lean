import GoLayout.Lexis.Scan

/-!
# The spans of a line

A line is read span by span, each one going on with what the one before has left open.  The texts of
the spans are the line.
-/

namespace GoLayout.Lexis

open GoLayout.Text

/-- The spans of a line where blanks belong to the spans of code; an empty line is one empty span. -/
def scanLine (k : Continuation) (s : List Char) : List Scan :=
  let r := scan k s
  if r.rest = [] then [r] else r :: scanLine r.continuation r.rest
termination_by s.length
decreasing_by
  apply length_rest_scan_lt
  rintro rfl
  exact absurd (rest_scan_nil k) ‹_›

/-- The spans of a line where a run of blanks is a span of its own; an empty line has none. -/
def readLine (k : Continuation) (s : List Char) : List Scan :=
  if s = [] then []
  else
    let r := read k s
    r :: readLine r.continuation r.rest
termination_by s.length
decreasing_by exact length_rest_read_lt k ‹_›

/-- What follows a list of spans goes on with, if they start with `k`. -/
def continuationAfter (rs : List Scan) (k : Continuation) : Continuation :=
  rs.foldl (fun _ r => r.continuation) k

@[simp] theorem readLine_nil (k : Continuation) : readLine k [] = [] := by
  rw [readLine, if_pos rfl]

theorem readLine_of_ne_nil (k : Continuation) {s : List Char} (h : s ≠ []) :
    readLine k s = read k s :: readLine (read k s).continuation (read k s).rest := by
  rw [readLine, if_neg h]

/-- The texts of the spans are the line. -/
theorem flatMap_text_readLine (k : Continuation) (s : List Char) :
    (readLine k s).flatMap Scan.text = s := by
  fun_induction readLine k s with
  | case1 => rfl
  | case2 k s h r ih =>
    rw [List.flatMap_cons, ih]
    exact whole_read k s

/-- Every span of a line has a text. -/
theorem text_ne_nil_of_mem_readLine {k : Continuation} {s : List Char} {r : Scan}
    (h : r ∈ readLine k s) : r.text ≠ [] := by
  fun_induction readLine k s with
  | case1 => simp at h
  | case2 k s hs r' ih =>
    rcases List.mem_cons.1 h with rfl | h
    · exact text_read_ne_nil k hs
    · exact ih h

end GoLayout.Lexis
