import GoLayout.Proofs.Mode.Run
import Mathlib.Data.String.Basic
import Mathlib.Logic.Function.Iterate

/-!
# Tilings of a line

The driver calls for one token after the other until the line is read.  Every call reads at least one
character, so there are no more calls than characters; and every call reads on from where the one before
has stopped, so the spans tile the line.  Both hold in any state, with whatever string or comment is open.

The bytes of a line are those of its UTF-8 form.  The borders of the spans are borders of characters there,
and the text of a span is what the form holds between its borders.
-/

namespace GoLayout

open GoLayout.Text GoLayout.Lexis

/-! ## Bytes of a text -/

lemma utf8Length_eq_utf8Len (s : List Char) : utf8Length s = String.utf8Len s := by
  induction s with
  | nil => rfl
  | cons c s ih => rw [utf8Length_cons, ih, String.utf8Len_cons, Nat.add_comm]

lemma isValid_utf8Length (s t : List Char) :
    String.Pos.Raw.IsValid (String.ofList (s ++ t)) ⟨utf8Length s⟩ := by
  rw [String.Pos.Raw.isValid_ofList]
  refine ⟨s.length, ?_⟩
  rw [List.take_left, String.utf8ByteSize_ofList, utf8Length_eq_utf8Len]

lemma extract_utf8Length (s t u : List Char) :
    String.Pos.Raw.extract (String.ofList (s ++ t ++ u)) ⟨utf8Length s⟩ ⟨utf8Length s + utf8Length t⟩
      = String.ofList t := by
  rw [utf8Length_eq_utf8Len, utf8Length_eq_utf8Len]
  exact String.extract_of_valid s t u

/-! ## Tilings -/

/-- The spans cut the line into pieces that lie side by side. -/
structure Tiles (line : List Char) (xs : List Span) : Prop where
  /-- No span is empty. -/
  start_lt_stop : ∀ x ∈ xs, x.start < x.stop
  /-- The first span starts the line, each other one starts where the one before stops, and the last one
  stops at the end of the line. -/
  contiguous : xs.map Span.start ++ [(String.ofList line).utf8ByteSize] = 0 :: xs.map Span.stop
  /-- No span starts or stops inside a character. -/
  isValid : ∀ x ∈ xs, String.Pos.Raw.IsValid (String.ofList line) ⟨x.start⟩ ∧
    String.Pos.Raw.IsValid (String.ofList line) ⟨x.stop⟩
  /-- The text of a span is the slice of the line between its borders. -/
  extract_eq : ∀ x ∈ xs,
    String.Pos.Raw.extract (String.ofList line) ⟨x.start⟩ ⟨x.stop⟩ = String.ofList x.text
  /-- The texts of the spans are the line. -/
  flatMap_text : xs.flatMap Span.text = line

/-- Each span of some scans has a part of the text before it and a part behind it. -/
lemma split_of_mem_spansFrom {offset : Nat} {rs : List Scan} {x : Span}
    (h : x ∈ spansFrom offset rs) :
    ∃ pre post, rs.flatMap Scan.text = pre ++ x.text ++ post ∧
      x.start = offset + utf8Length pre ∧ x.stop = x.start + utf8Length x.text := by
  induction rs generalizing offset with
  | nil => simp [spansFrom] at h
  | cons r rs ih =>
    rcases List.mem_cons.1 h with rfl | h
    · exact ⟨[], rs.flatMap Scan.text, by simp, rfl, rfl⟩
    · obtain ⟨pre, post, hs, hstart, hstop⟩ := ih h
      refine ⟨r.text ++ pre, post, ?_, ?_, hstop⟩
      · rw [List.flatMap_cons, hs]
        simp only [List.append_assoc]
      · rw [hstart, utf8Length_append, Nat.add_assoc]

lemma contiguous_spansFrom (offset : Nat) (rs : List Scan) :
    (spansFrom offset rs).map Span.start ++ [offset + utf8Length (rs.flatMap Scan.text)]
      = offset :: (spansFrom offset rs).map Span.stop := by
  induction rs generalizing offset with
  | nil => rfl
  | cons r rs ih =>
    have h := ih (offset + utf8Length r.text)
    rw [Nat.add_assoc, ← utf8Length_append, ← List.flatMap_cons] at h
    rw [spansFrom, List.map_cons, List.cons_append, h, List.map_cons]

/-- Scans of which none is empty tile the text from which they were taken. -/
lemma tiles_spansFrom {rs : List Scan} (h : ∀ r ∈ rs, r.text ≠ []) :
    Tiles (rs.flatMap Scan.text) (spansFrom 0 rs) := by
  have htext : ∀ x ∈ spansFrom 0 rs, x.text ≠ [] := by
    intro x hx
    have hx' := List.mem_map_of_mem (f := Span.text) hx
    rw [map_text_spansFrom] at hx'
    obtain ⟨r, hr, e⟩ := List.mem_map.1 hx'
    exact e ▸ h r hr
  refine ⟨fun x hx => ?_, ?_, fun x hx => ?_, fun x hx => ?_, ?_⟩
  · obtain ⟨-, -, -, -, hstop⟩ := split_of_mem_spansFrom hx
    have := utf8Length_eq_zero_iff.not.2 (htext x hx)
    omega
  · have hc := contiguous_spansFrom 0 rs
    rw [Nat.zero_add] at hc
    rw [String.utf8ByteSize_ofList, ← utf8Length_eq_utf8Len]
    exact hc
  · obtain ⟨pre, post, hs, hstart, hstop⟩ := split_of_mem_spansFrom hx
    rw [Nat.zero_add] at hstart
    rw [hstop, hstart, hs, ← utf8Length_append]
    refine ⟨?_, isValid_utf8Length _ _⟩
    rw [List.append_assoc]
    exact isValid_utf8Length _ _
  · obtain ⟨pre, post, hs, hstart, hstop⟩ := split_of_mem_spansFrom hx
    rw [Nat.zero_add] at hstart
    rw [hstop, hstart, hs]
    exact extract_utf8Length pre x.text post
  · rw [List.flatMap_def, map_text_spansFrom, ← List.flatMap_def]

/-! ## The calls of the driver -/

namespace Mode

/-- One call of the driver: read a token, and go on behind it in the state after it. -/
def call (p : Cursor × State) : Cursor × State :=
  let t := token p.1 p.2
  (t.cursor, t.state)

/-- The driver that starts at a place stops after `n` calls: the line is read then, and it was not read
before. -/
structure StopsAfter (n : Nat) (p : Cursor × State) : Prop where
  atEnd : (call^[n] p).1.AtEnd
  not_atEnd : ∀ i < n, ¬(call^[i] p).1.AtEnd

lemma stopsAfter_zero {p : Cursor × State} (h : p.1.AtEnd) : StopsAfter 0 p :=
  ⟨h, fun i hi => absurd hi i.not_lt_zero⟩

/-- Before the end of a line, one call is made and the driver goes on behind it. -/
lemma StopsAfter.succ {n : Nat} {p : Cursor × State} (h : ¬p.1.AtEnd) (hn : StopsAfter n (call p)) :
    StopsAfter (n + 1) p := by
  refine ⟨hn.atEnd, fun i hi => ?_⟩
  cases i with
  | zero => exact h
  | succ i => exact hn.not_atEnd i (Nat.lt_of_succ_lt_succ hi)

lemma stopsAfter_length_run (c : Cursor) (s : State) : StopsAfter (run c s).length (c, s) := by
  fun_induction run c s with
  | case1 c s h => exact stopsAfter_zero h
  | case2 c s h t ih => exact .succ h ih

lemma run_eq_map_range (c : Cursor) (s : State) :
    run c s = (List.range (run c s).length).map fun i =>
      token (call^[i] (c, s)).1 (call^[i] (c, s)).2 := by
  fun_induction run c s with
  | case1 c s h => rfl
  | case2 c s h t ih =>
    rw [List.length_cons, List.range_succ_eq_map, List.map_cons, List.map_map]
    exact congrArg (t :: ·) ih

/-- The state after a run is the one that the last call leaves. -/
lemma stateAfter_run_eq_iterate (c : Cursor) (s : State) :
    stateAfter (run c s) s = (call^[(run c s).length] (c, s)).2 := by
  fun_induction run c s with
  | case1 c s h => rfl
  | case2 c s h t ih => exact ih

lemma length_run_le (c : Cursor) (s : State) : (run c s).length ≤ c.rest.length := by
  fun_induction run c s with
  | case1 c s h => exact Nat.zero_le _
  | case2 c s h t ih => exact Nat.lt_of_le_of_lt ih (length_rest_token_lt s h)

/-- **The spans of a line tile it, and the driver stops**: it calls for one token for each span, and so for
at most as many as the line has characters; the spans are those of the tokens in the order of the calls,
and the state after the line is the one that the last call leaves. -/
theorem highlightLine_tiles (m : Mode) (line : List Char) (s : State) :
    Tiles line (m.highlightLine line s).1 ∧
      ∃ n ≤ line.length, StopsAfter n (m.cursor line, s) ∧
        m.highlightLine line s =
          ((List.range n).map fun i =>
              (token (call^[i] (m.cursor line, s)).1 (call^[i] (m.cursor line, s)).2).span,
            (call^[n] (m.cursor line, s)).2) := by
  constructor
  · have ht := tiles_spansFrom fun r hr => text_ne_nil_of_mem_readLine (k := s.continuation) (s := line) hr
    rwa [flatMap_text_readLine, ← fst_highlightLine] at ht
  · refine ⟨(m.steps line s).length, length_run_le _ _, stopsAfter_length_run _ _, ?_⟩
    refine Prod.ext ?_ (stateAfter_run_eq_iterate _ _)
    calc (m.steps line s).map Step.span
        = ((List.range (m.steps line s).length).map fun i =>
            token (call^[i] (m.cursor line, s)).1 (call^[i] (m.cursor line, s)).2).map Step.span :=
          congrArg _ (run_eq_map_range (m.cursor line) s)
      _ = _ := List.map_map

end Mode

end GoLayout
