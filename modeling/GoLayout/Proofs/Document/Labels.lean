import GoLayout.Proofs.Document.Content
import GoLayout.Proofs.Mode.Labels

/-!
# Labels of a document

The labels of a switch are written one below the other as long as they are alike: either a label is pending in the
braces at the start of each of their lines, or at none.  A label behind a pending one stands where the line of the opening
brace stands, and any other one where the lines between the labels stand.

The two are not the same.  Hence a label directly behind another one does not stand below it, if that was the first label
of the switch or had lines of code before it (`not_leadingBlanks_label_eq`).
-/

namespace GoLayout

open GoLayout.Text GoLayout.Lexis GoLayout.Layout

namespace Mode

variable (m : Mode)

/-! ## The lines that are written -/

lemma getElem?_reindentLines (s : State) (ls : List Line) (n : Nat) :
    (m.reindentLines s ls)[n]?
      = ls[n]?.map fun l =>
          ⟨m.reindentLine (m.feed s (((m.reindentLines s ls).take n).map Line.text)) l.text, l.ending⟩ := by
  induction ls generalizing s n with
  | nil => rfl
  | cons l ls ih =>
    rw [reindentLines_cons]
    cases n with
    | zero => rfl
    | succ n =>
      rw [List.getElem?_cons_succ, List.getElem?_cons_succ, ih, List.take_succ_cons, List.map_cons, feed_cons]

/-- The texts of the lines that are written for a document. -/
def writtenTexts (document : String) : List (List Char) := (m.written document).map Line.text

/-- A written line is the line of the document with the blanks of its suggestion, if it is neither blank nor inside of
a string or a comment. -/
lemma leadingBlanks_of_written {document : String} {n : Nat} {line : List Char} {column : Int}
    (h : (m.writtenTexts document)[n]? = some line) (ht : trimStart line ≠ [])
    (hs : m.suggestion? (m.feed (m.startState 0) ((m.writtenTexts document).take n)) line = some column) :
    leadingBlanks line = m.config.blanks column := by
  have htake : (m.writtenTexts document).take n = ((m.written document).take n).map Line.text := List.map_take.symm
  rw [writtenTexts, List.getElem?_map, written, getElem?_reindentLines, Option.map_map,
    Option.map_eq_some_iff, ← written, ← htake] at h
  generalize m.feed (m.startState 0) ((m.writtenTexts document).take n) = s at h hs
  obtain ⟨l, -, rfl⟩ := h
  dsimp only [Function.comp_apply] at ht hs ⊢
  rw [trimStart_reindentLine] at ht
  have hsug : m.suggestion? s l.text = some column := by
    rw [← hs, ← suggestion?_trimStart, ← suggestion?_trimStart m s (m.reindentLine s l.text), trimStart_reindentLine]
  rw [reindentLine_of_some m hsug, if_neg ht]
  exact leadingBlanks_append (fun _ => Config.isBlank_of_mem_blanks) (startsSolid_trimStart _)

/-! ## Steps of lines -/

lemma linesSteps_append (s : State) (ls ls' : List (List Char)) :
    m.linesSteps s (ls ++ ls') = m.linesSteps s ls ++ m.linesSteps (m.feed s ls) ls' := by
  induction ls generalizing s with
  | nil => rfl
  | cons line ls ih =>
    rw [List.cons_append, linesSteps, ih, ← List.append_assoc]
    rfl

lemma exists_steps_eq_cons {line : List Char} (h : line ≠ []) (s : State) :
    ∃ c ts, m.steps line s = token c s :: ts ∧ (token c s).startsLine = true := by
  have he : ¬(m.cursor line).AtEnd := h
  refine ⟨m.cursor line, run (token (m.cursor line) s).cursor (token (m.cursor line) s).state,
    run_of_not_atEnd he s, ?_⟩
  rw [startsLine_token, decide_eq_true_iff]
  rfl

/-- Once a line has started, the rest of the line of a bracket is over. -/
lemma alignAfter_append_eq_column_iff {s : State} {ts us : List Step} {c : Cursor}
    (h : Calls s (ts ++ token c (stateAfter ts s) :: us))
    (hc : (token c (stateAfter ts s)).startsLine = true) :
    alignAfter (ts ++ token c (stateAfter ts s) :: us) = .column ↔ alignAfter ts = .column := by
  have hal : (token c (stateAfter ts s)).alignment = .indent := if_pos hc
  rw [alignAfter_append h, alignAfter_token_cons, hal]
  cases alignAfter ts <;> simp [Align.settle]

/-! ## Lines that start with a label -/

/-- A line of a written document that starts with a label, directly in the context of a bracket.  The bracket is the
step `o`, which is read behind the steps `before`; the steps `since` lie between it and the line. -/
structure LabelLine (document : String) (before : List Step) (o : Step) (b : Bracket) (n : Nat) (since : List Step)
    (line : List Char) : Prop where
  written : (m.writtenTexts document)[n]? = some line
  steps : m.linesSteps (m.startState 0) ((m.writtenTexts document).take n) = before ++ o :: since
  opening : o.scan.signal = some (.punct (.opening b))
  /-- The context of the bracket has stayed open. -/
  stays : ∀ t ∈ since, o.state.nesting.depth ≤ t.state.nesting.depth
  /-- The context of the bracket is the innermost one. -/
  innermost : (stateAfter since o.state).nesting.depth = o.state.nesting.depth
  code : (stateAfter since o.state).continuation = .code
  label : (tokens .code line).head?.map Scan.signal = some (some .caseLabel)

instance (document : String) (before : List Step) (o : Step) (b : Bracket) (n : Nat) (since : List Step)
    (line : List Char) : Decidable (m.LabelLine document before o b n since line) :=
  decidable_of_iff (_ ∧ _ ∧ _ ∧ _ ∧ _ ∧ _ ∧ _)
    ⟨fun ⟨h₁, h₂, h₃, h₄, h₅, h₆, h₇⟩ => ⟨h₁, h₂, h₃, h₄, h₅, h₆, h₇⟩,
      fun h => ⟨h.written, h.steps, h.opening, h.stays, h.innermost, h.code, h.label⟩⟩

namespace LabelLine

variable {m} {document : String} {before since since' : List Step} {o : Step} {b : Bracket} {n n' : Nat}
  {line line' : List Char}

lemma calls (h : m.LabelLine document before o b n since line) :
    Calls (stateAfter before (m.startState 0)) (o :: since) := by
  have hc := m.calls_linesSteps (m.startState 0) ((m.writtenTexts document).take n)
  rw [h.steps] at hc
  exact (calls_append_iff.1 hc).2

lemma feed_eq (h : m.LabelLine document before o b n since line) :
    m.feed (m.startState 0) ((m.writtenTexts document).take n) = stateAfter since o.state := by
  rw [← stateAfter_linesSteps, h.steps, stateAfter_append, stateAfter_cons]

lemma startsWithLabel (h : m.LabelLine document before o b n since line) :
    startsWithLabel (trimStart line) = true := by
  have hl := h.label
  rw [head?_tokens] at hl
  by_cases ht : trimStart line = []
  · rw [ht, readLine_nil] at hl
    cases hl
  · rw [readLine_of_ne_nil _ ht, List.head?_cons, Option.map_some, Option.some.injEq] at hl
    exact startsWithLabel_of_signal_read hl

lemma trimStart_ne_nil (h : m.LabelLine document before o b n since line) : trimStart line ≠ [] := by
  intro ht
  have hl := h.startsWithLabel
  rw [ht] at hl
  exact absurd hl (by decide)

/-- A label line is indented by what is pending in the context of its bracket. -/
lemma leadingBlanks_eq (h : m.LabelLine document before o b n since line) :
    leadingBlanks line
      = m.config.blanks (if labelPendingSince o since then o.state.indented else m.columnSince o since) := by
  refine m.leadingBlanks_of_written h.written h.trimStart_ne_nil ?_
  rw [h.feed_eq]
  exact m.suggestion?_of_label_since h.calls h.opening h.stays h.innermost h.code h.startsWithLabel

lemma columnSince_eq_of_lt (h : m.LabelLine document before o b n since line)
    (h' : m.LabelLine document before o b n' since' line') (hn : n < n') :
    m.columnSince o since' = m.columnSince o since := by
  have hline : line ≠ [] := by
    rintro rfl
    exact h.trimStart_ne_nil trimStart_nil
  obtain ⟨hlt, hget⟩ := List.getElem?_eq_some_iff.1 h.written
  -- the lines before the second label go on behind those before the first one with that label
  have htake : (m.writtenTexts document).take n'
      = (m.writtenTexts document).take n ++ line :: ((m.writtenTexts document).drop (n + 1)).take (n' - n - 1) := by
    obtain ⟨k, rfl⟩ : ∃ k, n' = n + (k + 1) := ⟨n' - n - 1, by omega⟩
    rw [List.take_add, List.drop_eq_getElem_cons hlt, hget, List.take_succ_cons, Nat.add_sub_cancel_left,
      Nat.add_sub_cancel]
  obtain ⟨c, ts, hsteps, hstarts⟩ := m.exists_steps_eq_cons hline (stateAfter since o.state)
  have hsince : ∃ us, since' = since ++ token c (stateAfter since o.state) :: us := by
    have hs := h'.steps
    rw [htake, linesSteps_append, h.steps, h.feed_eq, linesSteps, hsteps, List.append_assoc,
      List.cons_append] at hs
    exact ⟨_, (List.cons.inj (List.append_cancel_left hs)).2.symm⟩
  obtain ⟨us, rfl⟩ := hsince
  have hc := h'.calls
  cases hc with
  | cons cursor hc =>
    unfold columnSince
    rw [if_congr (alignAfter_append_eq_column_iff hc hstarts) rfl rfl]

lemma columnSince_eq (h : m.LabelLine document before o b n since line)
    (h' : m.LabelLine document before o b n' since' line') : m.columnSince o since' = m.columnSince o since := by
  rcases Nat.lt_trichotomy n n' with hn | rfl | hn
  · exact h.columnSince_eq_of_lt h' hn
  · have hs := h'.steps
    rw [h.steps] at hs
    rw [(List.cons.inj (List.append_cancel_left hs)).2]
  · exact (h'.columnSince_eq_of_lt h hn).symm

end LabelLine

/-- **The labels of a switch line up as far as they are alike.**

Two written lines start with a label, directly in the context of the same bracket.  They have the same leading blanks if
a label is pending in that context before both of them, or before neither: where one is pending the line is indented as
the line of the bracket, and otherwise as any other line in the context. -/
theorem leadingBlanks_labels {m : Mode} {document : String} {before since since' : List Step} {o : Step}
    {b : Bracket} {n n' : Nat} {line line' : List Char} (h : m.LabelLine document before o b n since line)
    (h' : m.LabelLine document before o b n' since' line') :
    (labelPendingSince o since = labelPendingSince o since' → leadingBlanks line = leadingBlanks line') ∧
      ∃ usual, (usual = clamp (ofWidth o.cursor.column + 1) ∨ usual = clamp (o.state.indented + m.unit)) ∧
        leadingBlanks line = m.config.blanks (if labelPendingSince o since then o.state.indented else usual) ∧
        leadingBlanks line' = m.config.blanks (if labelPendingSince o since' then o.state.indented else usual) := by
  have hline := h.leadingBlanks_eq
  have hline' := h'.leadingBlanks_eq
  rw [h.columnSince_eq h'] at hline'
  refine ⟨fun hp => ?_, m.columnSince o since, ?_, hline, hline'⟩
  · rw [hline, hline', hp]
  · unfold columnSince
    split
    · exact .inl rfl
    · exact .inr rfl

/-- Labels with lines of code before them, and labels of which one is pending before both: behind the first label no line
has started in the braces but in a call, and the next line is empty. -/
theorem leadingBlanks_labels_of_select :
    let document := "select\x7b\ncase a: f(\n)\ncase b:\n\ncase c:\ng()\ncase d:\n"
    let t := token (default.cursor "select\x7b".toList) (default.startState 0)
    let o := token t.cursor t.state
    let since (n : Nat) :=
      (default.linesSteps (default.startState 0) ((default.writtenTexts document).take n)).drop 2
    let a := "  case a: f(".toList
    let b := "case b:".toList
    let c := "case c:".toList
    let d := "  case d:".toList
    (default.LabelLine document [t] o .brace 1 (since 1) a ∧ default.LabelLine document [t] o .brace 7 (since 7) d ∧
        labelPendingSince o (since 1) = labelPendingSince o (since 7)) ∧
      (default.LabelLine document [t] o .brace 3 (since 3) b ∧ default.LabelLine document [t] o .brace 5 (since 5) c ∧
        labelPendingSince o (since 3) = labelPendingSince o (since 5)) ∧
      leadingBlanks a = leadingBlanks d ∧ leadingBlanks b = leadingBlanks c := by
  intro document t o since a b c d
  have ha : default.LabelLine document [t] o .brace 1 (since 1) a := by decide +kernel
  have hb : default.LabelLine document [t] o .brace 3 (since 3) b := by decide +kernel
  have hc : default.LabelLine document [t] o .brace 5 (since 5) c := by decide +kernel
  have hd : default.LabelLine document [t] o .brace 7 (since 7) d := by decide +kernel
  have had : labelPendingSince o (since 1) = labelPendingSince o (since 7) := by decide +kernel
  have hbc : labelPendingSince o (since 3) = labelPendingSince o (since 5) := by decide +kernel
  exact ⟨⟨ha, hd, had⟩, ⟨hb, hc, hbc⟩, (leadingBlanks_labels ha hd).1 had, (leadingBlanks_labels hb hc).1 hbc⟩

/-- The label directly behind the first label of a switch does not stand below it. -/
theorem not_leadingBlanks_label_eq :
    ¬∀ (m : Mode) (document : String) (before since since' : List Step) (o : Step) (n n' : Nat)
      (line line' : List Char), m.LabelLine document before o .brace n since line →
      m.LabelLine document before o .brace n' since' line' → leadingBlanks line = leadingBlanks line' := by
  intro h
  let t := token (default.cursor "select\x7b".toList) (default.startState 0)
  let o := token t.cursor t.state
  have hlines := h default "select\x7b\ncase a:\ncase b:\n" [t] [] (default.linesSteps o.state ["  case a:".toList])
    o 1 2 "  case a:".toList "case b:".toList (by decide +kernel) (by decide +kernel)
  exact absurd hlines (by decide +kernel)

end Mode

end GoLayout
