import GoLayout.Proofs.Document.Stability
import GoLayout.Proofs.Layout.Levels

/-!
# Depth

If every line of a document is a layer, re-indenting it is plain arithmetic: a line is written as many units
deep as brackets stay open around it, whatever its blanks were before.  The proof goes through the lines and
keeps the state between two of them levelled: each context is as many units deep as there are contexts beneath
it, because the line that opened it was written so.
-/

namespace GoLayout

open GoLayout.Text GoLayout.Lexis GoLayout.Layout

namespace Mode

variable (m : Mode)

/-- The lines of a document that are written by level, given the brackets that are open before them. -/
def indentByLevel : List Bracket → List Line → List Line
  | _, [] => []
  | opened, l :: ls =>
    let text :=
      if trimStart l.text = [] then []
      else m.config.blanks (m.unit * level opened l.text) ++ trimStart l.text
    ⟨text, l.ending⟩ :: indentByLevel ((readLine .code l.text).foldl openAfter opened) ls

/-- All lines that are not blank are layers, and none has to stand to the right of the largest column. -/
def Layered : List Bracket → List Line → Prop
  | _, [] => True
  | opened, l :: ls =>
    (trimStart l.text ≠ [] → Layer opened l.text ∧ m.unit * level opened l.text ≤ maxColumn) ∧
      Layered ((readLine .code l.text).foldl openAfter opened) ls

/-- Whether lines are layers can be checked line by line. -/
instance decidableLayered : (opened : List Bracket) → (ls : List Line) → Decidable (m.Layered opened ls)
  | _, [] => isTrue trivial
  | opened, l :: ls =>
    have := decidableLayered ((readLine .code l.text).foldl openAfter opened) ls
    inferInstanceAs (Decidable (_ ∧ _))

lemma unit_nonneg : 0 ≤ m.unit := ofWidth_nonneg _

lemma unit_le_maxColumn : m.unit ≤ maxColumn := by
  unfold unit ofWidth
  omega

variable {m} {opened : List Bracket} {s : State} {text : List Char}

lemma suggestion?_of_levelled (h : Levelled m.unit opened s) (hl : m.unit * level opened text ≤ maxColumn) :
    m.suggestion? s text = some (m.unit * level opened text) := by
  have hs : m.suggestion? s text = some (s.head.lineColumn m.unit (s.head.isClosedAt (trimStart text))) := by
    simp [suggestion?, h.continuation, h.kind]
  have hh : (s.nesting.mapHead Context.onNewLine).head = s.head.onNewLine := Nesting.head_mapHead _ _
  have hc := h.stacked.lineColumn_head m.unit_nonneg m.unit_le_maxColumn hl
  rw [hh, Context.lineColumn_onNewLine, Context.isClosedAt_onNewLine h.kind] at hc
  rw [hs, hc]

/-- A layer that is written at its level leaves a levelled state. -/
lemma levelled_highlightLine (h : Levelled m.unit opened s) (hy : Layer opened text)
    (ht : trimStart text ≠ []) (hl : m.unit * level opened text ≤ maxColumn) :
    Levelled m.unit ((readLine .code text).foldl openAfter opened)
      (m.highlightLine (m.config.blanks (m.unit * level opened text) ++ trimStart text) s).2 := by
  set line := m.config.blanks (m.unit * level opened text) ++ trimStart text with hline
  have hne : line ≠ [] := List.append_ne_nil_of_right_ne_nil _ ht
  have htrim : trimStart line = trimStart text := Config.trimStart_blanks_append (startsSolid_trimStart text)
  have hcolumns : ofWidth (indentation m.config.tabSize line) = m.unit * level opened text := by
    have h0 : 0 ≤ m.unit * level opened text := Int.mul_nonneg m.unit_nonneg (Int.natCast_nonneg _)
    have hn : ((m.unit * level opened text).toNat : Int) = m.unit * level opened text :=
      Int.toNat_of_nonneg h0
    rw [hline, Config.indentation_blanks_append (startsSolid_trimStart text),
      ofWidth_of_le (hn.trans_le hl), hn]
  -- the line that is written closes and opens the same brackets as the line that was read
  have hread : readLine s.continuation line
      = indentSpan .code line ++ readLine .code (trimStart text) := by
    rw [h.continuation, readLine_eq_append, htrim]
  have hk : (m.highlightLine line s).2.continuation = .code := by
    rw [continuation_highlightLine, h.continuation, continuationAfter_readLine, htrim,
      ← continuationAfter_readLine]
    exact hy.ends
  have hcode : (s.startLine (indentation m.config.tabSize line)).continuation = .code := h.continuation
  rw [snd_highlightLine m hne, hread, State.absorbAll_append, State.absorbAll_indentSpan hcode] at hk ⊢
  rw [foldl_openAfter_readLine]
  exact levelled_absorbAll_of_layer _ _ hy h.stacked hcolumns hk

lemma reindentLines_eq_indentByLevel {ls : List Line} (h : Levelled m.unit opened s)
    (hl : m.Layered opened ls) : m.reindentLines s ls = m.indentByLevel opened ls := by
  induction ls generalizing opened s with
  | nil => rfl
  | cons l ls ih =>
    obtain ⟨hline, hrest⟩ := hl
    by_cases ht : trimStart l.text = []
    · -- an empty line is written, and that leaves the state alone
      obtain ⟨columns, hs⟩ := m.exists_suggestion?_eq_some h.continuation l.text
      have hopen : (readLine .code l.text).foldl openAfter opened = opened := by
        rw [foldl_openAfter_readLine, ht, readLine_nil, List.foldl_nil]
      rw [hopen] at hrest
      rw [reindentLines_cons, reindentLine_of_some m hs, if_pos ht, highlightLine_nil, indentByLevel,
        if_pos ht, hopen, ih h hrest]
    · obtain ⟨hy, hcolumns⟩ := hline ht
      rw [reindentLines_cons, reindentLine_of_some m (suggestion?_of_levelled h hcolumns), if_neg ht,
        indentByLevel, if_neg ht, ih (levelled_highlightLine h hy ht hcolumns) hrest]

variable (m)

/-- **A document whose lines are layers is written by level**: every line that is not blank stands one unit
deeper for each bracket that is open before it, not counting the one that it closes first. -/
theorem reindent_eq_indentByLevel (document : String) (h : m.Layered [] (lines document.toList)) :
    m.reindent document = String.ofList (unlines (m.indentByLevel [] (lines document.toList))) := by
  have hs : Levelled m.unit [] (m.startState 0) := .ofRoot m.unit
  rw [reindent_eq, reindentLines_eq_indentByLevel hs h]

/-- Brackets in strings and comments do not count, and a line may close one bracket and open another. -/
theorem reindent_else_branch :
    let document := "func f(a [2]int) \x7b\n if a[0] > g(\n\"\x7d\", b\x7b1\x7d,\n) \x7b // (\n \n\t x()\r\n"
      ++ "\x7d else \x7b /* ( */\ny()\n   \x7d\n\x7d"
    default.Layered [] (lines document.toList) ∧ default.reindent document =
      "func f(a [2]int) \x7b\n  if a[0] > g(\n    \"\x7d\", b\x7b1\x7d,\n  ) \x7b // (\n\n    x()\r\n"
      ++ "  \x7d else \x7b /* ( */\n    y()\n  \x7d\n\x7d" := by
  intro document
  have h : default.Layered [] (lines document.toList) := by decide +kernel
  refine ⟨h, ?_⟩
  rw [default.reindent_eq_indentByLevel document h]
  decide +kernel

end Mode

end GoLayout
