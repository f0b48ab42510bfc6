import GoLayout.Proofs.Document.Stability
import GoLayout.Proofs.Mode.LineStart

/-!
# Queries between lines

To ask how far a line should be indented may change the state: a label ends the body of a case that is pending.
The start of a line would end it as well, so the state differs from the one without the query only until the next
line that is not empty.  An empty line does not start a line, and it may be followed by more queries.  Therefore a
session is compared with its lines alone by a relation that all turns keep, and that no number of queries leaves.
-/

namespace GoLayout

open GoLayout.Text GoLayout.Lexis

namespace State

/-- What queries make of a state: it stays as it is, or a pending body of a case has turned into braces. -/
inductive Queried (s : State) : State → Prop
  | unchanged : Queried s s
  | ended (h : s.head.kind = .caseBody) : Queried s (s.mapHead fun x => { x with kind := .group .brace })

variable {s t : State}

lemma Queried.startsAlike (h : s.Queried t) : t.StartsAlike s := by
  cases h with
  | unchanged => exact .refl s
  | ended h => exact startsAlike_mapHead (by simp [Context.onNewLine, Kind.onNewLine, h])

end State

namespace Mode

variable (m : Mode) {s t : State}

/-! ## One turn -/

lemma queried_afterQuery (h : s.Queried t) (text : List Char) : s.Queried (afterQuery t text) := by
  unfold afterQuery
  split
  · rename_i hq
    cases h with
    | unchanged => exact .ended hq.2.1
    | ended h =>
      -- the body of the case has ended, so that there is none to end
      have hkind : (s.mapHead fun x => { x with kind := .group .brace }).head.kind = .group .brace :=
        congrArg Context.kind (Nesting.head_mapHead _ _)
      rw [hkind] at hq
      exact absurd hq.2.1 (by simp)
  · exact h

/-- A line that is not empty ends what queries have done, and an empty one keeps it. -/
lemma queried_highlightLine (h : s.Queried t) (line : List Char) :
    (m.highlightLine line s).2.Queried (m.highlightLine line t).2 := by
  by_cases hl : line = []
  · rwa [hl, highlightLine_nil, highlightLine_nil]
  · rw [m.highlightLine_of_startsAlike h.startsAlike hl]
    exact .unchanged

/-! ## Sessions -/

/-- A turn of a session. -/
inductive Turn
  /-- Read a line. -/
  | line (text : List Char)
  /-- Ask how far a line should be indented. -/
  | query (text : List Char)
deriving DecidableEq, Repr

/-- Whether a turn reads a line. -/
def Turn.isLine : Turn → Bool
  | .line _ => true
  | .query _ => false

/-- The state after a turn. -/
def turn (m : Mode) (s : State) : Turn → State
  | .line text => (m.highlightLine text s).2
  | .query text => afterQuery s text

/-- The state after a session. -/
def session (m : Mode) (s : State) (turns : List Turn) : State := turns.foldl m.turn s

/-- The spans of the lines that are read in a session. -/
def sessionSpans (m : Mode) : State → List Turn → List (List Span)
  | _, [] => []
  | s, .line text :: turns => (m.highlightLine text s).1 :: sessionSpans m (m.highlightLine text s).2 turns
  | s, .query text :: turns => sessionSpans m (afterQuery s text) turns

lemma session_concat (s : State) (turns : List Turn) (a : Turn) :
    m.session s (turns ++ [a]) = m.turn (m.session s turns) a := by
  rw [session, List.foldl_append]
  rfl

lemma queried_session (h : s.Queried t) (turns : List Turn) :
    (m.session s (turns.filter Turn.isLine)).Queried (m.session t turns) := by
  induction turns generalizing s t with
  | nil => exact h
  | cons a turns ih =>
    cases a with
    | line text => exact ih (m.queried_highlightLine h text)
    | query text => exact ih (queried_afterQuery h text)

lemma sessionSpans_filter_isLine (h : s.Queried t) (turns : List Turn) :
    m.sessionSpans t turns = m.sessionSpans s (turns.filter Turn.isLine) := by
  induction turns generalizing s t with
  | nil => rfl
  | cons a turns ih =>
    cases a with
    | line text =>
      have hspans : (m.highlightLine text t).1 = (m.highlightLine text s).1 := by
        rw [fst_highlightLine, fst_highlightLine, h.startsAlike.continuation_eq]
      rw [sessionSpans, hspans, ih (m.queried_highlightLine h text)]
      rfl
    | query text => exact ih (queried_afterQuery h text)

/-! ## Re-indenting on the state itself -/

/-- The lines of a document as they are written if the queries are not asked of a copy of the state. -/
def reindentLinesLive (m : Mode) : State → List Line → List Line
  | _, [] => []
  | s, line :: rest =>
    let text := m.reindentLine s line.text
    ⟨text, line.ending⟩ :: reindentLinesLive m (m.highlightLine text (afterQuery s line.text)).2 rest

/-- The document that is re-indented without a copy of the state. -/
def reindentLive (m : Mode) (document : String) : String :=
  String.ofList (unlines (m.reindentLinesLive (m.startState 0) (lines document.toList)))

/-- No label is blank, so a query for a blank line changes nothing. -/
lemma afterQuery_of_blank {text : List Char} (h : trimStart text = []) (s : State) : afterQuery s text = s := by
  refine if_neg fun hq => ?_
  rw [h] at hq
  exact absurd hq.2.2 (by decide)

lemma highlightLine_reindentLine_afterQuery (s : State) (line : List Char) :
    m.highlightLine (m.reindentLine s line) (afterQuery s line) = m.highlightLine (m.reindentLine s line) s := by
  by_cases ht : trimStart line = []
  · rw [afterQuery_of_blank ht]
  · have hl : m.reindentLine s line ≠ [] := by
      intro hnil
      rw [← m.trimStart_reindentLine s line, hnil] at ht
      exact ht trimStart_nil
    exact m.highlightLine_of_startsAlike (queried_afterQuery .unchanged line).startsAlike hl

lemma reindentLinesLive_eq (s : State) (ls : List Line) : m.reindentLinesLive s ls = m.reindentLines s ls := by
  induction ls generalizing s with
  | nil => rfl
  | cons l ls ih => rw [reindentLinesLive, highlightLine_reindentLine_afterQuery, ih, reindentLines_cons]

/-! ## Queries are neutral -/

/-- **Queries do not disturb a document.**

At each point of a session the state is the one without the queries, or the body of a case that is pending there has
turned into braces.  All lines have the same spans as without the queries, and after a line that is not empty the
state is the same.  Re-indenting may ask its queries of the state itself. -/
theorem queries_neutral (s : State) (turns : List Turn) :
    let calm := turns.filter Turn.isLine
    (m.session s calm).Queried (m.session s turns) ∧
      m.sessionSpans s turns = m.sessionSpans s calm ∧
      (∀ text, text ≠ [] → m.session s (turns ++ [.line text]) = m.session s (calm ++ [.line text])) ∧
      ∀ document, m.reindentLive document = m.reindent document := by
  intro calm
  have hqueried : (m.session s calm).Queried (m.session s turns) := m.queried_session .unchanged turns
  refine ⟨hqueried, m.sessionSpans_filter_isLine .unchanged turns, fun text ht => ?_, fun document => ?_⟩
  · rw [session_concat, session_concat]
    exact congrArg Prod.snd (m.highlightLine_of_startsAlike hqueried.startsAlike ht)
  · rw [reindentLive, reindentLinesLive_eq, reindent_eq]

/-- A label that is asked for behind another one ends the body of its case, empty lines and further queries leave it
at that, and the next line ends it in any case. -/
theorem queries_neutral_behind_label :
    let s := default.feed (default.startState 0) ["switch x \x7b".toList, "case 1:".toList]
    let turns : List Turn := [.query "\tcase 2:".toList, .line [], .query "default:".toList, .query "\x7d".toList]
    let calm : List Turn := [.line []]
    let text := "case 2: f(".toList
    (text ≠ [] ∧ turns.filter Turn.isLine = calm) ∧
      ((default.session s calm).head.kind = .caseBody ∧ (default.session s turns).head.kind = .group .brace) ∧
      default.session s (turns ++ [.line text]) = default.session s (calm ++ [.line text]) ∧
      (default.session s (turns ++ [.line text])).nesting.depth = 3 := by
  intro s turns calm text
  have ht : text ≠ [] := by decide +kernel
  have hcalm : turns.filter Turn.isLine = calm := rfl
  obtain ⟨-, -, hstate, -⟩ := queries_neutral default s turns
  refine ⟨⟨ht, hcalm⟩, ⟨by decide +kernel, by decide +kernel⟩, hstate text ht, by decide +kernel⟩

end Mode

end GoLayout
