import GoLayout.Proofs.Document.Highlighting
import GoLayout.Proofs.Mode.Root

/-!
# The column at which a document starts

A document may start at any column, and then its root stands elsewhere.  The root is never closed, so its indentation
is taken out by nothing, and an opening bracket remembers the indentation of its line and not that of the root.  Hence
the two runs over the same lines that start at different columns go through the same states but for the place of the
root: moving the root commutes with all that is done to a state (`State.absorb_shiftRoot`, `Mode.token_shiftRoot`,
`Mode.run_shiftRoot`).

Suggestions use that place only while nothing but the root is open, and each of the three ways to use it (a label behind
a label, a closing brace, any other line) moves with the root as long as no sum leaves the range of columns.
-/

namespace GoLayout

open GoLayout.Text GoLayout.Lexis GoLayout.Layout

/-! ## Moving the root -/

/-- The context that is indented by `d` columns more. -/
def Context.shift (d : Int) (x : Context) : Context := { x with indented := x.indented + d }

namespace Context

variable (d : Int) (x : Context)

@[simp] lemma indented_shift : (x.shift d).indented = x.indented + d := rfl

@[simp] lemma kind_shift : (x.shift d).kind = x.kind := rfl

@[simp] lemma isClosedAt_shift : (x.shift d).isClosedAt = x.isClosedAt := rfl

end Context

/-- The contexts over a root that is indented by `d` columns more. -/
def Nesting.shiftRoot (d : Int) (n : Nesting) : Nesting := { n with root := n.root.shift d }

/-- The state over a root that is indented by `d` columns more. -/
def State.shiftRoot (d : Int) (s : State) : State := { s with nesting := s.nesting.shiftRoot d }

namespace Nesting

variable (d : Int) (n : Nesting)

/-- Moving the root commutes with a change of the innermost context that does not look at its indentation. -/
lemma mapHead_shiftRoot {f : Context → Context} (hf : ∀ x, f (x.shift d) = (f x).shift d) :
    (n.shiftRoot d).mapHead f = (n.mapHead f).shiftRoot d := by
  obtain ⟨_ | ⟨x, inner⟩, root⟩ := n
  · exact congrArg (Nesting.mk []) (hf root)
  · rfl

@[simp] lemma kind_head_shiftRoot : (n.shiftRoot d).head.kind = n.head.kind := by
  obtain ⟨_ | ⟨x, inner⟩, root⟩ := n <;> rfl

end Nesting

namespace State

variable (d : Int) (s : State)

@[simp] lemma continuation_shiftRoot : (s.shiftRoot d).continuation = s.continuation := rfl

@[simp] lemma nesting_shiftRoot : (s.shiftRoot d).nesting = s.nesting.shiftRoot d := rfl

/-- If more than the root is open, the innermost context stays where it is. -/
lemma head_shiftRoot_of_inner_ne_nil (h : s.nesting.inner ≠ []) : (s.shiftRoot d).head = s.head := by
  obtain ⟨k, ⟨_ | ⟨x, inner⟩, root⟩, indented, startOfLine⟩ := s
  · exact absurd rfl h
  · rfl

lemma head_shiftRoot_of_inner_eq_nil (h : s.nesting.inner = []) : (s.shiftRoot d).head = s.head.shift d := by
  obtain ⟨k, ⟨_ | ⟨x, inner⟩, root⟩, indented, startOfLine⟩ := s
  · rfl
  · cases h

lemma mapHead_shiftRoot {f : Context → Context} (hf : ∀ x, f (x.shift d) = (f x).shift d) :
    (s.shiftRoot d).mapHead f = (s.mapHead f).shiftRoot d := by
  rw [mapHead, nesting_shiftRoot, Nesting.mapHead_shiftRoot d _ hf]
  rfl

lemma startLine_shiftRoot (width : Nat) : (s.shiftRoot d).startLine width = (s.startLine width).shiftRoot d := by
  have hm : (s.shiftRoot d).mapHead Context.onNewLine = (s.mapHead Context.onNewLine).shiftRoot d :=
    mapHead_shiftRoot d s fun _ => rfl
  rw [startLine, hm]
  rfl

/-- A context that is closed is not the root, so nothing is taken out of the root. -/
lemma closeContext_shiftRoot : (s.shiftRoot d).closeContext = s.closeContext.shiftRoot d := by
  obtain ⟨k, ⟨_ | ⟨x, inner⟩, root⟩, indented, startOfLine⟩ := s <;> rfl

/-- Which context is closed is told from the kind of the innermost one, and that is no matter of its place. -/
lemma follow_shiftRoot (column : Int) (g : Signal) :
    (s.shiftRoot d).follow column g = (s.follow column g).shiftRoot d := by
  cases g with
  | caseLabel => exact mapHead_shiftRoot d s fun _ => rfl
  | punct p =>
    simp only [follow]
    cases Kind.openedBy? p with
    | some k =>
      -- an opening bracket takes the indentation of its line along
      rfl
    | none =>
      show (if (s.shiftRoot d).head.kind.closedBy p then (s.shiftRoot d).closeContext else s.shiftRoot d)
        = (if s.head.kind.closedBy p then s.closeContext else s).shiftRoot d
      rw [closeContext_shiftRoot, head, nesting_shiftRoot, Nesting.kind_head_shiftRoot, head,
        apply_ite (State.shiftRoot d)]

/-- **Moving the root commutes with reading a span.** -/
theorem absorb_shiftRoot (column : Int) (r : Scan) :
    (s.shiftRoot d).absorb column r = (s.absorb column r).shiftRoot d := by
  unfold absorb
  dsimp only
  split
  · have hm : (({ s.shiftRoot d with continuation := r.continuation } : State).mapHead Context.onCode)
        = (({ s with continuation := r.continuation } : State).mapHead Context.onCode).shiftRoot d :=
      mapHead_shiftRoot d { s with continuation := r.continuation } fun _ => rfl
    rw [hm]
    cases r.signal with
    | none => rfl
    | some g => rw [Option.elim_some, follow_shiftRoot, Option.elim_some]; rfl
  · rfl

end State

namespace Mode

/-- The step behind which the root is indented by `d` columns more. -/
def Step.shiftRoot (d : Int) (t : Step) : Step := { t with state := t.state.shiftRoot d }

variable (d : Int) {s : State}

/-! ## Runs over a root that was moved -/

lemma enter_shiftRoot (c : Cursor) (s : State) : enter c (s.shiftRoot d) = (enter c s).shiftRoot d := by
  rw [enter, enter, State.startLine_shiftRoot, apply_ite (State.shiftRoot d)]

lemma token_shiftRoot (c : Cursor) (s : State) : token c (s.shiftRoot d) = (token c s).shiftRoot d := by
  simp only [token, enter_shiftRoot, State.absorb_shiftRoot, State.continuation_shiftRoot, Step.shiftRoot]

lemma run_shiftRoot (c : Cursor) (s : State) : run c (s.shiftRoot d) = (run c s).map (Step.shiftRoot d) := by
  fun_induction run c s with
  | case1 c s h => exact run_of_atEnd h _
  | case2 c s h t ih =>
    rw [run_of_not_atEnd h, token_shiftRoot, List.map_cons]
    exact congrArg (_ :: ·) ih

lemma stateAfter_map_shiftRoot (ts : List Step) (s : State) :
    stateAfter (ts.map (Step.shiftRoot d)) (s.shiftRoot d) = (stateAfter ts s).shiftRoot d := by
  induction ts generalizing s with
  | nil => rfl
  | cons t ts ih => exact ih t.state

variable (m : Mode)

lemma snd_highlightLine_shiftRoot (line : List Char) (s : State) :
    (m.highlightLine line (s.shiftRoot d)).2 = (m.highlightLine line s).2.shiftRoot d := by
  rw [highlightLine, highlightLine, steps, run_shiftRoot]
  exact stateAfter_map_shiftRoot d _ s

lemma linesSteps_shiftRoot (s : State) (ls : List (List Char)) :
    m.linesSteps (s.shiftRoot d) ls = (m.linesSteps s ls).map (Step.shiftRoot d) := by
  induction ls generalizing s with
  | nil => rfl
  | cons line ls ih =>
    rw [linesSteps, linesSteps, snd_highlightLine_shiftRoot, ih, List.map_append, steps, run_shiftRoot]
    rfl

lemma feed_shiftRoot (s : State) (ls : List (List Char)) :
    m.feed (s.shiftRoot d) ls = (m.feed s ls).shiftRoot d := by
  rw [← stateAfter_linesSteps, linesSteps_shiftRoot, stateAfter_map_shiftRoot, stateAfter_linesSteps]

/-! ## Suggestions over a root that was moved -/

/-- Whether a document may start at a column: the column exists, and so does the one a unit left of it, on which the
root stands. -/
structure CanStart (base : Int) : Prop where
  minColumn_le : minColumn ≤ base - m.unit
  le_maxColumn : base ≤ maxColumn

instance (base : Int) : Decidable (m.CanStart base) :=
  decidable_of_iff (_ ∧ _) ⟨fun h => ⟨h.1, h.2⟩, fun h => ⟨h.minColumn_le, h.le_maxColumn⟩⟩

variable {m} {base base' : Int}

/-- The root of a document that may start at a column stands a unit left of it. -/
lemma CanStart.clamp_eq (h : m.CanStart base) : clamp (base - m.unit) = base - m.unit := by
  have hu := m.isColumn_unit.1
  have hb := h.le_maxColumn
  exact clamp_of_mem h.minColumn_le (by omega)

/-- A line in a context that is indented by a unit less than `base` stands at `base`, or at the context if it closes it. -/
lemma CanStart.lineColumn_eq {x : Context} (h : m.CanStart base) (hx : x.indented = base - m.unit)
    (ha : x.align = .indent) (closing : Bool) :
    x.lineColumn m.unit closing = x.indented + if closing then 0 else m.unit := by
  have hu := m.isColumn_unit.1
  have hmin := h.minColumn_le
  have hmax := h.le_maxColumn
  rw [Context.lineColumn, ha, hx]
  refine clamp_of_mem ?_ ?_ <;> split <;> omega

lemma startState_eq_shiftRoot (h : m.CanStart base) (h' : m.CanStart base') :
    m.startState base' = (m.startState base).shiftRoot (base' - base) := by
  have hroot : Context.root base' m.unit = (Context.root base m.unit).shift (base' - base) := by
    simp only [Context.root, Context.shift, h.clamp_eq, h'.clamp_eq, Context.mk.injEq, and_true]
    omega
  rw [startState, hroot]
  rfl

/-- If more than the root is open, or a string or a comment is, the place of the root is not used. -/
lemma suggestion?_shiftRoot_of_inner_ne_nil (h : s.nesting.inner ≠ [] ∨ s.continuation ≠ .code)
    (text : List Char) : m.suggestion? (s.shiftRoot d) text = m.suggestion? s text := by
  rcases h with h | h
  · simp only [suggestion?, s.head_shiftRoot_of_inner_ne_nil d h, State.continuation_shiftRoot]
  · rw [suggestion?, suggestion?, State.continuation_shiftRoot, if_pos h, if_pos h]

/-- While only the root is open, what is suggested moves with the root. -/
lemma suggestion?_shiftRoot_of_inner_eq_nil (h : m.CanStart base) (h' : m.CanStart base')
    (hs : s.Sound (base - m.unit)) (hn : s.nesting.inner = []) (text : List Char) :
    m.suggestion? (s.shiftRoot (base' - base)) text = (m.suggestion? s text).map (· + (base' - base)) := by
  have hhead : s.head = s.nesting.root := Nesting.head_of_inner_eq_nil hn
  have hi : s.head.indented = base - m.unit := by rw [hhead, hs.nesting.root_indented]
  have ha : s.head.align = .indent := by rw [hhead, hs.nesting.root_align]
  have hi' : (s.head.shift (base' - base)).indented = base' - m.unit := by
    rw [Context.indented_shift, hi]
    omega
  have hline : ∀ closing, (s.head.shift (base' - base)).lineColumn m.unit closing
      = s.head.lineColumn m.unit closing + (base' - base) := by
    intro closing
    rw [h.lineColumn_eq hi ha, h'.lineColumn_eq hi' ha, Context.indented_shift]
    omega
  simp only [suggestion?, State.continuation_shiftRoot, s.head_shiftRoot_of_inner_eq_nil _ hn, hline,
    Context.kind_shift, Context.indented_shift, Context.isClosedAt_shift]
  -- the two answers that there are in code: the place of the root itself, or that of a line in it
  split
  · rfl
  · split <;> rfl

/-- **The column at which a document starts affects the top level only.**

Let the same lines be read in two documents that start at different columns.  Their lines have the same spans.  At each
token the states are the same, but for the root, which is as much further to the right as the document is.  While more
than the root is open, or a string or a comment, the suggestions are the same; while only the root is open, they are as
much further to the right as the document is. -/
theorem feed_startState_base (h : m.CanStart base) (h' : m.CanStart base') (ls : List (List Char)) :
    let s := m.feed (m.startState base) ls
    let s' := m.feed (m.startState base') ls
    m.highlightFrom 1 (m.startState base') ls = m.highlightFrom 1 (m.startState base) ls ∧
      m.linesSteps (m.startState base') ls
        = (m.linesSteps (m.startState base) ls).map (Step.shiftRoot (base' - base)) ∧
      s' = s.shiftRoot (base' - base) ∧
      ∀ text, (1 < s.nesting.depth ∨ s.continuation ≠ .code → m.suggestion? s' text = m.suggestion? s text) ∧
        (s.nesting.depth = 1 → s.continuation = .code → ∃ column, m.suggestion? s text = some column ∧
          m.suggestion? s' text = some (column + (base' - base))) := by
  intro s s'
  have hstart := startState_eq_shiftRoot h h'
  -- the whole run is one over a root that was moved
  have hs' : s' = s.shiftRoot (base' - base) := by rw [← feed_shiftRoot, ← hstart]
  have hsound : s.Sound (base - m.unit) := h.clamp_eq ▸ m.sound_feed base ls
  have hcode : (m.startState base').continuation = (m.startState base).continuation := rfl
  refine ⟨m.highlightFrom_congr m hcode 1 ls, ?_, hs', fun text => ⟨fun hopen => ?_, fun hd hk => ?_⟩⟩
  · rw [hstart, linesSteps_shiftRoot]
  · rw [hs']
    refine suggestion?_shiftRoot_of_inner_ne_nil _ (hopen.imp_left fun hd hn => ?_) text
    rw [Nesting.depth_eq_one_iff.2 hn] at hd
    omega
  · obtain ⟨column, hcolumn⟩ := m.exists_suggestion?_eq_some hk text
    refine ⟨column, hcolumn, ?_⟩
    rw [hs', suggestion?_shiftRoot_of_inner_eq_nil h h' hsound (Nesting.depth_eq_one_iff.1 hd), hcolumn,
      Option.map_some]

/-- Behind a label at the top, one document stands at the smallest column that leaves room for the root and the other
one at the largest column: a label and a closing brace move with the root, and a line in brackets does not. -/
theorem feed_startState_base_of_label :
    let base := minColumn + 2
    let base' := maxColumn
    let labels := ["case 1:".toList]
    let call := labels ++ ["\tx := f(a,".toList]
    let s ls := default.feed (default.startState base) ls
    let s' ls := default.feed (default.startState base') ls
    (default.CanStart base ∧ default.CanStart base') ∧
      (s labels).head.kind = .caseBody ∧
      default.suggestion? (s labels) "case 2:".toList = some minColumn ∧
      default.suggestion? (s' labels) "case 2:".toList = some (minColumn + (base' - base)) ∧
      s' call = (s call).shiftRoot (base' - base) ∧
      default.suggestion? (s' call) "b)".toList = default.suggestion? (s call) "b)".toList := by
  intro base base' labels call s s'
  have h : default.CanStart base := by decide +kernel
  have h' : default.CanStart base' := by decide +kernel
  obtain ⟨-, -, -, htop⟩ := feed_startState_base h h' labels
  obtain ⟨-, -, hstate, hinner⟩ := feed_startState_base h h' call
  have hlabel : default.suggestion? (s labels) "case 2:".toList = some minColumn := by decide +kernel
  obtain ⟨column, hcolumn, hmoved⟩ := (htop "case 2:".toList).2 (by decide +kernel) (by decide +kernel)
  obtain rfl : minColumn = column := Option.some.inj (hlabel.symm.trans hcolumn)
  exact ⟨⟨h, h'⟩, by decide +kernel, hlabel, hmoved, hstate, (hinner "b)".toList).1 (.inl (by decide +kernel))⟩

end Mode

end GoLayout
