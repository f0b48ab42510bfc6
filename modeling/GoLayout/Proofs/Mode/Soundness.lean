import GoLayout.Proofs.Mode.Calls

/-!
# Sound states

A mode may be used in any order: a document is started, tokens and lines are read, suggestions are asked
for, and a document is started anew.  The contexts stay sound whatever is done: the root stands where the
document has put it, a context above it is no root and stands at columns that exist, and all but the
innermost one are settled.

The indentation of the line belongs to the invariant, since an opening bracket puts it into its context and
a closing one takes it out again.  That a context is settled before another one is opened above it is what an
opening bracket, being code, does to the innermost context first.
-/

namespace GoLayout

open GoLayout.Text GoLayout.Lexis GoLayout.Layout

/-! ## Columns -/

/-- A column that is neither negative nor out of range. -/
def Layout.IsColumn (n : Int) : Prop := 0 ≤ n ∧ n ≤ maxColumn

namespace Layout.IsColumn

lemma ofWidth (n : Nat) : IsColumn (Layout.ofWidth n) := by
  refine ⟨ofWidth_nonneg n, ?_⟩
  unfold Layout.ofWidth
  omega

lemma clamp_eq {n : Int} (h : IsColumn n) : clamp n = n := by
  have h0 := h.1
  exact clamp_of_mem (by unfold minColumn; omega) h.2

end Layout.IsColumn

/-! ## Changes of the innermost context -/

lemma Kind.onNewLine_ne_top {k : Kind} (h : k ≠ .top) : k.onNewLine ≠ .top := by
  cases k with
  | top => exact absurd rfl h
  | _ => simp [onNewLine]

/-- A change that leaves a context where it stands, keeps it settled, and makes no root of it. -/
structure Context.Tame (f : Context → Context) : Prop where
  indented : ∀ x, (f x).indented = x.indented
  column : ∀ x, (f x).column = x.column
  align : ∀ x, x.align ≠ .unresolved → (f x).align = x.align
  kind : ∀ x, x.kind ≠ .top → (f x).kind ≠ .top

namespace Context

/-- Turning a context into braces or into the body of a case is tame. -/
lemma tame_kind {k : Kind} (h : k ≠ .top) : Tame fun x => { x with kind := k } :=
  ⟨fun _ => rfl, fun _ => rfl, fun _ _ => rfl, fun _ _ => h⟩

lemma tame_touch (t : Mode.Step) : Tame t.touch where
  indented x := t.indented_touch x
  column x := t.column_touch x
  align x h := by rw [t.align_touch, Align.settle_of_ne h]
  kind x h := by
    rcases t.kind_touch_cases x with hk | ⟨hk, -⟩
    · rw [hk]
      split
      · exact Kind.onNewLine_ne_top h
      · exact h
    · simp [hk]

end Context

/-! ## Sound contexts -/

/-- Contexts in a document whose root stands at `base`. -/
structure Nesting.Sound (base : Int) (n : Nesting) : Prop where
  root_indented : n.root.indented = base
  root_column : n.root.column = 0
  root_align : n.root.align = .indent
  kind : ∀ x ∈ n.inner, x.kind ≠ .top
  indented : ∀ x ∈ n.inner, IsColumn x.indented
  column : ∀ x ∈ n.inner, IsColumn x.column
  /-- Only the innermost context may be unsettled. -/
  settled : ∀ x ∈ n.inner.tail, x.align ≠ .unresolved

namespace Nesting

variable {base : Int} {n : Nesting}

lemma sound_ofRoot (base unit : Int) : (ofRoot (.root base unit)).Sound (clamp (base - unit)) where
  root_indented := rfl
  root_column := rfl
  root_align := rfl
  kind _ h := by cases h
  indented _ h := by cases h
  column _ h := by cases h
  settled _ h := by cases h

lemma Sound.mapHead {f : Context → Context} (h : n.Sound base) (hf : Context.Tame f) :
    (n.mapHead f).Sound base := by
  obtain ⟨inner, root⟩ := n
  cases inner with
  | nil =>
    refine ⟨(hf.indented root).trans h.root_indented, (hf.column root).trans h.root_column, ?_,
      h.kind, h.indented, h.column, h.settled⟩
    have hr : root.align = .indent := h.root_align
    exact (hf.align root (by simp [hr])).trans hr
  | cons x inner =>
    obtain ⟨hk, hks⟩ := List.forall_mem_cons.1 h.kind
    obtain ⟨hi, his⟩ := List.forall_mem_cons.1 h.indented
    obtain ⟨hc, hcs⟩ := List.forall_mem_cons.1 h.column
    refine ⟨h.root_indented, h.root_column, h.root_align, List.forall_mem_cons.2 ⟨hf.kind x hk, hks⟩,
      List.forall_mem_cons.2 ⟨?_, his⟩, List.forall_mem_cons.2 ⟨?_, hcs⟩, h.settled⟩
    · rwa [hf.indented]
    · rwa [hf.column]

/-- A context may be opened above settled ones. -/
lemma Sound.push {x : Context} (h : n.Sound base) (hn : n.head.align ≠ .unresolved) (hk : x.kind ≠ .top)
    (hi : IsColumn x.indented) (hc : IsColumn x.column) : (n.push x).Sound base where
  root_indented := h.root_indented
  root_column := h.root_column
  root_align := h.root_align
  kind := List.forall_mem_cons.2 ⟨hk, h.kind⟩
  indented := List.forall_mem_cons.2 ⟨hi, h.indented⟩
  column := List.forall_mem_cons.2 ⟨hc, h.column⟩
  settled := by
    obtain ⟨inner, root⟩ := n
    cases inner with
    | nil => exact fun y hy => by cases hy
    | cons y inner => exact List.forall_mem_cons.2 ⟨hn, h.settled⟩

lemma Sound.of_push {x : Context} (h : (n.push x).Sound base) : n.Sound base where
  root_indented := h.root_indented
  root_column := h.root_column
  root_align := h.root_align
  kind := (List.forall_mem_cons.1 h.kind).2
  indented := (List.forall_mem_cons.1 h.indented).2
  column := (List.forall_mem_cons.1 h.column).2
  settled y hy := h.settled y (List.mem_of_mem_tail hy)

end Nesting

/-! ## Sound states -/

/-- A state whose contexts are sound, in a line whose indentation is a column. -/
structure State.Sound (base : Int) (s : State) : Prop where
  nesting : s.nesting.Sound base
  indented : IsColumn s.indented

namespace State

variable {base : Int} {s : State}

/-- A span has a sound effect on sound contexts, if it settles the innermost one before another is opened. -/
lemma Effect.sound {r : Scan} {column indented : Int} {n : Nesting} (h : Effect r column n indented s)
    (hn : n.Sound base) (hi : IsColumn indented) (hc : IsColumn column)
    (hs : r.isCode = true → n.head.align ≠ .unresolved) : s.Sound base := by
  cases h with
  | stays _ _ hn' hi' => exact ⟨hn' ▸ hn, hi' ▸ hi⟩
  | opens b _ hcode hn' hi' =>
    refine ⟨?_, hi' ▸ hi⟩
    rw [hn']
    exact hn.push (hs hcode) (by simp) hi hc
  | closes b x _ _ hn' hi' =>
    rw [hn'] at hn
    refine ⟨hn.of_push, ?_⟩
    rw [hi']
    exact hn.indented x (List.mem_cons_self)

end State

namespace Mode

variable {base : Int} {s : State}

lemma isColumn_indented_enter (h : IsColumn s.indented) (c : Cursor) : IsColumn (enter c s).indented := by
  unfold enter
  split
  · exact .ofWidth _
  · exact h

lemma align_touch_ne_unresolved {t : Step} (h : t.scan.isCode = true) (x : Context) :
    (t.touch x).align ≠ .unresolved := by
  rw [Step.align_touch, Step.alignment, h]
  cases x.align <;> cases t.startsLine <;> simp [Align.settle]

lemma sound_token (h : s.Sound base) (c : Cursor) : (token c s).state.Sound base := by
  refine (effect_token c s).sound (h.nesting.mapHead (Context.tame_touch _))
    (isColumn_indented_enter h.indented c) (.ofWidth _) fun hcode => ?_
  rw [Nesting.head_mapHead]
  exact align_touch_ne_unresolved hcode _

lemma Calls.sound {ts : List Step} (hc : Calls s ts) (h : s.Sound base) : (stateAfter ts s).Sound base := by
  induction hc with
  | nil s => exact h
  | cons c hc ih => exact ih (sound_token h c)

lemma sound_startState (m : Mode) (base : Int) : (m.startState base).Sound (clamp (base - m.unit)) :=
  ⟨Nesting.sound_ofRoot base m.unit, .ofWidth 0⟩

lemma sound_highlightLine (m : Mode) (h : s.Sound base) (line : List Char) :
    (m.highlightLine line s).2.Sound base :=
  (calls_run (m.cursor line) s).sound h

lemma sound_feed (m : Mode) (base : Int) (ls : List (List Char)) :
    (m.feed (m.startState base) ls).Sound (clamp (base - m.unit)) := by
  rw [← stateAfter_linesSteps]
  exact (m.calls_linesSteps _ ls).sound (m.sound_startState base)

lemma sound_afterQuery (h : s.Sound base) (text : List Char) : (afterQuery s text).Sound base := by
  unfold afterQuery
  split
  · exact ⟨h.nesting.mapHead (Context.tame_kind (by simp)), h.indented⟩
  · exact h

/-! ## Operations -/

/-- A document that a mode works on: the column at which it was started, and its state. -/
structure Document where
  base : Int
  state : State

/-- One use of a mode. -/
inductive Operation
  /-- Start a document at a column. -/
  | start (base : Int)
  /-- Read a token at any cursor. -/
  | token (c : Cursor)
  /-- Read a line. -/
  | line (text : List Char)
  /-- Ask how far a line should be indented. -/
  | query (text : List Char)

variable (m : Mode)

/-- A document that starts at a column. -/
def document (base : Int) : Document := ⟨base, m.startState base⟩

/-- The document after an operation. -/
def perform (d : Document) : Operation → Document
  | .start base => m.document base
  | .token c => { d with state := (token c d.state).state }
  | .line text => { d with state := (m.highlightLine text d.state).2 }
  | .query text => { d with state := afterQuery d.state text }

/-- The document after some operations. -/
def performAll (d : Document) (ops : List Operation) : Document := ops.foldl m.perform d

variable {d : Document}

/-- An operation keeps the state sound for the column at which the document was started. -/
lemma sound_perform (h : d.state.Sound (clamp (d.base - m.unit))) (op : Operation) :
    (m.perform d op).state.Sound (clamp ((m.perform d op).base - m.unit)) := by
  cases op with
  | start base => exact m.sound_startState base
  | token c => exact sound_token h c
  | line text => exact m.sound_highlightLine h text
  | query text => exact sound_afterQuery h text

lemma sound_performAll (h : d.state.Sound (clamp (d.base - m.unit))) (ops : List Operation) :
    (m.performAll d ops).state.Sound (clamp ((m.performAll d ops).base - m.unit)) := by
  induction ops generalizing d with
  | nil => exact h
  | cons op ops ih => exact ih (m.sound_perform h op)

/-- **The contexts of a document stay sound, whatever is done.**  From the root to the innermost one: the
root stands where the document has put it, no context above it is a root or stands at a negative column, and
only the innermost one of them may be unsettled. -/
theorem toList_nesting_performAll (base : Int) (ops : List Operation) :
    let d := m.performAll (m.document base) ops
    ∃ root above, d.state.nesting.toList = root :: above ∧
      root.indented = clamp (d.base - m.unit) ∧ root.column = 0 ∧ root.align = .indent ∧
      (∀ x ∈ above, x.kind ≠ .top ∧ 0 ≤ x.indented ∧ 0 ≤ x.column) ∧ 0 ≤ d.state.indented ∧
      ∀ x ∈ (root :: above).dropLast, x.align ≠ .unresolved := by
  intro d
  have h : d.state.Sound (clamp (d.base - m.unit)) := m.sound_performAll (m.sound_startState base) ops
  have hn := h.nesting
  refine ⟨d.state.nesting.root, d.state.nesting.inner.reverse, rfl, hn.root_indented, hn.root_column,
    hn.root_align, ?_, h.indented.1, ?_⟩
  · intro x hx
    rw [List.mem_reverse] at hx
    exact ⟨hn.kind x hx, (hn.indented x hx).1, (hn.column x hx).1⟩
  · intro x hx
    cases hi : d.state.nesting.inner with
    | nil => simp [hi] at hx
    | cons y inner =>
      -- the last one of the list is the innermost context
      rw [hi, List.reverse_cons, ← List.cons_append, List.dropLast_concat, List.mem_cons,
        List.mem_reverse] at hx
      rcases hx with rfl | hx
      · rw [hn.root_align]
        decide
      · exact hn.settled x (by rwa [hi])

end Mode

end GoLayout
