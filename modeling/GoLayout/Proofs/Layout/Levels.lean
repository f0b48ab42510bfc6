import GoLayout.Proofs.Layout.Absorb
import GoLayout.Proofs.Mode.Run

/-!
# Levels

If the lines of a document are layers, each bracket that is left open comes from another line.  Then the
contexts are indented by whole units, one more for each context beneath, and each is aligned one unit deeper
than its line.  `Stacked` says so of the contexts of a line that was started, and `Levelled` of the state
between two lines, where the innermost context may not be settled yet.

A line keeps this up as its nested part leaves the contexts alone: a bracket that is closed on its line gives
back the indentation that its line had when it was opened.
-/

namespace GoLayout

open GoLayout.Text GoLayout.Lexis GoLayout.Layout

/-! ## Nested spans -/

namespace Context

@[simp] lemma onCode_onCode (x : Context) : x.onCode.onCode = x.onCode := by
  simp [onCode]

/-- The root stands one unit left of the document, so that the lines in it start with no blanks. -/
lemma lineColumn_root {unit : Int} (h0 : 0 ≤ unit) (h1 : unit ≤ maxColumn) :
    (root 0 unit).lineColumn unit false = 0 := by
  have h : (root 0 unit).lineColumn unit false = clamp (clamp (0 - unit) + unit) := rfl
  rw [h]
  unfold clamp minColumn maxColumn at *
  omega

lemma isClosedAt_iff {x : Context} {b : Bracket} (h : x.kind = .group b) (text : List Char) :
    x.isClosedAt text = true ↔ text.head? = some b.closer := by
  simp [isClosedAt, h, Kind.closer?, Kind.bracket?]

@[simp] lemma lineColumn_onNewLine (x : Context) : x.onNewLine.lineColumn = x.lineColumn := by
  funext unit closing
  unfold lineColumn onNewLine
  cases x.align <;> rfl

lemma isClosedAt_onNewLine {x : Context} (h : x.kind ≠ .caseBody) : x.onNewLine.isClosedAt = x.isClosedAt := by
  have hk : x.onNewLine.kind = x.kind := by
    unfold onNewLine Kind.onNewLine
    cases hx : x.kind with
    | caseBody => exact absurd hx h
    | _ => rfl
  funext text
  rw [isClosedAt, hk, isClosedAt]

end Context

namespace State

/-- The contexts and the indentation are those of another state, but for the innermost context, which code
may have settled. -/
structure Keeps (s t : State) : Prop where
  nesting : t.nesting = s.nesting ∨ t.nesting = s.nesting.mapHead Context.onCode
  indented : t.indented = s.indented

variable {s t u : State}

@[refl] lemma Keeps.refl (s : State) : s.Keeps s := ⟨.inl rfl, rfl⟩

@[trans] lemma Keeps.trans (h : s.Keeps t) (h' : t.Keeps u) : s.Keeps u := by
  refine ⟨?_, h'.indented.trans h.indented⟩
  rcases h'.nesting with hu | hu <;> rcases h.nesting with ht | ht
  · exact .inl (hu.trans ht)
  · exact .inr (hu.trans ht)
  · exact .inr (by rw [hu, ht])
  · exact .inr (by simp [hu, ht])

lemma Keeps.nesting_eq (h : s.Keeps t) (hs : s.nesting.mapHead Context.onCode = s.nesting) :
    t.nesting = s.nesting :=
  h.nesting.elim id fun e => e.trans hs

lemma keeps_absorb_of_isPlain {r : Scan} (h : r.isPlain = true) (column : Int) (s : State) :
    s.Keeps (s.absorb column r) := by
  cases hc : r.isCode with
  | false =>
    rw [absorb_of_not_isCode hc]
    exact ⟨.inl rfl, rfl⟩
  | true =>
    rw [absorb_of_isPlain hc h]
    exact ⟨.inr rfl, rfl⟩

/-- A bracket that is closed gives back the contexts and the indentation from before it was opened. -/
lemma keeps_absorb_closing {o c : Scan} {b : Bracket} {column column' : Int} (hoc : o.isCode = true)
    (ho : o.signal = some (.punct (.opening b))) (hcc : c.isCode = true)
    (hc : c.signal = some (.punct (.closing b))) (hk : (s.absorb column o).Keeps t) :
    s.Keeps (t.absorb column' c) := by
  rw [absorb_opening hoc ho] at hk
  -- what is inside may have settled the context of the bracket, and nothing else
  obtain ⟨x, hn, hx, hi⟩ : ∃ x, t.nesting = (s.nesting.mapHead Context.onCode).push x ∧
      x.kind = .group b ∧ x.indented = s.indented := by
    rcases hk.nesting with hn | hn
    · exact ⟨_, hn, rfl, rfl⟩
    · exact ⟨_, hn, rfl, rfl⟩
  rw [absorb_closing hcc hc hn hx]
  exact ⟨.inr rfl, hi⟩

lemma keeps_absorbAll_of_nested {rs : List Scan} (h : Nested rs)
    (hc : ∀ r ∈ rs, r.signal ≠ none → r.isCode = true) (tabSize column : Nat) (s : State) :
    s.Keeps (absorbAll tabSize column rs s) := by
  induction h generalizing column s with
  | nil => exact .refl s
  | plain hr hs ih =>
    rw [absorbAll_cons]
    exact (keeps_absorb_of_isPlain hr _ s).trans (ih (fun t ht => hc t (by simp [ht])) _ _)
  | @group o c b body rs ho hb hcl hs ihb ihs =>
    have hoc : o.isCode = true := hc o (by simp) (by simp [ho])
    have hcc : c.isCode = true := hc c (by simp) (by simp [hcl])
    have hbody := ihb (fun t ht => hc t (by simp [ht])) (columnFrom tabSize column o.text)
      (s.absorb (ofWidth column) o)
    rw [absorbAll_cons, absorbAll_append, absorbAll_cons]
    exact (keeps_absorb_closing hoc ho hcc hcl hbody).trans (ihs (fun t ht => hc t (by simp [ht])) _ _)

/-- Blanks and comments do not even settle the innermost context. -/
lemma absorbAll_of_not_isCode {rs : List Scan} (h : ∀ r ∈ rs, r.isCode = false) (tabSize column : Nat)
    (s : State) :
    absorbAll tabSize column rs s = { s with continuation := continuationAfter rs s.continuation } := by
  induction rs generalizing column s with
  | nil => rfl
  | cons r rs ih =>
    obtain ⟨hr, hrs⟩ := List.forall_mem_cons.1 h
    rw [absorbAll_cons, ih hrs, absorb_of_not_isCode hr, continuationAfter_cons]

lemma absorbAll_indentSpan {k : Continuation} (h : s.continuation = k) (tabSize column : Nat)
    (line : List Char) : absorbAll tabSize column (indentSpan k line) s = s := by
  rw [absorbAll_of_not_isCode fun _ => isCode_of_mem_indentSpan, h, continuationAfter_indentSpan, ← h]

end State

/-! ## Stacks of contexts -/

/-- Contexts above the root of a document that are indented by whole units, one more for each context
beneath, and aligned one unit deeper. -/
inductive Stacked (unit : Int) : List Bracket → Nesting → Prop
  | root : Stacked unit [] (.ofRoot (.root 0 unit))
  | push {opened : List Bracket} {n : Nesting} (b : Bracket) (column : Int) (h : Stacked unit opened n) :
    Stacked unit (b :: opened) (n.push ⟨unit * opened.length, column, .group b, .indent⟩)

namespace Stacked

variable {unit : Int} {opened : List Bracket} {n : Nesting}

lemma exists_push {b : Bracket} (h : Stacked unit (b :: opened) n) :
    ∃ n' column, n = n'.push ⟨unit * opened.length, column, .group b, .indent⟩ ∧ Stacked unit opened n' := by
  cases h with
  | push b column h => exact ⟨_, column, rfl, h⟩

lemma mapHead_onCode (h : Stacked unit opened n) : n.mapHead Context.onCode = n := by
  cases h <;> rfl

lemma mapHead_onNewLine (h : Stacked unit opened n) : n.mapHead Context.onNewLine = n := by
  cases h <;> rfl

lemma kind_head (h : Stacked unit opened n) : n.head.kind ≠ .caseBody := by
  cases h <;> simp [Nesting.ofRoot, Nesting.head, Nesting.push, Context.root]

/-- A line stands as many units deep as brackets stay open around it. -/
lemma lineColumn_head (h : Stacked unit opened n) (h0 : 0 ≤ unit) (h1 : unit ≤ maxColumn)
    {text : List Char} (hl : unit * level opened text ≤ maxColumn) :
    n.head.lineColumn unit (n.head.isClosedAt (trimStart text)) = unit * level opened text := by
  cases h with
  | root =>
    have hc : (Nesting.ofRoot (.root 0 unit)).head.isClosedAt (trimStart text) = false := rfl
    rw [hc, level, Int.natCast_zero, Int.mul_zero]
    exact Context.lineColumn_root h0 h1
  | @push opened n b column h =>
    have hn : 0 ≤ unit * level (b :: opened) text := Int.mul_nonneg h0 (Int.natCast_nonneg _)
    have hm : clamp (unit * level (b :: opened) text) = unit * level (b :: opened) text :=
      clamp_of_mem (by unfold minColumn; omega) hl
    rw [Nesting.head_push, ← hm, level]
    set x : Context := ⟨unit * opened.length, column, .group b, .indent⟩
    have hx : x.isClosedAt (trimStart text) = true ↔ _ := Context.isClosedAt_iff rfl _
    by_cases ht : (trimStart text).head? = some b.closer
    · rw [if_pos ht, hx.2 ht]
      simp [Context.lineColumn, x]
    · rw [if_neg ht, Bool.eq_false_iff.2 (hx.not.2 ht)]
      simp [Context.lineColumn, x, Int.mul_add]

end Stacked

/-- A state between two lines in which the contexts are stacked once the next line starts. -/
structure Levelled (unit : Int) (opened : List Bracket) (s : State) : Prop where
  continuation : s.continuation = .code
  kind : s.head.kind ≠ .caseBody
  stacked : Stacked unit opened (s.nesting.mapHead Context.onNewLine)

namespace Levelled

variable {unit : Int} {opened : List Bracket} {s : State}

lemma ofRoot (unit : Int) : Levelled unit [] (.ofRoot (.root 0 unit)) where
  continuation := rfl
  kind := by simp [State.ofRoot, State.head, Nesting.ofRoot, Nesting.head, Context.root]
  stacked := .root

/-- Settled contexts are stacked between two lines. -/
lemma of_stacked (hc : s.continuation = .code) (h : Stacked unit opened s.nesting) :
    Levelled unit opened s where
  continuation := hc
  kind := h.kind_head
  stacked := h.mapHead_onNewLine.symm ▸ h

/-- A bracket that was opened last is settled when the next line starts. -/
lemma of_push {n : Nesting} {b : Bracket} {column : Int} (hc : s.continuation = .code)
    (h : Stacked unit opened n)
    (hs : s.nesting = n.push ⟨unit * opened.length, column, .group b, .unresolved⟩) :
    Levelled unit (b :: opened) s where
  continuation := hc
  kind := by simp [State.head, hs]
  stacked := by
    rw [hs]
    exact .push b column h

end Levelled

/-! ## Layers -/

section Layers

variable {unit : Int} {opened : List Bracket} (tabSize column : Nat) {s : State}

/-- A line that closes a bracket first is indented as the line that opened it. -/
lemma stacked_absorbAll_of_closesFirst {lead : List Scan} (h : closesFirst opened lead = true)
    (hc : ∀ r ∈ lead, r.signal ≠ none → r.isCode = true) (hs : Stacked unit opened s.nesting)
    (hi : s.indented = unit * (lead.foldl openAfter opened).length) :
    Stacked unit (lead.foldl openAfter opened) (s.absorbAll tabSize column lead).nesting ∧
      (s.absorbAll tabSize column lead).indented = unit * (lead.foldl openAfter opened).length := by
  rcases closesFirst_cases h with rfl | ⟨b, outer, r, rfl, rfl, hr⟩
  · exact ⟨hs, hi⟩
  · obtain ⟨n, x, hn, hs⟩ := hs.exists_push
    have hrc : r.isCode = true := hc r (by simp) (by simp [hr])
    have ho : [r].foldl openAfter (b :: outer) = outer := openAfter_of_closing hr (b :: outer)
    rw [ho, State.absorbAll_cons, State.absorb_closing hrc hr hn rfl]
    exact ⟨hs, rfl⟩

/-- A line that opens a bracket last opens it one level deeper than all that were open before. -/
lemma levelled_absorbAll_of_opensLast {tail : List Scan} (h : opensLast tail = true)
    (hc : ∀ r ∈ tail, r.signal ≠ none → r.isCode = true) (hs : Stacked unit opened s.nesting)
    (hi : s.indented = unit * opened.length)
    (hk : (s.absorbAll tabSize column tail).continuation = .code) :
    Levelled unit (tail.foldl openAfter opened) (s.absorbAll tabSize column tail) := by
  rcases opensLast_cases h with rfl | ⟨b, r, rest, rfl, hr, hrest⟩
  · exact .of_stacked hk hs
  · have hrc : r.isCode = true := hc r (by simp) (by simp [hr])
    have hcrest : ∀ t ∈ rest, t.signal ≠ none → t.isCode = true := fun t ht => hc t (by simp [ht])
    rw [List.foldl_cons, openAfter_of_opening hr, foldl_openAfter_of_not_isCode hrest hcrest]
    have hn : (s.absorbAll tabSize column (r :: rest)).nesting
        = s.nesting.push ⟨unit * opened.length, ofWidth column, .group b, .unresolved⟩ := by
      rw [State.absorbAll_cons, State.absorbAll_of_not_isCode hrest, State.absorb_opening hrc hr,
        hs.mapHead_onCode, hi]
    exact .of_push hk hs hn

/-- A layer that is indented by its level keeps the contexts stacked. -/
lemma levelled_absorbAll_of_layer {text : List Char} (h : Layer opened text)
    (hs : Stacked unit opened s.nesting) (hi : s.indented = unit * level opened text)
    (hk : (s.absorbAll tabSize column (readLine .code (trimStart text))).continuation = .code) :
    Levelled unit ((readLine .code (trimStart text)).foldl openAfter opened)
      (s.absorbAll tabSize column (readLine .code (trimStart text))) := by
  have hc : ∀ r ∈ readLine .code (trimStart text), r.signal ≠ none → r.isCode = true :=
    fun r hr => isCode_of_mem_readLine hr
  obtain ⟨lead, mid, tail, hrs, hlead, hmid, htail⟩ := h.shape
  rw [level_eq_length hrs hlead hmid htail] at hi
  -- each part of the line hands its state on to the next one
  rw [hrs] at hc hk ⊢
  rw [State.absorbAll_append, State.absorbAll_append] at hk ⊢
  rw [List.foldl_append, List.foldl_append, hmid.foldl_openAfter]
  obtain ⟨hs, hi⟩ := stacked_absorbAll_of_closesFirst tabSize column hlead
    (fun r hr => hc r (by simp [hr])) hs hi
  generalize s.absorbAll tabSize column lead = t at hs hi hk ⊢
  have hkeep := State.keeps_absorbAll_of_nested hmid (fun r hr => hc r (by simp [hr])) tabSize
    (columnFrom tabSize column (lead.flatMap Scan.text)) t
  rw [← hkeep.nesting_eq hs.mapHead_onCode] at hs
  exact levelled_absorbAll_of_opensLast tabSize _ htail (fun r hr => hc r (by simp [hr])) hs
    (hkeep.indented.trans hi) hk

end Layers

end GoLayout
