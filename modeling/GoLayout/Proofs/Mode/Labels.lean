import GoLayout.Proofs.Lexis.Labels
import GoLayout.Proofs.Mode.ClosingLines
import GoLayout.Proofs.Mode.Root

/-!
# Pending labels

The context of a bracket is changed only by the steps that are read while it is the innermost one, and what such a step
does to it is `Step.touch`.  So the kind of the context is known from these steps alone: a label makes the body of a case
of it, and a line that starts turns that back.  A label is *pending* in the context from the one to the other, however
many brackets are opened and closed on the lines between them.

A line that starts with a label is suggested the indentation of the bracket's line if a label is pending, and the column
of any other line in the bracket if none is.
-/

namespace GoLayout

open GoLayout.Text GoLayout.Lexis GoLayout.Layout

namespace Mode

/-! ## The steps in a context -/

/-- The steps that are read while as many contexts as `depth` are open, if `now` of them are open at first. -/
def directIn (depth : Nat) : Nat → List Step → List Step
  | _, [] => []
  | now, t :: ts => (if now = depth then [t] else []) ++ directIn depth t.state.nesting.depth ts

/-- Whether a label is pending behind some steps in a context: no line has started in it since the label. -/
def labelPending (ts : List Step) : Bool :=
  ts.foldl (fun pending t => decide (t.scan.signal = some .caseLabel) || pending && !t.startsLine) false

/-- Whether a label is pending in the context that a bracket has opened, behind the steps since then. -/
def labelPendingSince (o : Step) (since : List Step) : Bool :=
  labelPending (directIn o.state.nesting.depth o.state.nesting.depth since)

variable {s : State} {ts : List Step} {above below : List Context} {x : Context}

lemma mem_of_mem_directIn {depth now : Nat} {t : Step} (h : t ∈ directIn depth now ts) : t ∈ ts := by
  induction ts generalizing now with
  | nil => exact h
  | cons u ts ih =>
    rw [directIn, List.mem_append] at h
    rcases h with h | h
    · split at h
      · exact List.mem_singleton.1 h ▸ List.mem_cons_self
      · cases h
    · exact List.mem_cons_of_mem u (ih h)

/-- While a context stays open, the steps that are read directly in it are all that changes it. -/
lemma exists_inner_stateAfter (hc : Calls s ts) (hopen : ∀ t ∈ ts, below.length + 1 < t.state.nesting.depth)
    (h : s.nesting.inner = above ++ x :: below) :
    ∃ above', (stateAfter ts s).nesting.inner
      = above' ++ (directIn (below.length + 2) s.nesting.depth ts).foldl (fun x t => t.touch x) x :: below := by
  induction hc generalizing above x with
  | nil s => exact ⟨above, h⟩
  | @cons c s ts hc ih =>
    obtain ⟨ht, hts⟩ := List.forall_mem_cons.1 hopen
    obtain ⟨above', h', -⟩ := exists_inner_token h c ht
    obtain ⟨above'', h''⟩ := ih hts h'
    refine ⟨above'', ?_⟩
    -- the context is the innermost one exactly if the step is read directly in it
    have hdepth : s.nesting.depth = below.length + 2 ↔ above = [] := by
      rw [Nesting.depth, h, List.length_append, List.length_cons, ← List.length_eq_zero_iff]
      omega
    rw [stateAfter_cons, h'', directIn, List.foldl_append]
    by_cases ha : above = []
    · rw [if_pos ha, if_pos (hdepth.2 ha)]
      rfl
    · rw [if_neg ha, if_neg (hdepth.not.2 ha)]
      rfl

/-! ## The kind of the context -/

/-- Behind a step a context is the body of a case if the step was a label, or if the context was one before and the step
has not started a line. -/
lemma kind_touch_eq_caseBody_iff {t : Step} (ht : t.scan.signal = some .caseLabel → t.scan.isCode = true)
    (x : Context) :
    (t.touch x).kind = .caseBody ↔
      t.scan.signal = some .caseLabel ∨ x.kind = .caseBody ∧ t.startsLine = false := by
  by_cases hl : t.scan.signal = some .caseLabel
  · exact iff_of_true (Step.kind_touch_of_label (ht hl) hl x) (.inl hl)
  · have hline : x.kind.onNewLine ≠ .caseBody := by
      cases x.kind <;> simp [Kind.onNewLine]
    rw [t.kind_touch x hl]
    cases hs : t.startsLine with
    | true => simp [hl, hline]
    | false => simp [hl]

/-- Steps that are read directly in a context make the body of a case of it exactly if they leave a label pending. -/
lemma kind_foldl_touch_eq_caseBody_iff
    (hts : ∀ t ∈ ts, t.scan.signal = some .caseLabel → t.scan.isCode = true) (hx : x.kind ≠ .caseBody) :
    (ts.foldl (fun x t => t.touch x) x).kind = .caseBody ↔ labelPending ts = true := by
  suffices h : ∀ (pending : Bool) (x : Context), (x.kind = .caseBody ↔ pending = true) →
      ((ts.foldl (fun x t => t.touch x) x).kind = .caseBody ↔
        ts.foldl (fun pending t => decide (t.scan.signal = some .caseLabel) || pending && !t.startsLine) pending
          = true) from
    h false x (iff_of_false hx Bool.false_ne_true)
  induction ts with
  | nil => exact fun _ _ h => h
  | cons t ts ih =>
    obtain ⟨ht, hts⟩ := List.forall_mem_cons.1 hts
    intro pending x hp
    refine ih hts _ _ ?_
    rw [kind_touch_eq_caseBody_iff ht, hp]
    simp

lemma Calls.isCode_of_signal (hc : Calls s ts) {t : Step} (ht : t ∈ ts) (h : t.scan.signal ≠ none) :
    t.scan.isCode = true := by
  induction hc with
  | nil s => cases ht
  | cons c hc ih =>
    rcases List.mem_cons.1 ht with rfl | ht
    · exact isCode_of_signal_read h
    · exact ih ht

/-! ## Lines that start with a label -/

lemma isClosedAt_of_startsWithLabel {text : List Char} (h : startsWithLabel text = true) (x : Context) :
    x.isClosedAt text = false := by
  rw [Bool.eq_false_iff]
  intro hclosed
  cases hk : x.kind with
  | group b =>
    rw [startsWithLabel_of_closer ((Context.isClosedAt_iff hk text).1 hclosed)] at h
    cases h
  | _ => simp [Context.isClosedAt, hk, Kind.closer?, Kind.bracket?] at hclosed

lemma suggestion?_of_startsWithLabel (m : Mode) {line : List Char} (hk : s.continuation = .code)
    (hl : startsWithLabel (trimStart line) = true) :
    m.suggestion? s line = some (
      if s.head.kind = .caseBody then s.head.indented else s.head.lineColumn m.unit false) := by
  simp only [suggestion?, hk, ne_eq, not_true_eq_false, if_false, hl, and_true,
    isClosedAt_of_startsWithLabel hl]
  split <;> rfl

/-- The column of a line in the context of a bracket, behind the steps since the bracket: next to the bracket if code
follows it on its line, and otherwise a unit deeper than that line. -/
def columnSince (m : Mode) (o : Step) (since : List Step) : Int :=
  if alignAfter since = .column then clamp (ofWidth o.cursor.column + 1) else clamp (o.state.indented + m.unit)

/-- A label directly in the context of a bracket is suggested the indentation of the bracket's line if a label is
pending there, and otherwise the column of any other line in the context. -/
lemma suggestion?_of_label_since (m : Mode) {o : Step} {b : Bracket} {since : List Step} {line : List Char}
    (hc : Calls s (o :: since)) (ho : o.scan.signal = some (.punct (.opening b)))
    (hopen : ∀ t ∈ since, o.state.nesting.depth ≤ t.state.nesting.depth)
    (hd : (stateAfter since o.state).nesting.depth = o.state.nesting.depth)
    (hk : (stateAfter since o.state).continuation = .code) (hl : startsWithLabel (trimStart line) = true) :
    m.suggestion? (stateAfter since o.state) line = some (
      if labelPendingSince o since then o.state.indented else m.columnSince o since) := by
  cases hc with
  | cons c hc =>
    have hinner := inner_token_of_opening ho
    generalize hb : (token c s).state.nesting.inner.tail = below at hinner
    have hlen : (token c s).state.nesting.depth = below.length + 2 := by
      rw [Nesting.depth, hinner, List.length_cons]
    have hdepth : ∀ t ∈ since, below.length + 1 < t.state.nesting.depth := by
      intro t ht
      have := hopen t ht
      omega
    -- alignment and place come from one account of the steps, the kind from the other
    obtain ⟨above, kind, hn, -⟩ := stands_calls hc hdepth ⟨[], _, hinner, fun _ => rfl⟩
    obtain ⟨above', hn'⟩ := exists_inner_stateAfter hc hdepth (hinner.trans (List.nil_append _).symm)
    have habove : above = [] ∧ above' = [] := by
      rw [Nesting.depth] at hd
      have h1 := congrArg List.length hn
      have h2 := congrArg List.length hn'
      rw [List.length_append, List.length_cons] at h1 h2
      rw [← List.length_eq_zero_iff, ← List.length_eq_zero_iff]
      omega
    obtain ⟨rfl, rfl⟩ := habove
    rw [Align.settle_unresolved] at hn
    have hhead : (stateAfter since (token c s).state).head
        = ⟨(token c s).state.indented, ofWidth (token c s).cursor.column, kind, alignAfter since⟩ := by
      rw [State.head, Nesting.head, hn]
      rfl
    have hkind : kind = .caseBody ↔ labelPendingSince (token c s) since = true := by
      have hcode : ∀ t ∈ directIn (below.length + 2) (token c s).state.nesting.depth since,
          t.scan.signal = some .caseLabel → t.scan.isCode = true :=
        fun t ht hsig => hc.isCode_of_signal (mem_of_mem_directIn ht) (by simp [hsig])
      have hne : Kind.group b ≠ .caseBody := by simp
      rw [hn] at hn'
      have hx : kind = _ := congrArg Context.kind (List.cons.inj hn').1
      rw [hx, kind_foldl_touch_eq_caseBody_iff hcode hne, labelPendingSince, ← hlen]
    rw [m.suggestion?_of_startsWithLabel hk hl, hhead]
    refine congrArg some (if_congr hkind rfl ?_)
    rw [columnSince, Context.lineColumn]
    cases alignAfter since <;> simp

end Mode

end GoLayout
