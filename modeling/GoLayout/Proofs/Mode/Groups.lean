import GoLayout.Proofs.Mode.Calls

/-!
# Groups of brackets

A bracket and the one that closes it may stand many lines apart.  If the brackets between them are well
nested, the closing one finds the context of the opening one on top, and gives back the contexts and the
indentation from before it.

Labels need care, because the body of a case is closed by no bracket.  A label inside braces does no harm if
a line starts between it and the closing brace while no other bracket is open, since that turns the body of
the case back into braces.  `Closes` is the grammar of what may follow an opening bracket up to the one that
closes it, and `closes_iff_closesStack` decides it.
-/

namespace GoLayout

open GoLayout.Text GoLayout.Lexis GoLayout.Layout

namespace Mode

/-! ## The grammar -/

/-- Steps that close a bracket: the last one is its closing bracket, and the brackets before are well nested.
A label stands directly in braces, and before the brace is closed a line starts directly in it; `waiting`
tells whether a label is still waiting for that line. -/
inductive Closes : Bracket → Bool → List Step → Prop
  /-- The closing bracket, which may start a line itself. -/
  | close {b : Bracket} {waiting : Bool} {t : Step} (ht : t.scan.signal = some (.punct (.closing b)))
    (hw : waiting = true → t.startsLine = true) : Closes b waiting [t]
  /-- A step that is neither a bracket nor a label. -/
  | plain {b : Bracket} {waiting : Bool} {t : Step} {ts : List Step} (ht : t.scan.isPlain = true)
    (hs : Closes b (waiting && !t.startsLine) ts) : Closes b waiting (t :: ts)
  /-- A label, which waits for a line to start. -/
  | label {waiting : Bool} {t : Step} {ts : List Step} (ht : t.scan.signal = some .caseLabel)
    (hs : Closes .brace true ts) : Closes .brace waiting (t :: ts)
  /-- Another bracket and the steps that close it. -/
  | group {b b' : Bracket} {waiting : Bool} {t : Step} {body ts : List Step}
    (ht : t.scan.signal = some (.punct (.opening b'))) (hb : Closes b' false body)
    (hs : Closes b (waiting && !t.startsLine) ts) : Closes b waiting (t :: (body ++ ts))

/-! ## Deciding the grammar -/

/-- Whether some steps close all the brackets that are open, innermost first, where each of them tells
whether a label in it is waiting for a line to start. -/
def closesStack : List (Bracket × Bool) → List Step → Bool
  | [], ts => ts.isEmpty
  | _ :: _, [] => false
  | (b, waiting) :: outer, t :: ts =>
    let waiting := waiting && !t.startsLine
    match t.scan.signal with
    | some (.punct (.opening b')) => closesStack ((b', false) :: (b, waiting) :: outer) ts
    | some (.punct (.closing b')) => b' = b && !waiting && closesStack outer ts
    | some .caseLabel => b = .brace && closesStack ((b, true) :: outer) ts
    | _ => closesStack ((b, waiting) :: outer) ts

section Stack

variable {b : Bracket} {waiting : Bool} {outer : List (Bracket × Bool)} {t : Step} {ts : List Step}

lemma closesStack_cons_of_isPlain (h : t.scan.isPlain = true) :
    closesStack ((b, waiting) :: outer) (t :: ts)
      = closesStack ((b, waiting && !t.startsLine) :: outer) ts := by
  obtain ⟨hl, ho, hc⟩ := Scan.signal_ne_of_isPlain h
  rw [closesStack]
  split
  · exact absurd ‹_› (ho _)
  · exact absurd ‹_› (hc _)
  · exact absurd ‹_› hl
  · rfl

lemma closesStack_cons_of_label (h : t.scan.signal = some .caseLabel) :
    closesStack ((b, waiting) :: outer) (t :: ts)
      = (decide (b = .brace) && closesStack ((b, true) :: outer) ts) := by
  rw [closesStack, h]

lemma closesStack_cons_of_opening {b' : Bracket} (h : t.scan.signal = some (.punct (.opening b'))) :
    closesStack ((b, waiting) :: outer) (t :: ts)
      = closesStack ((b', false) :: (b, waiting && !t.startsLine) :: outer) ts := by
  rw [closesStack, h]

lemma closesStack_cons_of_closing {b' : Bracket} (h : t.scan.signal = some (.punct (.closing b'))) :
    closesStack ((b, waiting) :: outer) (t :: ts)
      = (decide (b' = b) && !(waiting && !t.startsLine) && closesStack outer ts) := by
  rw [closesStack, h]

/-- Steps that close the innermost bracket leave the outer ones to be closed. -/
lemma Closes.closesStack_append (h : Closes b waiting ts) (outer : List (Bracket × Bool))
    (us : List Step) : closesStack ((b, waiting) :: outer) (ts ++ us) = closesStack outer us := by
  induction h generalizing outer us with
  | @close b waiting t ht hw =>
    have hwait : (waiting && !t.startsLine) = false := by
      cases waiting with
      | false => rfl
      | true => simp [hw rfl]
    rw [List.singleton_append, closesStack_cons_of_closing ht, hwait]
    simp
  | plain ht hs ih => rw [List.cons_append, closesStack_cons_of_isPlain ht, ih]
  | label ht hs ih => rw [List.cons_append, closesStack_cons_of_label ht, ih, decide_eq_true rfl, Bool.true_and]
  | group ht hb hs ihb ihs =>
    rw [List.cons_append, closesStack_cons_of_opening ht, List.append_assoc, ihb, ihs]

lemma exists_closes_of_closesStack (h : closesStack ((b, waiting) :: outer) ts = true) :
    ∃ body rest, ts = body ++ rest ∧ Closes b waiting body ∧ closesStack outer rest = true := by
  -- on the number of steps, as an inner bracket is followed by a part of them
  induction hn : ts.length using Nat.strong_induction_on generalizing b waiting outer ts with
  | _ n ih =>
    cases ts with
    | nil => cases h
    | cons t ts =>
      rw [List.length_cons] at hn
      rcases t.scan.signal_cases with hp | hl | ⟨b', ho | hc⟩
      · rw [closesStack_cons_of_isPlain hp] at h
        obtain ⟨body, rest, rfl, hb, hr⟩ := ih _ (by omega) h rfl
        exact ⟨t :: body, rest, rfl, .plain hp hb, hr⟩
      · rw [closesStack_cons_of_label hl, Bool.and_eq_true, decide_eq_true_iff] at h
        obtain ⟨rfl, h⟩ := h
        obtain ⟨body, rest, rfl, hb, hr⟩ := ih _ (by omega) h rfl
        exact ⟨t :: body, rest, rfl, .label hl hb, hr⟩
      · -- the inner bracket is closed first, and what is left closes the outer one
        rw [closesStack_cons_of_opening ho] at h
        obtain ⟨inner, ts', rfl, hi, h'⟩ := ih _ (by omega) h rfl
        obtain ⟨body, rest, rfl, hb, hr⟩ := ih _ (by simp at hn; omega) h' rfl
        exact ⟨t :: (inner ++ body), rest, by simp, .group ho hi hb, hr⟩
      · rw [closesStack_cons_of_closing hc, Bool.and_eq_true, Bool.and_eq_true, decide_eq_true_iff] at h
        obtain ⟨⟨rfl, hw⟩, hr⟩ := h
        exact ⟨[t], ts, rfl, .close hc fun hwait => by simpa [hwait] using hw, hr⟩

lemma closes_iff_closesStack : Closes b waiting ts ↔ closesStack [(b, waiting)] ts = true := by
  constructor
  · intro h
    have hc := h.closesStack_append [] []
    rw [List.append_nil] at hc
    exact hc
  · intro h
    obtain ⟨body, rest, rfl, hb, hr⟩ := exists_closes_of_closesStack h
    have hnil : rest = [] := by
      cases rest with
      | nil => rfl
      | cons t rest => cases hr
    rwa [hnil, List.append_nil]

instance (b : Bracket) (waiting : Bool) (ts : List Step) : Decidable (Closes b waiting ts) :=
  decidable_of_iff _ closes_iff_closesStack.symm

end Stack

/-! ## The context of an open bracket -/

/-- The kind of a context that a bracket has opened: while a label is waiting, braces may be the body of a
case. -/
def OpenedBy (b : Bracket) (waiting : Bool) (x : Context) : Prop :=
  x.kind = .group b ∨ waiting = true ∧ b = .brace ∧ x.kind = .caseBody

variable {b : Bracket} {waiting : Bool} {x : Context} {t : Step}

lemma OpenedBy.touch (h : OpenedBy b waiting x) (ht : t.scan.signal ≠ some .caseLabel) :
    OpenedBy b (waiting && !t.startsLine) (t.touch x) := by
  unfold OpenedBy
  rw [t.kind_touch x ht]
  rcases h with hk | ⟨rfl, rfl, hk⟩
  · left
    rw [hk]
    split <;> rfl
  · rw [hk]
    cases t.startsLine with
    | true => exact .inl rfl
    | false => exact .inr ⟨rfl, rfl, rfl⟩

/-- A label makes braces the body of a case. -/
lemma OpenedBy.touch_label (h : OpenedBy .brace waiting x) : OpenedBy .brace true (t.touch x) := by
  have hx : x.kind = .group .brace ∨ x.kind = .caseBody := h.imp id fun h => h.2.2
  rcases t.kind_touch_cases x with hk | ⟨hk, -⟩
  · unfold OpenedBy
    rw [hk]
    rcases hx with hx | hx <;> rw [hx] <;> split <;> simp [Kind.onNewLine]
  · exact .inr ⟨rfl, rfl, hk⟩

lemma OpenedBy.kind_eq (h : OpenedBy b false x) : x.kind = .group b := by
  rcases h with hk | ⟨hw, -⟩
  · exact hk
  · cases hw

/-! ## Closing a bracket -/

variable {s : State} {n : Nesting}

/-- Steps that close a bracket give back the contexts beneath that of the bracket, and its indentation. -/
lemma Closes.restores {ts : List Step} (h : Closes b waiting ts) (hc : Calls s ts)
    (hn : s.nesting = n.push x) (hx : OpenedBy b waiting x) :
    (stateAfter ts s).nesting = n ∧ (stateAfter ts s).indented = x.indented := by
  induction h generalizing s n x with
  | @close b waiting t ht hw =>
    cases hc with
    | cons c hc =>
      have hx' := hx.touch (t := token c s) (by simp [ht])
      have hwait : (waiting && !(token c s).startsLine) = false := by
        cases waiting with
        | false => rfl
        | true => simp [hw rfl]
      rw [hwait] at hx'
      exact token_of_closing ht hn hx'.kind_eq
  | @plain b waiting t ts ht hs ih =>
    obtain ⟨hl, ho, hcl⟩ := Scan.signal_ne_of_isPlain ht
    cases hc with
    | cons c hc =>
      have hn' := nesting_token_of_not_bracket ho hcl
      rw [hn, Nesting.mapHead_push] at hn'
      have hi := ih hc hn' (hx.touch hl)
      rwa [Step.indented_touch] at hi
  | @label waiting t ts ht hs ih =>
    cases hc with
    | cons c hc =>
      have hn' := nesting_token_of_not_bracket (c := c) (s := s) (by simp [ht]) (by simp [ht])
      rw [hn, Nesting.mapHead_push] at hn'
      have hi := ih hc hn' hx.touch_label
      rwa [Step.indented_touch] at hi
  | @group b b' waiting t body ts ht hb hs ihb ihs =>
    cases hc with
    | cons c hc =>
      obtain ⟨hcb, hcs⟩ := calls_append_iff.1 hc
      -- the inner bracket is closed first, and leaves the context of the outer one on top
      have hbody := (ihb hcb (nesting_token_of_opening ht) (.inl rfl)).1
      rw [hn, Nesting.mapHead_push] at hbody
      have hi := ihs hcs hbody (hx.touch (by simp [ht]))
      rw [stateAfter_cons, stateAfter_append]
      rwa [Step.indented_touch] at hi

/-- **A closing bracket gives back what was there before its opening one.**  Behind steps that close a
bracket the contexts are those onto which its context was put, and the indentation is the one with which it
was put there. -/
theorem nesting_eq_push_of_closes {o : Step} {ts : List Step} (h : Calls s (o :: ts))
    (ho : o.scan.signal = some (.punct (.opening b))) (hts : Closes b false ts) :
    let closed := stateAfter ts o.state
    o.state.nesting
        = closed.nesting.push ⟨closed.indented, ofWidth o.cursor.column, .group b, .unresolved⟩ ∧
      closed.nesting = s.nesting.mapHead o.touch ∧ closed.indented = o.state.indented := by
  intro closed
  cases h with
  | cons c h =>
    have hn := nesting_token_of_opening ho
    obtain ⟨hcn, hci⟩ := hts.restores h hn (.inl rfl)
    exact ⟨by rw [hn, hcn, hci], hcn, hci⟩

/-- The braces of a switch inside a call: they hold labels, a group that goes over several lines, and brackets
in a string and in comments, which do not count. -/
theorem nesting_behind_switch :
    let s := default.feed (default.startState 0) ["\tf(a[0], func()".toList]
    let ls := ["\x7b case 1: g(\"\x7d\", // (".toList, "   b) /* \x7d".toList, "*/".toList, " default:".toList,
      "  h[x(2)] \x7d".toList]
    let o := token (default.cursor "\x7b case 1: g(\"\x7d\", // (".toList) s
    let ts := (default.linesSteps s ls).tail
    let closed := stateAfter ts o.state
    (Calls s (o :: ts) ∧ o.scan.signal = some (.punct (.opening .brace)) ∧ Closes .brace false ts) ∧
      o.state.nesting
        = closed.nesting.push ⟨closed.indented, ofWidth o.cursor.column, .group .brace, .unresolved⟩ ∧
      closed.nesting = s.nesting.mapHead o.touch ∧ closed.indented = o.state.indented := by
  intro s ls o ts closed
  have hls : default.linesSteps s ls = o :: ts := by decide +kernel
  have hc : Calls s (o :: ts) := by
    rw [← hls]
    exact default.calls_linesSteps s ls
  have ho : o.scan.signal = some (.punct (.opening .brace)) := by decide +kernel
  have hts : Closes .brace false ts := by decide +kernel
  exact ⟨⟨hc, ho, hts⟩, nesting_eq_push_of_closes hc ho hts⟩

end Mode

end GoLayout
