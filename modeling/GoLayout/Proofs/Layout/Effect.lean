import GoLayout.Proofs.Layout.Absorb

/-!
# The effect of a span

Whatever a span is, it does no more to the contexts than this: it touches the innermost one, and then it
leaves them alone, opens one above them, or closes the innermost one.  `effect_absorb` says so together with
what decides between the three.  What spans keep or change is shown by these three cases from here on, and
not by the branches of the layout.
-/

namespace GoLayout

open GoLayout.Lexis

/-! ## Settling -/

namespace Align

@[simp] lemma settle_unresolved_right (a : Align) : a.settle .unresolved = a := by
  cases a <;> rfl

lemma settle_of_ne {a : Align} (h : a ≠ .unresolved) (b : Align) : a.settle b = a := by
  cases a with
  | unresolved => exact absurd rfl h
  | _ => rfl

/-- What is settled first stays. -/
lemma settle_assoc (a b c : Align) : (a.settle b).settle c = a.settle (b.settle c) := by
  cases a <;> rfl

end Align

/-! ## The innermost context -/

namespace Nesting

variable {n k : Nesting} {x y : Context}

@[simp] lemma mapHead_id (n : Nesting) : n.mapHead (fun x => x) = n := by
  obtain ⟨_ | ⟨x, inner⟩, root⟩ := n <;> rfl

@[simp] lemma mapHead_push (f : Context → Context) (x : Context) (n : Nesting) :
    (n.push x).mapHead f = n.push (f x) := rfl

@[simp] lemma inner_mapHead_eq_nil_iff (f : Context → Context) (n : Nesting) :
    (n.mapHead f).inner = [] ↔ n.inner = [] := by
  obtain ⟨_ | ⟨x, inner⟩, root⟩ := n <;> simp [mapHead]

lemma push_inj (h : n.push x = k.push y) : n = k ∧ x = y := by
  obtain ⟨inner, root⟩ := n
  obtain ⟨inner', root'⟩ := k
  simp only [push, Nesting.mk.injEq, List.cons.injEq] at h
  obtain ⟨⟨hx, hi⟩, hr⟩ := h
  exact ⟨by rw [hi, hr], hx⟩

/-- If more than the root is open, the innermost context stands on others. -/
lemma exists_eq_push (h : n.inner ≠ []) : ∃ k : Nesting, n = k.push n.head := by
  obtain ⟨_ | ⟨x, inner⟩, root⟩ := n
  · exact absurd rfl h
  · exact ⟨⟨inner, root⟩, rfl⟩

end Nesting

namespace Context

/-- What a span does to the innermost context before it opens or closes one. -/
def onSpan (r : Scan) (x : Context) : Context :=
  if r.isCode then
    if r.signal = some .caseLabel then { x.onCode with kind := .caseBody } else x.onCode
  else x

variable (r : Scan) (x : Context)

@[simp] lemma indented_onSpan : (x.onSpan r).indented = x.indented := by
  unfold onSpan
  split
  · split <;> rfl
  · rfl

@[simp] lemma column_onSpan : (x.onSpan r).column = x.column := by
  unfold onSpan
  split
  · split <;> rfl
  · rfl

/-- Code settles a context to the column of its bracket. -/
lemma align_onSpan : (x.onSpan r).align = x.align.settle (if r.isCode then .column else .unresolved) := by
  unfold onSpan
  cases hc : r.isCode with
  | false => simp
  | true =>
    rw [if_pos rfl, if_pos rfl]
    split <;> rfl

lemma kind_onSpan_cases :
    (x.onSpan r).kind = x.kind ∨ (x.onSpan r).kind = .caseBody ∧ r.signal = some .caseLabel := by
  unfold onSpan
  split
  · split
    · exact .inr ⟨rfl, ‹_›⟩
    · exact .inl rfl
  · exact .inl rfl

end Context

/-! ## The three effects -/

namespace State

variable {s : State} {column : Int} {r : Scan}

/-- A label turns the innermost context into the body of a case. -/
lemma absorb_label (h : r.isCode = true) (hs : r.signal = some .caseLabel) :
    s.absorb column r
      = ⟨r.continuation, s.nesting.mapHead fun x => { x.onCode with kind := .caseBody }, s.indented, false⟩ := by
  simp [absorb, h, hs, mapHead, follow, startCase]

/-- A closing bracket of another kind than the innermost context closes nothing, and neither does one for
which only the root is open. -/
lemma absorb_closing_of_unmatched {b : Bracket} (h : r.isCode = true)
    (hs : r.signal = some (.punct (.closing b)))
    (hn : s.nesting.inner ≠ [] → s.nesting.head.kind ≠ .group b) :
    s.absorb column r = ⟨r.continuation, s.nesting.mapHead Context.onCode, s.indented, false⟩ := by
  obtain ⟨k, ⟨inner, root⟩, indented, startOfLine⟩ := s
  cases inner with
  | nil => simp [absorb, h, hs, mapHead, follow, closeContext, Nesting.mapHead, Nesting.pop?]
  | cons x inner =>
    have hx : x.kind ≠ .group b := hn (List.cons_ne_nil x inner)
    simp [absorb, h, hs, mapHead, follow, head, Nesting.mapHead, Nesting.head, Kind.closedBy,
      Context.onCode, hx]

/-- The effect of a span at a column on contexts whose innermost one it has touched, in a line of a given
indentation. -/
inductive Effect (r : Scan) (column : Int) (n : Nesting) (indented : Int) (t : State) : Prop
  /-- The span is no opening bracket, and not the one that closes the innermost context. -/
  | stays (not_opening : ∀ b, r.signal ≠ some (.punct (.opening b)))
      (not_closing : ∀ b, r.signal = some (.punct (.closing b)) → n.inner ≠ [] → n.head.kind ≠ .group b)
      (nesting : t.nesting = n) (indent : t.indented = indented)
  /-- The span is an opening bracket. -/
  | opens (b : Bracket) (signal : r.signal = some (.punct (.opening b))) (code : r.isCode = true)
      (nesting : t.nesting = n.push ⟨indented, column, .group b, .unresolved⟩)
      (indent : t.indented = indented)
  /-- The span is the bracket that closes the innermost context. -/
  | closes (b : Bracket) (x : Context) (signal : r.signal = some (.punct (.closing b)))
      (kind : x.kind = .group b) (nesting : n = t.nesting.push x) (indent : t.indented = x.indented)

/-- **A span touches the innermost context, and then it leaves the contexts alone, opens one or closes
one.** -/
theorem effect_absorb (hr : r.signal ≠ none → r.isCode = true) (column : Int) (s : State) :
    Effect r column (s.nesting.mapHead (Context.onSpan r)) s.indented (s.absorb column r) := by
  cases hc : r.isCode with
  | false =>
    have hs : r.signal = none := by
      by_contra h
      rw [hr h] at hc
      cases hc
    have hf : Context.onSpan r = fun x => x := by
      funext x
      simp [Context.onSpan, hc]
    rw [absorb_of_not_isCode hc, hf, Nesting.mapHead_id]
    exact .stays (by simp [hs]) (by simp [hs]) rfl rfl
  | true =>
    -- a label is treated apart; any other span of code only settles the innermost context first
    have hcode : r.signal ≠ some .caseLabel → Context.onSpan r = Context.onCode := by
      intro hl
      funext x
      simp [Context.onSpan, hc, hl]
    rcases r.signal_cases with hp | hl | ⟨b, ho | hcl⟩
    · obtain ⟨hl, ho, hcl⟩ := Scan.signal_ne_of_isPlain hp
      rw [absorb_of_isPlain hc hp, hcode hl]
      exact .stays ho (fun b hb => absurd hb (hcl b)) rfl rfl
    · have hlabel : Context.onSpan r = fun x => { x.onCode with kind := .caseBody } := by
        funext x
        simp [Context.onSpan, hc, hl]
      rw [absorb_label hc hl, hlabel]
      exact .stays (by simp [hl]) (by simp [hl]) rfl rfl
    · rw [absorb_opening hc ho, hcode (by simp [ho])]
      exact .opens b ho hc rfl rfl
    · -- the bracket closes the innermost context if there is one above the root, and it is of its kind
      rw [hcode (by simp [hcl])]
      by_cases hm : s.nesting.inner ≠ [] ∧ s.nesting.head.kind = .group b
      · obtain ⟨hne, hk⟩ := hm
        obtain ⟨n, hn⟩ := Nesting.exists_eq_push hne
        rw [absorb_closing hc hcl hn hk]
        exact .closes b s.nesting.head.onCode hcl hk (by rw [hn]; rfl) rfl
      · have hm' : s.nesting.inner ≠ [] → s.nesting.head.kind ≠ .group b := fun h h' => hm ⟨h, h'⟩
        rw [absorb_closing_of_unmatched hc hcl hm']
        refine .stays (by simp [hcl]) (fun b' hb' hne => ?_) rfl rfl
        have hb : b' = b := by simpa [hcl] using hb'.symm
        rw [hb, Nesting.head_mapHead]
        exact hm' (by simpa using hne)

end State

end GoLayout
