import GoLayout.Proofs.Layout.Levels
import GoLayout.Proofs.Mode.Soundness

/-!
# Alignment

How the lines in a bracket are aligned is settled once, by what follows the bracket on its line: code aligns
them to the column of the bracket, and if there is none, the next line that starts indents them by a unit.
However many brackets are opened and closed above its context meanwhile, the context keeps its place and what
was settled.

The proof goes through the calls behind the bracket, with the contexts split into those above the context of
the bracket, that context, and those beneath it (`stands_token`, `stands_calls`).  The context can only
be unsettled while it is the innermost one, and only then can a step settle it.
-/

namespace GoLayout

open GoLayout.Text GoLayout.Lexis GoLayout.Layout

namespace Mode

/-! ## Settling -/

/-- The steps before a new line starts. -/
def restOfLine (ts : List Step) : List Step := ts.takeWhile fun t => !t.startsLine

/-- How the context of a bracket is aligned after the steps that have followed the bracket: to the column if
one on the same line has read something other than blanks and comments, and otherwise by a unit if a new line
has started. -/
def alignAfter (ts : List Step) : Align :=
  if ∃ t ∈ restOfLine ts, HasSolid t.scan.text ∧ t.scan.style ≠ some .comment then .column
  else if ∃ t ∈ ts, t.startsLine = true then .indent
  else .unresolved

variable {s : State} {ts us : List Step}

@[simp] lemma alignAfter_nil : alignAfter [] = .unresolved := rfl

/-- The first step that settles decides. -/
lemma alignAfter_token_cons (c : Cursor) (s : State) (ts : List Step) :
    alignAfter (token c s :: ts) = (token c s).alignment.settle (alignAfter ts) := by
  have hcode : (token c s).scan.isCode = true ↔
      HasSolid (token c s).scan.text ∧ (token c s).scan.style ≠ some .comment := isCode_read_iff _ _
  generalize token c s = t at hcode ⊢
  unfold alignAfter Step.alignment restOfLine
  by_cases hl : t.startsLine = true
  · simp [hl, Align.settle]
  · by_cases hc : t.scan.isCode = true
    · have hc' := hcode.1 hc
      simp [hl, hc, hc', Align.settle]
    · have hc' : ¬(HasSolid t.scan.text ∧ t.scan.style ≠ some .comment) := hcode.not.1 hc
      simp [hl, hc, hc']

lemma alignAfter_append (h : Calls s (ts ++ us)) :
    alignAfter (ts ++ us) = (alignAfter ts).settle (alignAfter us) := by
  induction ts generalizing s with
  | nil => rfl
  | cons t ts ih =>
    cases h with
    | cons c h => rw [List.cons_append, alignAfter_token_cons, ih h, alignAfter_token_cons, Align.settle_assoc]

/-! ## A context that stays open -/

variable {above below : List Context} {x : Context}

/-- A token that leaves a context open touches it if it is the innermost one, and leaves it alone otherwise.  If the token
opens another context above it, then it settles it as well. -/
lemma exists_inner_token (h : s.nesting.inner = above ++ x :: below) (c : Cursor)
    (hopen : below.length + 1 < (token c s).state.nesting.depth) :
    ∃ above', (token c s).state.nesting.inner
        = above' ++ (if above = [] then (token c s).touch x else x) :: below ∧
      (above = [] → ((token c s).touch x).align = .unresolved → above' = []) := by
  have he := effect_token c s
  generalize token c s = t at he hopen ⊢
  -- what the token touches is `x` itself, or a context above it
  cases above with
  | nil =>
    have hn : (s.nesting.mapHead t.touch).inner = t.touch x :: below := by
      rw [Nesting.mapHead, h]
      rfl
    rw [if_pos rfl]
    cases he with
    | stays _ _ hn' _ => exact ⟨[], by rw [hn', hn]; rfl, fun _ _ => rfl⟩
    | opens b _ hcode hn' _ =>
      refine ⟨[_], by rw [hn', Nesting.push, hn]; rfl, fun _ hu => ?_⟩
      exact absurd hu (align_touch_ne_unresolved hcode x)
    | closes b y _ _ hn' _ =>
      -- if it were `x` that is closed, no more than `below` would be left
      exfalso
      rw [hn'] at hn
      have hb : t.state.nesting.inner = below := (List.cons.inj hn).2
      rw [Nesting.depth, hb] at hopen
      omega
  | cons y above =>
    have hn : (s.nesting.mapHead t.touch).inner = t.touch y :: (above ++ x :: below) := by
      rw [Nesting.mapHead, h]
      rfl
    have hne : y :: above ≠ [] := List.cons_ne_nil y above
    rw [if_neg hne]
    cases he with
    | stays _ _ hn' _ => exact ⟨t.touch y :: above, by rw [hn', hn]; rfl, fun h => absurd h hne⟩
    | opens b _ _ hn' _ => exact ⟨_ :: t.touch y :: above, by rw [hn', Nesting.push, hn]; rfl, fun h => absurd h hne⟩
    | closes b z _ _ hn' _ =>
      rw [hn'] at hn
      exact ⟨above, (List.cons.inj hn).2, fun h => absurd h hne⟩

/-- Among the contexts there is one that stands on given ones, at a given place and aligned in a given way;
it is settled if others have been opened above it. -/
def Stands (below : List Context) (indented column : Int) (a : Align) (n : Nesting) : Prop :=
  ∃ above kind, n.inner = above ++ ⟨indented, column, kind, a⟩ :: below ∧ (a = .unresolved → above = [])

variable {indented column : Int} {a : Align}

lemma stands_token (h : Stands below indented column a s.nesting) (c : Cursor)
    (hopen : below.length + 1 < (token c s).state.nesting.depth) :
    Stands below indented column (a.settle (token c s).alignment) (token c s).state.nesting := by
  obtain ⟨above, kind, hs, ha⟩ := h
  obtain ⟨above', hn, hu⟩ := exists_inner_token hs c hopen
  generalize token c s = t at hn hu ⊢
  by_cases habove : above = []
  · -- the context is the innermost one, so it is the one that the token touches
    set x : Context := ⟨indented, column, kind, a⟩
    have hx : t.touch x = ⟨indented, column, (t.touch x).kind, a.settle t.alignment⟩ := by
      have hi : (t.touch x).indented = indented := t.indented_touch x
      have hc : (t.touch x).column = column := t.column_touch x
      have hal : (t.touch x).align = a.settle t.alignment := t.align_touch x
      rw [← hi, ← hc, ← hal]
    rw [if_pos habove, hx] at hn
    exact ⟨above', _, hn, fun hunres => hu habove (by rw [hx]; exact hunres)⟩
  · -- others are open above the context, so it is settled
    have hne : a ≠ .unresolved := fun hunres => habove (ha hunres)
    rw [if_neg habove] at hn
    rw [Align.settle_of_ne hne]
    exact ⟨above', kind, hn, fun hunres => absurd hunres hne⟩

/-- While a context stays open, the first step that settles it decides how it is aligned. -/
lemma stands_calls (hc : Calls s ts) (hopen : ∀ t ∈ ts, below.length + 1 < t.state.nesting.depth)
    (h : Stands below indented column a s.nesting) :
    Stands below indented column (a.settle (alignAfter ts)) (stateAfter ts s).nesting := by
  induction hc generalizing a with
  | nil s => rwa [alignAfter_nil, Align.settle_unresolved_right]
  | cons c hc ih =>
    obtain ⟨ht, hts⟩ := List.forall_mem_cons.1 hopen
    rw [alignAfter_token_cons, ← Align.settle_assoc]
    exact ih hts (stands_token h c ht)

/-! ## Suggestions in a bracket -/

/-- In code a line in a bracket is suggested a column next to the bracket or next to the line of the bracket,
and the line that starts with the closing bracket the very same column. -/
lemma suggestion?_of_group (m : Mode) {b : Bracket} (hc : s.continuation = .code)
    (hk : s.head.kind = .group b) (hi : IsColumn s.head.indented) (hcol : IsColumn s.head.column)
    (text : List Char) :
    m.suggestion? s text = some (
      if s.head.align = .column then
        if (trimStart text).head? = some b.closer then s.head.column else clamp (s.head.column + 1)
      else if (trimStart text).head? = some b.closer then s.head.indented
      else clamp (s.head.indented + m.unit)) := by
  have hclosed : s.head.isClosedAt (trimStart text) = decide ((trimStart text).head? = some b.closer) := by
    rw [Bool.eq_iff_iff, Context.isClosedAt_iff hk, decide_eq_true_iff]
  have hsug : m.suggestion? s text
      = some (s.head.lineColumn m.unit (decide ((trimStart text).head? = some b.closer))) := by
    simp [suggestion?, hc, hk, hclosed]
  rw [hsug]
  unfold Context.lineColumn
  by_cases ht : (trimStart text).head? = some b.closer
  · cases s.head.align <;> simp [ht, hi.clamp_eq, hcol.clamp_eq]
  · cases s.head.align <;> simp [ht]

lemma inner_token_of_opening {b : Bracket} {c : Cursor}
    (h : (token c s).scan.signal = some (.punct (.opening b))) :
    (token c s).state.nesting.inner
      = ⟨(token c s).state.indented, ofWidth (token c s).cursor.column, .group b, .unresolved⟩ ::
          (token c s).state.nesting.inner.tail := by
  rw [nesting_token_of_opening h]
  rfl

/-- **Alignment is settled once, by the line of the bracket.**  While the context of an opening bracket stays
open, it keeps the indentation and the column with which it was opened, and its alignment is what the rest of
the bracket's line has settled, or else the start of the next one.  Whenever it is the innermost context, that
is all that a suggestion depends on. -/
theorem stands_behind_opening (m : Mode) (base : Int) (ls : List (List Char))
    {before since later : List Step} {o : Step} {b : Bracket}
    (hs : m.linesSteps (m.startState base) ls = before ++ o :: (since ++ later))
    (ho : o.scan.signal = some (.punct (.opening b)))
    (hopen : ∀ t ∈ since, o.state.nesting.depth ≤ t.state.nesting.depth) :
    let s := stateAfter since o.state
    let i := o.state.indented
    let c := ofWidth o.cursor.column
    let below := o.state.nesting.inner.tail
    o.state.nesting.inner = ⟨i, c, .group b, .unresolved⟩ :: below ∧
      (∀ mid, mid <+: since → alignAfter mid ≠ .unresolved → alignAfter since = alignAfter mid) ∧
      ∃ above kind, s.nesting.inner = above ++ ⟨i, c, kind, alignAfter since⟩ :: below ∧
        (above = [] → kind = .group b → s.continuation = .code → ∀ text,
          m.suggestion? s text = some (
            if alignAfter since = .column then
              if (trimStart text).head? = some b.closer then c else clamp (c + 1)
            else if (trimStart text).head? = some b.closer then i else clamp (i + m.unit))) := by
  intro s i c below
  have hcalls : Calls (m.startState base) (before ++ o :: (since ++ later)) := by
    rw [← hs]
    exact m.calls_linesSteps _ _
  obtain ⟨hbefore, hrest⟩ := calls_append_iff.1 hcalls
  -- all that is needed of the steps before the bracket
  have hsound : (stateAfter before (m.startState base)).Sound (clamp (base - m.unit)) :=
    hbefore.sound (m.sound_startState base)
  generalize stateAfter before (m.startState base) = s₀ at hrest hsound
  cases hrest with
  | cons cursor hrest =>
    obtain ⟨hsince, -⟩ := calls_append_iff.1 hrest
    have hi : IsColumn i := (sound_token hsound cursor).indented
    have hinner := inner_token_of_opening ho
    refine ⟨hinner, fun mid hmid hal => ?_, ?_⟩
    · obtain ⟨us, rfl⟩ := hmid
      rw [alignAfter_append hsince]
      exact Align.settle_of_ne hal _
    · -- the context is not settled when it is opened, and the steps since then settle it
      have hstands : Stands below i c .unresolved (token cursor s₀).state.nesting :=
        ⟨[], _, hinner, fun _ => rfl⟩
      have hdepth : ∀ t ∈ since, below.length + 1 < t.state.nesting.depth := by
        intro t ht
        have := hopen t ht
        rw [Nesting.depth, hinner] at this
        exact this
      obtain ⟨above, kind, hn, -⟩ := stands_calls hsince hdepth hstands
      refine ⟨above, kind, hn, ?_⟩
      rintro rfl rfl hk text
      have hhead : s.head = ⟨i, c, .group b, alignAfter since⟩ := by
        unfold State.head Nesting.head
        rw [hn]
        rfl
      have hsug := m.suggestion?_of_group hk (b := b) (by rw [hhead]) (by rw [hhead]; exact hi)
        (by rw [hhead]; exact .ofWidth _) text
      rwa [hhead] at hsug

/-- A list in an indented line: a comment over two lines follows its bracket, and more brackets are opened and
closed in it. -/
theorem stands_behind_list :
    let ls := ["f \x7b".toList, "\t[ /* a".toList, "*/ g(1,".toList, "  2), \x7b".toList, "\x7d,".toList]
    let ts := default.linesSteps (default.startState 0) ls
    let t := token (default.cursor "\t[ /* a".toList) (default.feed (default.startState 0) ["f \x7b".toList])
    let o := token t.cursor t.state
    let since := ts.drop 5
    let s := stateAfter since o.state
    (ts = ts.take 4 ++ o :: (since ++ []) ∧ o.scan.signal = some (.punct (.opening .square)) ∧
        (∀ t ∈ since, o.state.nesting.depth ≤ t.state.nesting.depth)) ∧
      s.nesting.inner = [⟨4, 4, .group .square, .indent⟩, ⟨0, 2, .group .brace, .indent⟩] ∧
      ∀ text, default.suggestion? s text = some (if (trimStart text).head? = some ']' then 4 else 6) := by
  intro ls ts t o since s
  have hts : ts = ts.take 4 ++ o :: (since ++ []) := by decide +kernel
  have ho : o.scan.signal = some (.punct (.opening .square)) := by decide +kernel
  have hopen : ∀ t ∈ since, o.state.nesting.depth ≤ t.state.nesting.depth := by decide +kernel
  have hal : alignAfter since = .indent := by decide +kernel
  have hcode : s.continuation = .code := by decide +kernel
  have hi : o.state.indented = 4 := by decide +kernel
  have hinner : s.nesting.inner = [⟨4, 4, .group .square, .indent⟩, ⟨0, 2, .group .brace, .indent⟩] := by
    decide +kernel
  have hbelow : o.state.nesting.inner.tail = [⟨0, 2, .group .brace, .indent⟩] := by decide +kernel
  refine ⟨⟨hts, ho, hopen⟩, hinner, fun text => ?_⟩
  obtain ⟨-, -, above, kind, hn, hsug⟩ := stands_behind_opening default 0 ls hts ho hopen
  rw [hbelow, hinner] at hn
  cases above with
  | nil =>
    have hk : .group .square = kind := congrArg Context.kind (List.cons.inj hn).1
    rw [hsug rfl hk.symm hcode, hal, hi]
    rfl
  | cons x above =>
    -- only two contexts are open
    have hlen := congrArg List.length hn
    simp at hlen

end Mode

end GoLayout
