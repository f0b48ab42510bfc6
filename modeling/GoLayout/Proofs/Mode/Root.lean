import GoLayout.Proofs.Mode.Soundness

/-!
# The root

The root is closed by nothing, but it is the innermost context while no bracket is open, and what a step does to the
innermost context it also does to the root.  A label that is read there turns the root into the body of a case, and
the next line turns it into braces; it never turns back into the context of the document (`kind_root_token`).

The root stands one unit left of the document.  So a label behind a label, or a closing brace later on, is suggested
a column that lies left of the document, and it may be negative.  Nothing else is: all lines at the top stand where
the document stands, and lines in brackets stand at columns that exist.
-/

namespace GoLayout

open GoLayout.Text GoLayout.Lexis GoLayout.Layout

namespace Nesting

variable {n : Nesting}

@[simp] lemma root_push (x : Context) (n : Nesting) : (n.push x).root = n.root := rfl

/-- The root is changed if it is the innermost context. -/
lemma root_mapHead (f : Context → Context) (n : Nesting) :
    (n.mapHead f).root = if n.inner = [] then f n.root else n.root := by
  obtain ⟨_ | ⟨x, inner⟩, root⟩ := n <;> rfl

lemma depth_eq_one_iff : n.depth = 1 ↔ n.inner = [] := by
  rw [depth, Nat.add_eq_right, List.length_eq_zero_iff]

lemma head_of_inner_eq_nil (h : n.inner = []) : n.head = n.root := by
  rw [head, h]
  rfl

lemma head_mem_inner (h : n.inner ≠ []) : n.head ∈ n.inner := by
  obtain ⟨k, hk⟩ := exists_eq_push h
  rw [hk]
  exact List.mem_cons_self

end Nesting

lemma Context.lineColumn_nonneg {x : Context} {unit : Int} (hi : IsColumn x.indented) (hc : IsColumn x.column)
    (hu : IsColumn unit) (closing : Bool) : 0 ≤ x.lineColumn unit closing := by
  have hclamp : ∀ n : Int, 0 ≤ n → 0 ≤ clamp n := fun n hn => by
    unfold clamp minColumn maxColumn
    omega
  unfold lineColumn
  split
  · refine hclamp _ (Int.add_nonneg hc.1 ?_)
    split <;> simp
  · refine hclamp _ (Int.add_nonneg hi.1 ?_)
    split
    · simp
    · exact hu.1

namespace Mode

/-! ## The kind of the root -/

/-- A step labels the root if it reads a label while only the root is open. -/
def Step.LabelsRoot (t : Step) : Prop := t.scan.signal = some .caseLabel ∧ t.state.nesting.inner = []

variable {s : State} {ts : List Step}

lemma Step.kind_touch_of_label {t : Step} (hc : t.scan.isCode = true) (h : t.scan.signal = some .caseLabel)
    (x : Context) : (t.touch x).kind = .caseBody := by
  unfold touch Context.onSpan
  rw [if_pos hc, if_pos h]
  split <;> rfl

/-- What a step does to the root is what it does to the innermost context, if that is the root. -/
lemma root_token (c : Cursor) (s : State) :
    (token c s).state.nesting.root
      = if s.nesting.inner = [] then (token c s).touch s.nesting.root else s.nesting.root := by
  rw [← Nesting.root_mapHead]
  cases effect_token c s with
  | stays _ _ hn _ => rw [hn]
  | opens b _ _ hn _ => rw [hn, Nesting.root_push]
  | closes b x _ _ hn _ => rw [hn, Nesting.root_push]

lemma inner_token_eq_nil_iff_of_label {c : Cursor} (h : (token c s).scan.signal = some .caseLabel) :
    (token c s).state.nesting.inner = [] ↔ s.nesting.inner = [] := by
  rw [nesting_token_of_not_bracket (by simp [h]) (by simp [h]), Nesting.inner_mapHead_eq_nil_iff]

/-- A step that labels the root makes the body of a case of it, and any other step does no more than start a line
in it. -/
lemma kind_root_token (c : Cursor) (s : State) :
    (token c s).LabelsRoot ∧ (token c s).state.nesting.root.kind = .caseBody ∨
      ¬(token c s).LabelsRoot ∧ ((token c s).state.nesting.root.kind = s.nesting.root.kind ∨
        (token c s).state.nesting.root.kind = s.nesting.root.kind.onNewLine) := by
  rw [root_token]
  by_cases hi : s.nesting.inner = []
  · rw [if_pos hi]
    by_cases hl : (token c s).scan.signal = some .caseLabel
    · have hsome : (token c s).scan.signal ≠ none := by rw [hl]; simp
      have hc : (token c s).scan.isCode = true := isCode_of_signal_read hsome
      exact .inl ⟨⟨hl, (inner_token_eq_nil_iff_of_label hl).2 hi⟩, Step.kind_touch_of_label hc hl _⟩
    · refine .inr ⟨fun h => hl h.1, ?_⟩
      rw [Step.kind_touch _ _ hl]
      split
      · exact .inr rfl
      · exact .inl rfl
  · rw [if_neg hi]
    exact .inr ⟨fun h => hi ((inner_token_eq_nil_iff_of_label h.1).1 h.2), .inl rfl⟩

lemma kind_root_token_eq_top_iff (c : Cursor) (s : State) :
    (token c s).state.nesting.root.kind = .top ↔ s.nesting.root.kind = .top ∧ ¬(token c s).LabelsRoot := by
  have hline : s.nesting.root.kind.onNewLine = .top ↔ s.nesting.root.kind = .top := by
    cases s.nesting.root.kind <;> simp [Kind.onNewLine]
  rcases kind_root_token c s with ⟨hl, hk⟩ | ⟨hl, hk | hk⟩
  · simp [hk, hl]
  · simp [hk, hl]
  · simp [hk, hl, hline]

/-- The root is the context of the document up to the first label that is read in it, and not after. -/
lemma Calls.kind_root_eq_top_iff (h : Calls s ts) :
    (stateAfter ts s).nesting.root.kind = .top ↔ s.nesting.root.kind = .top ∧ ∀ t ∈ ts, ¬t.LabelsRoot := by
  induction h with
  | nil s => simp
  | cons c h ih => rw [stateAfter_cons, ih, kind_root_token_eq_top_iff, List.forall_mem_cons, and_assoc]

/-- The root may turn into braces, and into no other brackets. -/
lemma eq_brace_of_kind_root_token (hs : ∀ b, s.nesting.root.kind = .group b → b = .brace) (c : Cursor) :
    ∀ b, (token c s).state.nesting.root.kind = .group b → b = .brace := by
  intro b hb
  rcases kind_root_token c s with ⟨-, hk⟩ | ⟨-, hk | hk⟩
  · rw [hk] at hb
    cases hb
  · exact hs b (hk.symm.trans hb)
  · -- a line that starts in the root turns the body of a case into braces, and keeps any other kind
    rw [hk] at hb
    cases hr : s.nesting.root.kind with
    | top => simp [hr, Kind.onNewLine] at hb
    | group b' => exact hs b (by rw [hr] at hb ⊢; exact hb)
    | caseBody =>
      rw [hr] at hb
      exact (Kind.group.inj hb).symm

lemma Calls.eq_brace_of_kind_root (h : Calls s ts) (hs : ∀ b, s.nesting.root.kind = .group b → b = .brace) :
    ∀ b, (stateAfter ts s).nesting.root.kind = .group b → b = .brace := by
  induction h with
  | nil s => exact hs
  | cons c h ih => exact ih (eq_brace_of_kind_root_token hs c)

/-! ## Suggestions -/

variable (m : Mode) {base : Int} {text : List Char}

lemma isColumn_unit : IsColumn m.unit := .ofWidth _

lemma clamp_sub_unit (hb : IsColumn base) : clamp (base - m.unit) = base - m.unit := by
  have hu := m.isColumn_unit
  unfold IsColumn maxColumn at hb hu
  exact clamp_of_mem (by unfold minColumn; omega) (by unfold maxColumn; omega)

lemma continuation_of_suggestion? {column : Int} (h : m.suggestion? s text = some column) :
    s.continuation = .code := by
  by_contra hk
  rw [suggestion?, if_pos hk] at h
  cases h

lemma suggestion?_nonneg {column : Int} (hi : IsColumn s.head.indented) (hc : IsColumn s.head.column)
    (h : m.suggestion? s text = some column) : 0 ≤ column := by
  simp only [suggestion?] at h
  split at h
  · cases h
  · split at h
    · exact Option.some.inj h ▸ hi.1
    · exact Option.some.inj h ▸ Context.lineColumn_nonneg hi hc m.isColumn_unit _

/-- A line at the top is suggested the column of the document, unless it ends what a label has made of the root. -/
lemma suggestion?_of_root (hb : IsColumn base) (hs : s.Sound (base - m.unit)) (hn : s.nesting.inner = [])
    (hroot : ∀ b, s.nesting.root.kind = .group b → b = .brace) (hk : s.continuation = .code)
    (text : List Char) :
    m.suggestion? s text = some (
      if s.nesting.root.kind = .caseBody ∧ startsWithLabel (trimStart text) ∨
          s.nesting.root.kind = .group .brace ∧ (trimStart text).head? = some Bracket.brace.closer then
        base - m.unit
      else base) := by
  have hhead : s.head = s.nesting.root := Nesting.head_of_inner_eq_nil hn
  have hline : ∀ closing, s.head.lineColumn m.unit closing = if closing then base - m.unit else base := by
    intro closing
    rw [Context.lineColumn, hhead, hs.nesting.root_align, hs.nesting.root_indented]
    cases closing with
    | true => simpa using m.clamp_sub_unit hb
    | false => simpa using hb.clamp_eq
  have hindented : s.head.indented = base - m.unit := by rw [hhead, hs.nesting.root_indented]
  -- of the brackets only a brace can close what the root has turned into
  have hclosed : s.head.isClosedAt (trimStart text) = true ↔
      s.nesting.root.kind = .group .brace ∧ (trimStart text).head? = some Bracket.brace.closer := by
    rw [hhead]
    cases hr : s.nesting.root.kind with
    | group b =>
      cases hroot b hr
      simp [Context.isClosedAt, hr, Kind.closer?, Kind.bracket?]
    | _ => simp [Context.isClosedAt, hr, Kind.closer?, Kind.bracket?]
  simp only [suggestion?, hk, ne_eq, not_true_eq_false, if_false, hline, hindented, hclosed]
  rw [hhead]
  by_cases hl : s.nesting.root.kind = .caseBody ∧ startsWithLabel (trimStart text)
  · rw [if_pos hl, if_pos (.inl hl)]
  · rw [if_neg hl]
    simp only [hl, false_or]

/-- **The root is that of the document until a label is read in it.**

Behind any lines the root has kept its kind exactly if none of their labels was read while only the root was open.
While only the root is open, a line is suggested the column of the document; only what ends the body of a case, or the
braces, that a label has made of the root is suggested the column one unit left of it.  No other suggestion can be
negative. -/
theorem root_of_feed (h0 : 0 ≤ base) (h1 : base ≤ maxColumn) (ls : List (List Char)) :
    let s := m.feed (m.startState base) ls
    (s.nesting.root.kind = .top ↔ ∀ t ∈ m.linesSteps (m.startState base) ls, ¬t.LabelsRoot) ∧
      (s.nesting.depth = 1 → s.continuation = .code → ∀ text, m.suggestion? s text = some (
        if s.nesting.root.kind = .caseBody ∧ startsWithLabel (trimStart text) ∨
            s.nesting.root.kind = .group .brace ∧ (trimStart text).head? = some Bracket.brace.closer then
          base - m.unit
        else base)) ∧
      ∀ text column, m.suggestion? s text = some column →
        0 ≤ column ∨ s.nesting.depth = 1 ∧ s.nesting.root.kind ≠ .top ∧ column = base - m.unit := by
  intro s
  have hb : IsColumn base := ⟨h0, h1⟩
  have hcalls := m.calls_linesSteps (m.startState base) ls
  have hafter : stateAfter (m.linesSteps (m.startState base) ls) (m.startState base) = s :=
    m.stateAfter_linesSteps _ ls
  have hsound : s.Sound (base - m.unit) := m.clamp_sub_unit hb ▸ m.sound_feed base ls
  -- the root may turn into braces behind a label, but into no other brackets
  have hroot : ∀ b, s.nesting.root.kind = .group b → b = .brace :=
    hafter ▸ hcalls.eq_brace_of_kind_root fun b hb => by cases hb
  have htop : s.nesting.depth = 1 → s.continuation = .code → ∀ text, m.suggestion? s text = _ :=
    fun hd hk => m.suggestion?_of_root hb hsound (Nesting.depth_eq_one_iff.1 hd) hroot hk
  refine ⟨?_, htop, fun text column hcol => ?_⟩
  · rw [← hafter, hcalls.kind_root_eq_top_iff]
    exact and_iff_right rfl
  · -- a negative column can only come from the root, as all other contexts stand at columns
    by_cases hd : s.nesting.depth = 1
    · rw [htop hd (m.continuation_of_suggestion? hcol) text, Option.some.injEq] at hcol
      split at hcol
      · rename_i hends
        refine .inr ⟨hd, fun ht => ?_, hcol.symm⟩
        simp [ht] at hends
      · exact .inl (hcol ▸ h0)
    · have hmem : s.head ∈ s.nesting.inner := Nesting.head_mem_inner (Nesting.depth_eq_one_iff.not.1 hd)
      exact .inl (m.suggestion?_nonneg (hsound.nesting.indented _ hmem) (hsound.nesting.column _ hmem) hcol)

/-- A switch whose labels leave the root alone, and a label behind it that does not. -/
theorem root_of_feed_with_labels :
    let within := ["switch x \x7b".toList, "case 1:".toList, "\x7d".toList]
    let ls := within ++ ["default:".toList, "x".toList]
    let s := default.feed (default.startState 1) ls
    (0 ≤ (1 : Int) ∧ 1 ≤ maxColumn) ∧
      (∀ t ∈ default.linesSteps (default.startState 1) within, ¬t.LabelsRoot) ∧
      (¬∀ t ∈ default.linesSteps (default.startState 1) ls, ¬t.LabelsRoot) ∧
      default.suggestion? s "y".toList = some 1 ∧ default.suggestion? s "\x7d".toList = some (-1) := by
  intro within ls s
  have h0 : 0 ≤ (1 : Int) := by decide
  have h1 : 1 ≤ maxColumn := by decide
  obtain ⟨hwithin, -, -⟩ := root_of_feed default h0 h1 within
  obtain ⟨hls, hsug, -⟩ := root_of_feed default h0 h1 ls
  have hkind : s.nesting.root.kind = .group .brace := by decide +kernel
  have hd : s.nesting.depth = 1 := by decide +kernel
  have hk : s.continuation = .code := by decide +kernel
  refine ⟨⟨h0, h1⟩, hwithin.1 (by decide +kernel), fun h => ?_, ?_, ?_⟩
  · have htop := hls.2 h
    exact absurd (hkind.symm.trans htop) (by simp)
  · rw [hsug hd hk, if_neg (by decide +kernel)]
  · rw [hsug hd hk, if_pos (.inr ⟨hkind, by decide +kernel⟩)]
    decide +kernel

/-- Behind a label at the top the root is not that of the document any more, and a label is suggested a negative
column. -/
theorem not_root_of_document :
    (¬∀ (m : Mode) (base : Int) (ls : List (List Char)), 0 ≤ base → base ≤ maxColumn →
        (m.feed (m.startState base) ls).nesting.root.kind = .top) ∧
      (¬∀ (m : Mode) (base : Int) (ls : List (List Char)) (text : List Char), 0 ≤ base → base ≤ maxColumn →
        (m.feed (m.startState base) ls).nesting.depth = 1 →
        (m.feed (m.startState base) ls).continuation = .code →
        m.suggestion? (m.feed (m.startState base) ls) text = some base) ∧
      ¬∀ (m : Mode) (base : Int) (ls : List (List Char)) (text : List Char) (column : Int),
        0 ≤ base → base ≤ maxColumn → m.suggestion? (m.feed (m.startState base) ls) text = some column →
        0 ≤ column := by
  refine ⟨fun h => ?_, fun h => ?_, fun h => ?_⟩
  · have hkind := h default 0 ["case 1:".toList] (by decide) (by decide)
    exact absurd hkind (by decide +kernel)
  · have hsug := h default 0 ["case 1:".toList] "case 2:".toList (by decide) (by decide) (by decide +kernel)
      (by decide +kernel)
    exact absurd hsug (by decide +kernel)
  · have hcol := h default 0 ["case 1:".toList] "case 2:".toList (-2) (by decide) (by decide) (by decide +kernel)
    exact absurd hcol (by decide)

end Mode

end GoLayout
