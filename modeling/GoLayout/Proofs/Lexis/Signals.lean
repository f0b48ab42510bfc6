import GoLayout.Lexis.Line
import GoLayout.Proofs.Text.Blanks

/-!
# Signals

Only two kinds of spans tell the layout something: a punctuation mark, which is a span of its own, and a
label.  Hence a span signals a bracket exactly if it starts with that bracket, and a span with a signal is
always one of code.
-/

namespace GoLayout.Lexis

open GoLayout.Text

@[simp] lemma signal_scanString (q : Quote) (s : List Char) : (scanString q s).signal = none := by
  unfold scanString
  split <;> rfl

@[simp] lemma signal_scanComment (s : List Char) : (scanComment s).signal = none := by
  unfold scanComment
  split <;> rfl

lemma signal_scanWord (c : Char) (s : List Char) :
    (scanWord c s).signal = none ∨
      (scanWord c s).signal = some .caseLabel ∧ (scanWord c s).style = some .keyword := by
  unfold scanWord
  dsimp only
  cases wordClass? ((Cut.span isIdentChar s).cons c).taken with
  | none => exact .inl rfl
  | some w =>
    cases w with
    | label => exact .inr ⟨rfl, rfl⟩
    | keyword => exact .inl rfl
    | atom => exact .inl rfl

/-- The characters of quotes, digits and the point are no punctuation marks but the point itself. -/
lemma ofChar?_of_quote {c : Char} {q : Quote} (h : Quote.ofChar? c = some q) :
    Punct.ofChar? c = none := by
  rw [Quote.ofChar?_eq_some_iff] at h
  subst h
  cases q <;> rfl

lemma ofChar?_eq_dot_of_digit {c : Char} {p : Punct} (h : c.isDigit || c == '.')
    (hp : Punct.ofChar? c = some p) : p = .dot := by
  rw [Punct.ofChar?_eq_some_iff] at hp
  subst hp
  cases p with
  | dot => rfl
  | opening b => cases b <;> exact absurd h (by decide)
  | closing b => cases b <;> exact absurd h (by decide)
  | _ => exact absurd h (by decide)

/-- What a span of code tells the layout: the punctuation mark that it is, or that it is a label. -/
lemma signal_scanCode_cases (c : Char) (s : List Char) :
    (scanCode (c :: s)).signal = none ∧ (∀ p, Punct.ofChar? c = some p → p = .dot) ∨
    (∃ p, Punct.ofChar? c = some p ∧ p ≠ .dot ∧ scanCode (c :: s) = ⟨[c], s, none, some (.punct p), .code⟩) ∨
    Punct.ofChar? c = none ∧ (scanCode (c :: s)).signal = some .caseLabel ∧
      (scanCode (c :: s)).style = some .keyword := by
  -- the branches of `scanCode`; only those of the mark and of the word tell anything
  simp only [scanCode]
  split
  · rename_i q hq
    exact .inl ⟨signal_scanString q s, by simp [ofChar?_of_quote hq]⟩
  · split
    · rename_i h
      exact .inl ⟨rfl, fun p => ofChar?_eq_dot_of_digit h⟩
    · rename_i hd
      split
      · rename_i p hp
        refine .inr (.inl ⟨p, hp, ?_, rfl⟩)
        rintro rfl
        rw [Punct.ofChar?_eq_some_iff] at hp
        exact hd (by simp [← hp, Punct.char])
      · rename_i hp
        have hn : ∀ p, Punct.ofChar? c = some p → p = .dot := by simp [hp]
        split
        · exact .inl ⟨signal_scanComment _, hn⟩
        · split
          · exact .inl ⟨rfl, hn⟩
          · split
            · exact .inl ⟨rfl, hn⟩
            · exact (signal_scanWord c s).imp (fun h => ⟨h, hn⟩) fun h => .inr ⟨hp, h⟩

/-- A span that tells the layout something is one of code. -/
lemma isCode_of_signal_read {k : Continuation} {s : List Char} (h : (read k s).signal ≠ none) :
    (read k s).isCode = true := by
  unfold read at h ⊢
  split at h
  · rename_i hs
    rw [if_pos hs]
    cases k with
    | string q => exact absurd (signal_scanString q s) h
    | comment => exact absurd (signal_scanComment s) h
    | code =>
      cases s with
      | nil => exact absurd rfl h
      | cons c s =>
        rcases signal_scanCode_cases c s with ⟨hn, -⟩ | ⟨p, -, -, e⟩ | ⟨-, hl, hs⟩
        · exact absurd hn h
        · exact congrArg Scan.isCode e
        · rw [Scan.isCode, scan, hs]
          rfl
  · exact absurd rfl h

lemma isCode_of_mem_readLine {k : Continuation} {s : List Char} {r : Scan} (hr : r ∈ readLine k s)
    (h : r.signal ≠ none) : r.isCode = true := by
  fun_induction readLine k s with
  | case1 => simp at hr
  | case2 k s hs r' ih =>
    rcases List.mem_cons.1 hr with rfl | hr
    · exact isCode_of_signal_read h
    · exact ih hr

/-- The first span of code is a bracket exactly if the code starts with that bracket. -/
lemma head?_readLine_signal_closing {s : List Char} (h : StartsSolid s) (b : Bracket) :
    (readLine .code s).head?.map Scan.signal = some (some (.punct (.closing b)))
      ↔ s.head? = some b.closer := by
  cases s with
  | nil => simp
  | cons c s =>
    have hr : read .code (c :: s) = scanCode (c :: s) := if_pos ⟨h, List.cons_ne_nil c s⟩
    rw [readLine_of_ne_nil _ (List.cons_ne_nil c s), hr, List.head?_cons, List.head?_cons, Option.map_some,
      Option.some.injEq, Option.some.injEq]
    have hc : Punct.ofChar? c = some (.closing b) ↔ c = b.closer := by
      rw [Punct.ofChar?_eq_some_iff]
      exact eq_comm
    rw [← hc]
    rcases signal_scanCode_cases c s with ⟨hn, hp⟩ | ⟨p, hp, -, e⟩ | ⟨hp, hl, -⟩
    · rw [hn]
      exact iff_of_false (by simp) fun hb => absurd (hp _ hb) (by simp)
    · rw [e, hp, Option.some.injEq, Option.some.injEq, Signal.punct.injEq]
    · rw [hl, hp]
      simp

end GoLayout.Lexis
