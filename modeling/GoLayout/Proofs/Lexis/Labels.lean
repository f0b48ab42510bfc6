import GoLayout.Proofs.Lexis.Grammar
import GoLayout.Proofs.Lexis.Signals

/-!
# Labels at the front of a text

A label is met twice: the scanner reads it as a word of code, and a suggestion looks for it at the front of a line.
The scanner lets a word go on through all identifier characters and the suggestion only through those of ASCII, so
whatever the scanner reads as a label the suggestion takes for one.

The converse fails on exactly the texts in which the label is followed by an identifier character that a suggestion
does not know: the dollar sign, or a character from U+00A1 upward.
-/

namespace GoLayout.Lexis

open GoLayout.Text

variable {text : List Char}

/-- A text starts with a label if one of the two is followed by no character that continues a word. -/
lemma startsWithLabel_iff :
    startsWithLabel text = true ↔
      ∃ word ∈ ["case", "default"], ∃ rest, text = word.toList ++ rest ∧ ∀ c ∈ rest.head?, isWordChar c = false := by
  show (["case", "default"].any fun word =>
    word.toList.isPrefixOf text && !(text.drop word.length).head?.any isWordChar) = true ↔ _
  simp only [List.any_eq_true, Bool.and_eq_true, Bool.not_eq_true', List.isPrefixOf_iff_prefix]
  refine exists_congr fun word => and_congr_right fun _ => ?_
  have hlen : word.length = word.toList.length := String.length_toList.symm
  constructor
  · rintro ⟨⟨rest, rfl⟩, hc⟩
    rw [hlen, List.drop_left] at hc
    refine ⟨rest, rfl, fun c hm => ?_⟩
    rw [Option.mem_def] at hm
    simpa [hm] using hc
  · rintro ⟨rest, rfl, hc⟩
    refine ⟨List.prefix_append _ _, ?_⟩
    rw [hlen, List.drop_left]
    cases hh : rest.head? with
    | none => rfl
    | some c => exact hc c hh

/-- An identifier goes on through word characters, the dollar sign, and all characters from U+00A1 upward. -/
lemma isIdentChar_iff {c : Char} : isIdentChar c = true ↔ isWordChar c = true ∨ c = '$' ∨ 0xA1 ≤ c.toNat := by
  simp only [isIdentChar, isWordChar, Bool.or_eq_true, beq_iff_eq, decide_eq_true_eq, or_assoc]

lemma isIdentChar_eq_false_iff {c : Char} :
    isIdentChar c = false ↔ isWordChar c = false ∧ c ≠ '$' ∧ c.toNat < 0xA1 := by
  rw [← Bool.not_eq_true, isIdentChar_iff, not_or, not_or, Bool.not_eq_true, Nat.not_le]

/-! ## Labels of the scanner -/

lemma scanCode_of_label {c : Char} {s : List Char} (h : (scanCode (c :: s)).signal = some .caseLabel) :
    scanCode (c :: s) = scanWord c s := by
  -- in every other branch of `scanCode` the signal is another one, or there is none
  simp only [scanCode] at h ⊢
  split at h
  · exact absurd ((signal_scanString _ s).symm.trans h) (by simp)
  · split at h
    · cases h
    · rename_i hd
      rw [if_neg hd]
      split at h
      · cases h
      · split at h
        · exact absurd ((signal_scanComment s.tail).symm.trans h) (by simp)
        · split at h
          · cases h
          · split at h
            · cases h
            · rename_i hb hl ho
              rw [if_neg hb, if_neg hl, if_neg ho]

lemma scanWord_append {c : Char} {run rest : List Char} (h : MaximalRun isIdentChar run rest) :
    scanWord c (run ++ rest)
      = ⟨c :: run, rest, some (wordStyle (wordClass? (c :: run))), wordSignal (wordClass? (c :: run)), .code⟩ := by
  rw [scanWord, h.span_eq]
  rfl

lemma wordSignal_eq_caseLabel_iff {w : Option WordClass} : wordSignal w = some .caseLabel ↔ w = some .label := by
  rcases w with _ | _ | _ | _ <;> simp [wordSignal]

/-- The scanner reads a label as a whole word, from the first character of the text on. -/
lemma signal_scan_eq_caseLabel_iff_exists :
    (scan .code text).signal = some .caseLabel ↔
      ∃ word ∈ ["case", "default"], ∃ rest, text = word.toList ++ rest ∧ ∀ c ∈ rest.head?, isIdentChar c = false := by
  constructor
  · intro h
    cases text with
    | nil => cases h
    | cons c s =>
      -- the word is `c` and the run of identifier characters behind it
      have hrun := maximalRun_span isIdentChar s
      have hs : (Cut.span isIdentChar s).taken ++ (Cut.span isIdentChar s).rest = s := Cut.whole_span isIdentChar s
      generalize (Cut.span isIdentChar s).taken = run at hrun hs
      generalize (Cut.span isIdentChar s).rest = rest at hrun hs
      subst hs
      have hword : (scanCode (c :: (run ++ rest))).signal = some .caseLabel := h
      rw [scanCode_of_label hword, scanWord_append hrun, wordSignal_eq_caseLabel_iff,
        wordClass?_eq_label_iff] at hword
      rcases hword with hword | hword
      · exact ⟨"case", by simp, rest, congrArg (· ++ rest) hword, hrun.stops⟩
      · exact ⟨"default", by simp, rest, congrArg (· ++ rest) hword, hrun.stops⟩
  · rintro ⟨word, hmem, rest, rfl, hstops⟩
    simp only [List.mem_cons, List.not_mem_nil, or_false] at hmem
    rcases hmem with rfl | rfl
    · have hrun : MaximalRun isIdentChar "ase".toList rest := ⟨List.all_eq_true.1 (by decide), hstops⟩
      exact (congrArg Scan.signal (scanWord_append hrun)).trans
        (wordSignal_eq_caseLabel_iff.2 (wordClass?_eq_label_iff.2 (.inl rfl)))
    · have hrun : MaximalRun isIdentChar "efault".toList rest := ⟨List.all_eq_true.1 (by decide), hstops⟩
      exact (congrArg Scan.signal (scanWord_append hrun)).trans
        (wordSignal_eq_caseLabel_iff.2 (wordClass?_eq_label_iff.2 (.inr rfl)))

lemma exists_of_signal_read (h : (read .code text).signal = some .caseLabel) :
    ∃ word ∈ ["case", "default"], ∃ rest, text = word.toList ++ rest ∧ ∀ c ∈ rest.head?, isIdentChar c = false := by
  unfold read at h
  split at h
  · exact signal_scan_eq_caseLabel_iff_exists.1 h
  · cases h

/-- What the scanner reads as a label is a label to a suggestion. -/
lemma startsWithLabel_of_signal_read (h : (read .code text).signal = some .caseLabel) :
    startsWithLabel text = true := by
  obtain ⟨word, hmem, rest, htext, hstops⟩ := exists_of_signal_read h
  exact startsWithLabel_iff.2 ⟨word, hmem, rest, htext, fun c hc => (isIdentChar_eq_false_iff.1 (hstops c hc)).1⟩

lemma rest_eq_of_labels {word word' : String} {rest rest' : List Char} (h : word ∈ ["case", "default"])
    (h' : word' ∈ ["case", "default"]) (he : word.toList ++ rest = word'.toList ++ rest') : rest = rest' := by
  simp only [List.mem_cons, List.not_mem_nil, or_false] at h h'
  rcases h with rfl | rfl <;> rcases h' with rfl | rfl
  · exact List.append_cancel_left he
  · simp at he
  · simp at he
  · exact List.append_cancel_left he

/-- **A label is the same to the scanner and to a suggestion up to the identifier alphabet.**

Scanned from its first character on, a text is read as a label exactly if a suggestion finds a label at its front and
the character behind the label, if there is one, is neither the dollar sign nor one from U+00A1 upward. -/
theorem signal_scan_eq_caseLabel_iff (text : List Char) :
    (scan .code text).signal = some .caseLabel ↔
      startsWithLabel text = true ∧
        ∀ word ∈ ["case", "default"], ∀ rest, text = word.toList ++ rest → ∀ c ∈ rest.head?, c ≠ '$' ∧ c.toNat < 0xA1 := by
  rw [signal_scan_eq_caseLabel_iff_exists, startsWithLabel_iff]
  constructor
  · rintro ⟨word, hmem, rest, htext, hstops⟩
    refine ⟨⟨word, hmem, rest, htext, fun c hc => (isIdentChar_eq_false_iff.1 (hstops c hc)).1⟩, ?_⟩
    intro word' hmem' rest' htext' c hc
    rw [← rest_eq_of_labels hmem hmem' (htext.symm.trans htext')] at hc
    exact (isIdentChar_eq_false_iff.1 (hstops c hc)).2
  · rintro ⟨⟨word, hmem, rest, htext, hstops⟩, hbehind⟩
    exact ⟨word, hmem, rest, htext, fun c hc =>
      isIdentChar_eq_false_iff.2 ⟨hstops c hc, hbehind word hmem rest htext c hc⟩⟩

end GoLayout.Lexis
