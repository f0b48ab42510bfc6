import GoLayout.Lexis.Line
import GoLayout.Proofs.Text.Blanks

/-!
# Tokens

The tokens of a line are its spans other than runs of blanks.  The leading blanks of a line are one span
of their own, which leaves open what was open before; so the tokens of a line and what the next line goes
on with depend on the line without its leading blanks.
-/

namespace GoLayout.Lexis

open GoLayout.Text

/-- The span of the leading blanks of a line, if there are any. -/
def indentSpan (k : Continuation) (line : List Char) : List Scan :=
  if leadingBlanks line = [] then [] else [⟨leadingBlanks line, trimStart line, none, none, k⟩]

lemma flatMap_text_indentSpan (k : Continuation) (line : List Char) :
    (indentSpan k line).flatMap Scan.text = leadingBlanks line := by
  unfold indentSpan
  split
  · rename_i h
    exact h.symm
  · exact List.append_nil _

lemma isCode_of_mem_indentSpan {k : Continuation} {line : List Char} {r : Scan}
    (h : r ∈ indentSpan k line) : r.isCode = false := by
  unfold indentSpan at h
  split at h
  · cases h
  · rw [List.mem_singleton.1 h]
    rfl

/-- The spans of a line are that of its leading blanks and those of the line without them. -/
lemma readLine_eq_append (k : Continuation) (line : List Char) :
    readLine k line = indentSpan k line ++ readLine k (trimStart line) := by
  by_cases h : leadingBlanks line = []
  · rw [indentSpan, if_pos h, StartsSolid.trimStart_eq h, List.nil_append]
  · have hl : line ≠ [] := by
      rintro rfl
      exact h rfl
    have hr : read k line = ⟨leadingBlanks line, trimStart line, none, none, k⟩ :=
      if_neg fun e => h e.1
    rw [readLine_of_ne_nil k hl, hr, indentSpan, if_neg h, List.singleton_append]

/-! ## What a line goes on with -/

@[simp] lemma continuationAfter_nil (k : Continuation) : continuationAfter [] k = k := rfl

@[simp] lemma continuationAfter_cons (r : Scan) (rs : List Scan) (k : Continuation) :
    continuationAfter (r :: rs) k = continuationAfter rs r.continuation := rfl

lemma continuationAfter_append (rs ts : List Scan) (k : Continuation) :
    continuationAfter (rs ++ ts) k = continuationAfter ts (continuationAfter rs k) :=
  List.foldl_append

@[simp] lemma continuationAfter_indentSpan (k : Continuation) (line : List Char) :
    continuationAfter (indentSpan k line) k = k := by
  unfold indentSpan
  split <;> rfl

/-- What follows a line does not depend on the leading blanks of the line. -/
lemma continuationAfter_readLine (k : Continuation) (line : List Char) :
    continuationAfter (readLine k line) k = continuationAfter (readLine k (trimStart line)) k := by
  rw [readLine_eq_append, continuationAfter_append, continuationAfter_indentSpan]

/-! ## Tokens -/

/-- A text other than a run of blanks. -/
def HasSolid (text : List Char) : Prop := ∃ c ∈ text, isBlank c = false

instance (text : List Char) : Decidable (HasSolid text) := List.decidableBEx (isBlank · = false) text

/-- The tokens of a line: its spans other than runs of blanks. -/
def tokens (k : Continuation) (line : List Char) : List Scan :=
  (readLine k line).filter (HasSolid ·.text)

lemma not_hasSolid_leadingBlanks (line : List Char) : ¬HasSolid (leadingBlanks line) := by
  rintro ⟨c, hc, hb⟩
  rw [isBlank_of_mem_leadingBlanks hc] at hb
  exact Bool.noConfusion hb

lemma filter_indentSpan (k : Continuation) (line : List Char) :
    (indentSpan k line).filter (HasSolid ·.text) = [] := by
  unfold indentSpan
  split
  · rfl
  · simp [not_hasSolid_leadingBlanks]

lemma tokens_eq_tokens_trimStart (k : Continuation) (line : List Char) :
    tokens k line = tokens k (trimStart line) := by
  rw [tokens, readLine_eq_append, List.filter_append, filter_indentSpan, List.nil_append, tokens]

/-! ## Code -/

/-- A text that starts with no blank is scanned from its first character on, so the span is no run of
blanks. -/
lemma hasSolid_text_scan (k : Continuation) {s : List Char} (h : StartsSolid s) (hs : s ≠ []) :
    HasSolid (scan k s).text := by
  obtain ⟨c, text, ht⟩ := List.exists_cons_of_ne_nil (text_scan_ne_nil k hs)
  have hw : (scan k s).text ++ (scan k s).rest = s := whole_scan k s
  rw [ht, List.cons_append] at hw
  rw [← hw, startsSolid_cons_iff] at h
  exact ⟨c, by simp [ht], h⟩

/-- The first token of a line is the first span of what follows its leading blanks. -/
lemma head?_tokens (k : Continuation) (line : List Char) :
    (tokens k line).head? = (readLine k (trimStart line)).head? := by
  rw [tokens_eq_tokens_trimStart, tokens]
  by_cases h : trimStart line = []
  · rw [h, readLine_nil]
    rfl
  · have hs : StartsSolid (trimStart line) := startsSolid_trimStart line
    have hr : read k (trimStart line) = scan k (trimStart line) := if_pos ⟨hs, h⟩
    have ht : HasSolid (read k (trimStart line)).text := by
      rw [hr]
      exact hasSolid_text_scan k hs h
    rw [readLine_of_ne_nil k h, List.filter_cons_of_pos (by simpa using ht)]
    rfl

@[simp] lemma style_scanString (q : Quote) (s : List Char) : (scanString q s).style = some .string := by
  unfold scanString
  split <;> rfl

@[simp] lemma style_scanComment (s : List Char) : (scanComment s).style = some .comment := by
  unfold scanComment
  split <;> rfl

/-- A span has a style unless it is a punctuation mark. -/
lemma isSome_style_or_signal_scan (k : Continuation) {s : List Char} (hs : s ≠ []) :
    (scan k s).style.isSome = true ∨ (scan k s).signal.isSome = true := by
  cases k with
  | string q => simp [scan]
  | comment => simp [scan]
  | code =>
    obtain ⟨c, s, rfl⟩ := List.exists_cons_of_ne_nil hs
    -- of the branches of `scanCode` only that of the punctuation marks gives no style
    simp only [scan, scanCode]
    split
    · simp [Scan.cons]
    · split
      · exact .inl rfl
      · split
        · exact .inr rfl
        · split
          · simp [Scan.cons]
          · split
            · exact .inl rfl
            · split <;> exact .inl rfl

/-- Code is what is neither a run of blanks nor a comment. -/
lemma isCode_read_iff (k : Continuation) (s : List Char) :
    (read k s).isCode = true ↔ HasSolid (read k s).text ∧ (read k s).style ≠ some .comment := by
  unfold read
  split
  · rename_i h
    have ht := hasSolid_text_scan k h.1 h.2
    have hc := isSome_style_or_signal_scan k h.2
    simp [Scan.isCode, ht, hc]
  · simp [Scan.isCode, not_hasSolid_leadingBlanks]

end GoLayout.Lexis
