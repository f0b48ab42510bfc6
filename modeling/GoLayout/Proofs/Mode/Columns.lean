import GoLayout.Proofs.Mode.Run

/-!
# Columns of a line

The offset of a span and its column are two measures of one text, the part of the line before the span: the offset
counts bytes, and the column goes from tab stop to tab stop.  As a placed cursor stands behind the text that its mark
has measured, both are known at every step of a line, whatever string or comment is open.  Counted in machine words, the
column of a step is the same number, unless the count fails.

Columns grow from span to span, since no span is empty.  The leading blanks of a line are one span, so the first span
behind them starts at the column that is measured as the indentation of the line.
-/

namespace GoLayout

open GoLayout.Text GoLayout.Lexis

namespace Mode

variable {c : Cursor} {s : State} {t : Step}

/-! ## The text before a step -/

lemma placed_of_mem_run (h : c.Placed) (ht : t ∈ run c s) :
    t.cursor.Placed ∧ t.cursor.line = c.line ∧ t.cursor.tabSize = c.tabSize := by
  fun_induction run c s with
  | case1 => cases ht
  | case2 c s _ u ih =>
    rcases List.mem_cons.1 ht with rfl | ht
    · exact ⟨placed_token s h, rfl, rfl⟩
    · exact ih (placed_token s h) ht

/-- The measures of a step in a line are those of the text before it, counted in numbers and in words. -/
lemma exists_before_of_mem_run {tabSize : Nat} {line : List Char} (ht : t ∈ run (.ofLine tabSize line) s) :
    ∃ before after, line = before ++ t.span.text ++ after ∧ t.span.start = utf8Length before ∧
      t.cursor.column = columnAfter tabSize before ∧ t.cursor.column? = columnFrom? tabSize 0 before := by
  obtain ⟨⟨before, hline, hmark⟩, hl, htab⟩ := placed_of_mem_run (Cursor.placed_ofLine tabSize line) ht
  have hline' : t.cursor.line = before ++ (t.cursor.token ++ t.cursor.rest) := by
    rw [hline, List.append_assoc]
  have htab' : t.cursor.tabSize = tabSize := htab
  have hstart : t.cursor.start = utf8Length before := by
    rw [Cursor.start, hmark, Mark.offset_after]
    exact Nat.zero_add _
  refine ⟨before, t.cursor.rest, hl.symm.trans hline, hstart, ?_, ?_⟩
  · rw [Cursor.column, hmark, Mark.column_after, htab']
    rfl
  · rw [Cursor.column?, countColumn?, hstart, hline', upToByte?_append, htab']
    rfl

/-! ## Growth -/

lemma column_token (c : Cursor) (s : State) : (token c s).cursor.column = c.startToken.column := rfl

lemma column_token_lt (h : ¬c.AtEnd) (s : State) :
    (token c s).cursor.column < (token c s).cursor.startToken.column := by
  have ht : (token c s).scan.text ≠ [] := by
    rw [scan_token]
    exact text_read_ne_nil _ h
  rw [column_startToken_token, column_token]
  exact lt_columnFrom ht _ _

lemma le_column_of_mem_run (ht : t ∈ run c s) : c.startToken.column ≤ t.cursor.column := by
  fun_induction run c s with
  | case1 => cases ht
  | case2 c s h u ih =>
    rcases List.mem_cons.1 ht with rfl | ht
    · rfl
    · exact (column_token_lt h s).le.trans (ih ht)

lemma pairwise_column_run (c : Cursor) (s : State) :
    ((run c s).map fun t => t.cursor.column).Pairwise (· < ·) := by
  rw [List.pairwise_map]
  fun_induction run c s with
  | case1 => exact .nil
  | case2 c s h t ih => exact .cons (fun u hu => (column_token_lt h s).trans_le (le_column_of_mem_run hu)) ih

/-! ## The first span behind the leading blanks -/

lemma text_span_token (c : Cursor) (s : State) : (token c s).span.text = (read s.continuation c.rest).text :=
  cursor_token c s

lemma find?_run_of_startsSolid (h : StartsSolid c.rest) (he : ¬c.AtEnd) (s : State) :
    (run c s).find? (HasSolid ·.span.text) = some (token c s) := by
  have hr : read s.continuation c.rest = scan s.continuation c.rest := if_pos ⟨h, he⟩
  have ht : HasSolid (token c s).span.text := by
    rw [text_span_token, hr]
    exact hasSolid_text_scan _ h he
  rw [run_of_not_atEnd he, List.find?_cons_of_pos (by simpa using ht)]

/-- The first span of a line that reads more than blanks stands behind the leading blanks. -/
lemma mark_find?_run (tabSize : Nat) (line : List Char) (s : State) :
    ((run (.ofLine tabSize line) s).find? (HasSolid ·.span.text)).map (fun t => t.cursor.mark)
      = if trimStart line = [] then none else some (Mark.after tabSize {} (leadingBlanks line)) := by
  set c := Cursor.ofLine tabSize line
  have hend : c.AtEnd ↔ line = [] := Iff.rfl
  by_cases hb : StartsSolid line
  · rw [hb.trimStart_eq]
    by_cases hl : line = []
    · rw [if_pos hl, run_of_atEnd (hend.2 hl)]
      rfl
    · rw [if_neg hl, find?_run_of_startsSolid (c := c) hb (hend.not.2 hl), show leadingBlanks line = [] from hb]
      rfl
  · -- the first step reads the leading blanks, and the run goes on behind them
    have hl : line ≠ [] := by
      rintro rfl
      exact hb rfl
    have hr : read s.continuation line = ⟨leadingBlanks line, trimStart line, none, none, s.continuation⟩ :=
      if_neg fun e => hb e.1
    have htext : (token c s).span.text = leadingBlanks line :=
      (text_span_token c s).trans (congrArg Scan.text hr)
    have hrest : (token c s).cursor.rest = trimStart line := (rest_token c s).trans (congrArg Scan.rest hr)
    have hblank : ¬HasSolid (token c s).span.text := by
      rw [htext]
      exact not_hasSolid_leadingBlanks line
    rw [run_of_not_atEnd (hend.not.2 hl), List.find?_cons_of_neg (by simpa using hblank)]
    by_cases ht : trimStart line = []
    · have hnext : (token c s).cursor.AtEnd := hrest.trans ht
      rw [if_pos ht, run_of_atEnd hnext]
      rfl
    · have hsolid : StartsSolid (token c s).cursor.rest := hrest ▸ startsSolid_trimStart line
      have hnext : ¬(token c s).cursor.AtEnd := fun e => ht (hrest.symm.trans e)
      rw [if_neg ht, find?_run_of_startsSolid hsolid hnext, ← htext]
      rfl

lemma column?_find?_run (tabSize : Nat) (line : List Char) (s : State) :
    ((run (.ofLine tabSize line) s).find? (HasSolid ·.span.text)).map (fun t => t.cursor.column?)
      = if trimStart line = [] then none else some (Cursor.ofLine tabSize line).indentation? := by
  have hmark := mark_find?_run tabSize line s
  cases hf : (run (.ofLine tabSize line) s).find? (HasSolid ·.span.text) with
  | none =>
    rw [hf] at hmark
    split at hmark
    · rename_i hnil
      rw [if_pos hnil]
      rfl
    · cases hmark
  | some t =>
    rw [hf] at hmark
    split at hmark
    · cases hmark
    · rename_i hne
      obtain ⟨-, hl, htab⟩ := placed_of_mem_run (Cursor.placed_ofLine tabSize line) (List.mem_of_find?_eq_some hf)
      have hbehind : t.cursor.mark = Mark.after tabSize {} (leadingBlanks line) := Option.some.inj hmark
      have hstart : t.cursor.start = utf8Length (leadingBlanks line) := by
        rw [Cursor.start, hbehind, Mark.offset_after]
        exact Nat.zero_add _
      rw [if_neg hne, Option.map_some, Cursor.column?, hstart, hl, htab, ← utf8Length_sub_trimStart]
      rfl

/-! ## Columns in machine words -/

lemma column_of_column? {tabSize k : Nat} {line : List Char} (ht : t ∈ run (.ofLine tabSize line) s)
    (hk : t.cursor.column? = some k) : t.cursor.column = k := by
  obtain ⟨before, -, -, -, hcolumn, hcount⟩ := exists_before_of_mem_run ht
  rw [hcolumn]
  exact columnFrom_of_columnFrom? (hcount.symm.trans hk)

lemma indentation_of_indentation? {tabSize k : Nat} {line : List Char}
    (hk : (Cursor.ofLine tabSize line).indentation? = some k) : (Cursor.ofLine tabSize line).indentation = k := by
  have hup : upToByte? (utf8Length (leadingBlanks line)) line = some (leadingBlanks line) := by
    have hcut := upToByte?_append (leadingBlanks line) (trimStart line)
    rwa [leadingBlanks_append_trimStart] at hcut
  have hcount : columnFrom? tabSize 0 (leadingBlanks line) = some k := by
    have hline : (Cursor.ofLine tabSize line).indentation?
        = countColumn? tabSize (utf8Length line - utf8Length (trimStart line)) line := rfl
    rwa [hline, utf8Length_sub_trimStart, countColumn?, hup] at hk
  exact columnFrom_of_columnFrom? hcount

/-- **The columns of the spans follow the line.**

Let a line be read in any state, with any distance of tab stops.  Each column is counted in machine words, and the count
fails only if some sum is no word; the columns that are counted grow from span to span.  Each is that of the text before
its span, and lies between the number of the characters there and as many times the tab width; it is counted if that
product is a word.  The column of the first span that reads more than the leading blanks is counted as the indentation of
the line is, and behind any tab there is a tab stop, counted if the tab is not too far to the right.  What is counted is
what a cursor tells as a number. -/
theorem columns_run (tabSize : Nat) (line : List Char) (s : State) :
    let ts := run (.ofLine tabSize line) s
    ts.Pairwise (fun t u => ∀ i ∈ t.cursor.column?, ∀ j ∈ u.cursor.column?, i < j) ∧
      (∀ t ∈ ts, ∃ before after, line = before ++ t.span.text ++ after ∧ t.span.start = utf8Length before ∧
        t.cursor.column = columnAfter tabSize before ∧
        (before.length * tabWidth tabSize < wordValues → t.cursor.column?.isSome) ∧
        ∀ k ∈ t.cursor.column?, k = t.cursor.column ∧ before.length ≤ k ∧ k ≤ before.length * tabWidth tabSize) ∧
      (((ts.find? (HasSolid ·.span.text)).map fun t => t.cursor.column?)
          = (if trimStart line = [] then none else some (Cursor.ofLine tabSize line).indentation?) ∧
        ∀ k ∈ (Cursor.ofLine tabSize line).indentation?, k = (Cursor.ofLine tabSize line).indentation) ∧
      ∀ before after, line = before ++ '\t' :: after →
        let counted := countColumn? tabSize (utf8Length (before ++ ['\t'])) line
        ((before.length + 1) * tabWidth tabSize < wordValues → counted.isSome) ∧
          ∀ k ∈ counted, tabWidth tabSize ∣ k := by
  intro ts
  refine ⟨?_, fun t ht => ?_, ?_, ?_⟩
  · -- the numbers grow, and what is counted is the number
    refine (List.pairwise_map.1 (pairwise_column_run (.ofLine tabSize line) s)).imp_of_mem ?_
    intro t u ht hu hlt i hi j hj
    rwa [column_of_column? ht hi, column_of_column? hu hj] at hlt
  · obtain ⟨before, after, hline, hstart, hcolumn, hcount⟩ := exists_before_of_mem_run ht
    have hle := length_le_columnFrom tabSize 0 before
    have hge := columnFrom_le tabSize 0 before
    rw [Nat.zero_add] at hle hge
    refine ⟨before, after, hline, hstart, hcolumn, fun hword => ?_, fun k hk => ?_⟩
    · rw [hcount, columnFrom?_eq_some (by rwa [Nat.zero_add])]
      rfl
    · have hk' : t.cursor.column = k := column_of_column? ht hk
      rw [← hk', hcolumn]
      exact ⟨rfl, hle, hge⟩
  · exact ⟨column?_find?_run tabSize line s, fun k hk => (indentation_of_indentation? hk).symm⟩
  · rintro before after rfl
    dsimp only
    rw [show before ++ '\t' :: after = before ++ ['\t'] ++ after by simp, countColumn?, upToByte?_append]
    refine ⟨fun hword => ?_, fun k hk => ?_⟩
    · rw [Option.bind_some, columnFrom?_eq_some (by simpa using hword)]
      rfl
    · rw [← columnFrom_of_columnFrom? hk]
      exact tabWidth_dvd_columnAfter_tab tabSize before

/-- Behind tabs and a wide blank, a word whose characters take three bytes each, a tab, and a string with a tab in it:
the tab stops have no effect on the offsets, and at a distance of zero they are as close as characters.  Where two tabs
leave the words, only the start of the line has a column. -/
theorem columns_run_of_tabs :
    let line := "\t \u3000\t日本\t\"\tx".toList
    let s := default.startState 0
    let ts tabSize := run (.ofLine tabSize line) s
    ((ts 4).map (fun t => t.cursor.column?) = [some 0, some 8, some 10, some 12] ∧
        (ts 0).map (fun t => t.cursor.column?) = [some 0, some 4, some 6, some 7] ∧
        (ts 9223372036854775808).map (fun t => t.cursor.column?) = [some 0, none, none, none]) ∧
      ∃ t ∈ ts 4, (t.span.start = 12 ∧ t.cursor.column? = some 10) ∧
        ∃ before after, line = before ++ t.span.text ++ after ∧ t.span.start = utf8Length before ∧
          10 = columnAfter 4 before ∧ before.length ≤ 10 ∧ 10 ≤ before.length * tabWidth 4 := by
  intro line s ts
  obtain ⟨-, hbounds, -⟩ := columns_run 4 line s
  have hthird : (ts 4)[2]?.map (fun t => (t.span.start, t.cursor.column?)) = some (12, some 10) := by decide +kernel
  obtain ⟨t, ht, hmarks⟩ := Option.map_eq_some_iff.1 hthird
  have hmem : t ∈ ts 4 := List.mem_of_getElem? ht
  obtain ⟨before, after, hline, hstart, hcolumn, -, hcount⟩ := hbounds t hmem
  obtain ⟨hten, hbetween⟩ := hcount 10 (Prod.mk.inj hmarks).2
  exact ⟨⟨by decide +kernel, by decide +kernel, by decide +kernel⟩, t, hmem, Prod.mk.inj hmarks, before, after,
    hline, hstart, hten.trans hcolumn, hbetween⟩

end Mode

end GoLayout
