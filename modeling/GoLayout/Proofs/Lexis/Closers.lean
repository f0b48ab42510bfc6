import GoLayout.Proofs.Lexis.Tokens
import Mathlib.Algebra.Group.Nat.Even
import Mathlib.Data.List.Infix

/-!
# What closes a string or a comment

The scanner looks for the end of a string with one flag, which tells whether the next character is escaped, and
for the end of a comment with another one, which tells whether a star stands before.  What they find is said here
without flags.  A raw string is closed by the first backtick, another string by the first of its quotes that has
an even number of backslashes directly before it, and a comment by the first `*/`.  Where there is no such place
the whole text is inside.

* `Extent`: how far the inside of a string or a comment reaches, and what the text goes on with behind it;
* `extent_scan`: the scanner takes just the inside, and blanks before it make no difference;
* `Extent.unique`: there is no choice.
-/

namespace GoLayout

namespace Continuation

/-- The style of the text inside of what is open. -/
def style? : Continuation → Option Style
  | .code => none
  | .string _ => some .string
  | .comment => some .comment

/-- The characters that open a string or a comment. -/
def opener : Continuation → List Char
  | .code => []
  | .string q => [q.char]
  | .comment => ['/', '*']

end Continuation

namespace Lexis

open GoLayout.Text

/-! ## Closers -/

/-- The number of backslashes that stand directly before the end of a text. -/
def trailingBackslashes (text : List Char) : Nat := (text.reverse.takeWhile (· == '\\')).length

/-- The text ends with something that closes what is open: the quote of a string, if the string is raw or an
even number of backslashes stands before the quote, or the two characters that end a comment. -/
def EndsInCloser : Continuation → List Char → Prop
  | .code, _ => False
  | .string q, text =>
    text.getLast? = some q.char ∧ (q.isRaw = true ∨ Even (trailingBackslashes text.dropLast))
  | .comment, text => ['*', '/'] <:+ text

instance : (k : Continuation) → (text : List Char) → Decidable (EndsInCloser k text)
  | .code, _ => inferInstanceAs (Decidable False)
  | .string _, _ => inferInstanceAs (Decidable (_ ∧ _))
  | .comment, text => inferInstanceAs (Decidable (['*', '/'] <:+ text))

/-- Some part from the front of a text ends in a closer. -/
def HasCloser (k : Continuation) (text : List Char) : Prop := ∃ p, p <+: text ∧ EndsInCloser k p

instance (k : Continuation) (text : List Char) : Decidable (HasCloser k text) :=
  decidable_of_iff (∃ p ∈ text.inits, EndsInCloser k p) (by simp [HasCloser])

/-- The text ends in a closer, and that is the first one. -/
structure EndsInFirstCloser (k : Continuation) (text : List Char) : Prop where
  closer : EndsInCloser k text
  first : ∀ p, p <+: text → EndsInCloser k p → p = text

/-- How far a text is inside of what is open, what is left of it, and what it goes on with there. -/
inductive Extent (k : Continuation) : List Char → List Char → List Char → Continuation → Prop
  /-- Nothing closes what is open. -/
  | stays {text : List Char} (h : ¬HasCloser k text) : Extent k text text [] k
  /-- The inside reaches to the end of the first closer. -/
  | closes {inside rest : List Char} (h : EndsInFirstCloser k inside) :
    Extent k (inside ++ rest) inside rest .code

section Closers

variable {k : Continuation} {text inside rest : List Char}

lemma trailingBackslashes_concat (text : List Char) (c : Char) :
    trailingBackslashes (text ++ [c]) = if c = '\\' then trailingBackslashes text + 1 else 0 := by
  unfold trailingBackslashes
  by_cases h : c = '\\' <;> simp [h]

lemma endsInCloser_string_concat (q : Quote) (text : List Char) (c : Char) :
    EndsInCloser (.string q) (text ++ [c])
      ↔ c = q.char ∧ (q.isRaw = true ∨ Even (trailingBackslashes text)) := by
  simp [EndsInCloser]

lemma endsInCloser_comment_concat (text : List Char) (c : Char) :
    EndsInCloser .comment (text ++ [c]) ↔ c = '/' ∧ text.getLast? = some '*' := by
  have h : ['*', '/'] = ['*'] ++ ['/'] := rfl
  constructor
  · rintro ⟨before, hb⟩
    rw [h, ← List.append_assoc] at hb
    obtain ⟨rfl, hc⟩ := List.append_inj' hb rfl
    exact ⟨(List.cons.inj hc).1.symm, by simp⟩
  · rintro ⟨rfl, ht⟩
    obtain ⟨before, rfl⟩ := List.getLast?_eq_some_iff.1 ht
    exact ⟨before, by simp⟩

/-- One more character may end the first closer, if there was none before. -/
lemma hasCloser_concat (k : Continuation) (text : List Char) (c : Char) :
    HasCloser k (text ++ [c]) ↔ HasCloser k text ∨ EndsInCloser k (text ++ [c]) := by
  constructor
  · rintro ⟨p, hp, hc⟩
    rcases List.prefix_concat_iff.1 hp with rfl | hp
    · exact .inr hc
    · exact .inl ⟨p, hp, hc⟩
  · rintro (⟨p, hp, hc⟩ | hc)
    · exact ⟨p, hp.trans (List.prefix_append _ _), hc⟩
    · exact ⟨_, List.prefix_rfl, hc⟩

lemma endsInFirstCloser_concat {c : Char} (h : ¬HasCloser k text) (hc : EndsInCloser k (text ++ [c])) :
    EndsInFirstCloser k (text ++ [c]) := by
  refine ⟨hc, fun p hp hpc => ?_⟩
  rcases List.prefix_concat_iff.1 hp with rfl | hp
  · rfl
  · exact absurd ⟨p, hp, hpc⟩ h

lemma EndsInFirstCloser.unique {inside' : List Char} (h : EndsInFirstCloser k inside)
    (h' : EndsInFirstCloser k inside') (hp : inside <+: text) (hp' : inside' <+: text) :
    inside = inside' := by
  rcases List.prefix_or_prefix_of_prefix hp hp' with hi | hi
  · exact h'.first _ hi h.closer
  · exact (h.first _ hi h'.closer).symm

theorem Extent.unique {inside' rest' : List Char} {after after' : Continuation}
    (h : Extent k text inside rest after) (h' : Extent k text inside' rest' after') :
    inside = inside' ∧ rest = rest' ∧ after = after' := by
  cases h with
  | stays hn =>
    cases h' with
    | stays _ => exact ⟨rfl, rfl, rfl⟩
    | closes hf => exact absurd ⟨_, List.prefix_append _ _, hf.closer⟩ hn
  | closes hf =>
    generalize ht : inside ++ rest = t at h'
    cases h' with
    | stays hn => exact absurd ⟨_, ht ▸ List.prefix_append _ _, hf.closer⟩ hn
    | closes hf' =>
      have hi : inside = inside' :=
        hf.unique hf' (ht ▸ List.prefix_append inside rest) (List.prefix_append inside' rest')
      subst hi
      exact ⟨rfl, List.append_cancel_left ht, rfl⟩

/-- The inside of a text that has a closer reaches to the first one. -/
lemma Extent.of_hasCloser {after : Continuation} (h : Extent k text inside rest after)
    (hc : HasCloser k text) : text = inside ++ rest ∧ EndsInFirstCloser k inside ∧ after = .code := by
  cases h with
  | stays hn => exact absurd hc hn
  | closes hf => exact ⟨rfl, hf, rfl⟩

lemma not_hasCloser_of_blank {blanks : List Char} (h : ∀ c ∈ blanks, isBlank c = true) :
    ¬HasCloser k blanks := by
  rintro ⟨p, hp, hc⟩
  have hlast : ∀ c ∈ p.getLast?, isBlank c = true := fun c hc =>
    h c (hp.subset (List.mem_of_getLast? hc))
  cases k with
  | code => exact hc
  | string q =>
    have hq := hlast q.char hc.1
    cases q <;> exact absurd hq (by decide)
  | comment =>
    obtain ⟨before, rfl⟩ := hc
    exact absurd (hlast '/' (by simp)) (by decide)

end Closers

/-! ## The scanner's search -/

/-- The cut after what closes a continuation.  `flag` is what the scanner remembers of the character before. -/
def closer? : Continuation → Bool → List Char → Option Cut
  | .code, _, _ => none
  | .string q, flag, text => stringCloser? q flag text
  | .comment, flag, text => commentCloser? flag text

/-- What the scanner remembers behind a text. -/
def flagAfter : Continuation → List Char → Bool
  | .code, _ => false
  | .string q, text => !q.isRaw && !decide (Even (trailingBackslashes text))
  | .comment, text => text.getLast? == some '*'

/-- Without anything before there is nothing to remember, and blanks are forgotten at once. -/
lemma flagAfter_of_blank (k : Continuation) {blanks : List Char} (h : ∀ c ∈ blanks, isBlank c = true) :
    flagAfter k blanks = false := by
  rcases List.eq_nil_or_concat blanks with rfl | ⟨before, c, rfl⟩
  · cases k <;> simp [flagAfter, trailingBackslashes]
  · have hc : isBlank c = true := h c (by simp)
    have hb : c ≠ '\\' := by
      rintro rfl
      exact absurd hc (by decide)
    have hs : c ≠ '*' := by
      rintro rfl
      exact absurd hc (by decide)
    cases k <;> simp [flagAfter, trailingBackslashes_concat, hb, hs]

/-- The flag tells at each character whether it ends a closer, and what to remember. -/
lemma closer?_cons (k : Continuation) (before : List Char) (c : Char) (text : List Char) :
    closer? k (flagAfter k before) (c :: text)
      = if EndsInCloser k (before ++ [c]) then some ⟨[c], text⟩
        else (closer? k (flagAfter k (before ++ [c])) text).map (Cut.cons c) := by
  cases k with
  | code => simp [closer?, EndsInCloser]
  | string q =>
    -- an escaped character, a backslash included, leaves the next one unescaped
    have hflag : flagAfter (.string q) (before ++ [c])
        = (!flagAfter (.string q) before && !q.isRaw && c == '\\') := by
      have heven : decide (Even (trailingBackslashes before + 1)) = !decide (Even (trailingBackslashes before)) := by
        rw [← decide_not]
        exact decide_eq_decide.2 Nat.even_add_one
      simp only [flagAfter, trailingBackslashes_concat]
      by_cases hc : c = '\\'
      · rw [if_pos hc, heven]
        cases hr : q.isRaw <;> simp only [hc, Bool.not_not, Bool.not_false, Bool.not_true, Bool.true_and,
          Bool.and_true, Bool.false_and, Bool.and_false, beq_self_eq_true]
      · rw [if_neg hc, beq_eq_false_iff_ne.2 hc, Bool.and_false]
        simp
    have hends : EndsInCloser (.string q) (before ++ [c])
        ↔ c = q.char ∧ flagAfter (.string q) before = false := by
      rw [endsInCloser_string_concat]
      cases hr : q.isRaw <;> simp [flagAfter, hr]
    simp only [closer?, stringCloser?, hflag, hends]
  | comment =>
    have hflag : flagAfter .comment (before ++ [c]) = (c == '*') := by
      simp [flagAfter]
    have hends : EndsInCloser .comment (before ++ [c])
        ↔ c = '/' ∧ flagAfter .comment before = true := by
      rw [endsInCloser_comment_concat]
      simp [flagAfter]
    simp only [closer?, commentCloser?, hflag, hends]

/-- What the scanner finds behind a text without a closer ends in the first closer; if it finds nothing, there is
none. -/
lemma closer?_spec {k : Continuation} {before : List Char} (hb : ¬HasCloser k before) (text : List Char) :
    match closer? k (flagAfter k before) text with
    | some cut => cut.whole = text ∧ EndsInFirstCloser k (before ++ cut.taken)
    | none => ¬HasCloser k (before ++ text) := by
  -- the flag tells what was read before, so the text before grows by each character
  induction text generalizing before with
  | nil =>
    have hn : closer? k (flagAfter k before) [] = none := by cases k <;> rfl
    rw [hn, List.append_nil]
    exact hb
  | cons c text ih =>
    rw [closer?_cons]
    by_cases hc : EndsInCloser k (before ++ [c])
    · rw [if_pos hc]
      exact ⟨rfl, endsInFirstCloser_concat hb hc⟩
    · have hb' : ¬HasCloser k (before ++ [c]) := by
        rw [hasCloser_concat]
        exact not_or.2 ⟨hb, hc⟩
      have ih := ih hb'
      rw [if_neg hc]
      cases hcut : closer? k (flagAfter k (before ++ [c])) text with
      | none =>
        rw [hcut] at ih
        simpa using ih
      | some cut =>
        rw [hcut] at ih
        obtain ⟨hw, hf⟩ := ih
        refine ⟨by rw [Cut.whole_cons, hw], ?_⟩
        simpa [Cut.cons] using hf

/-! ## Spans inside of strings and comments -/

section Spans

variable {k : Continuation} {blanks line : List Char}

lemma scan_of_ne_code (hk : k ≠ .code) (text : List Char) :
    scan k text = match closer? k false text with
      | some cut => ⟨cut.taken, cut.rest, k.style?, none, .code⟩
      | none => ⟨text, [], k.style?, none, k⟩ := by
  cases k with
  | code => exact absurd rfl hk
  | string q => rfl
  | comment => rfl

lemma scan_eta (hk : k ≠ .code) (text : List Char) :
    scan k text
      = ⟨(scan k text).text, (scan k text).rest, k.style?, none, (scan k text).continuation⟩ := by
  rw [scan_of_ne_code hk]
  cases closer? k false text <;> rfl

/-- **The scanner takes the inside of a string or a comment and no more.**  Blanks that stand before the text in
its line make no difference. -/
theorem extent_scan (hk : k ≠ .code) (hb : ∀ c ∈ blanks, isBlank c = true) (text : List Char) :
    Extent k (blanks ++ text) (blanks ++ (scan k text).text) (scan k text).rest
      (scan k text).continuation := by
  have h := closer?_spec (not_hasCloser_of_blank (k := k) hb) text
  rw [flagAfter_of_blank k hb] at h
  rw [scan_of_ne_code hk]
  cases hcut : closer? k false text with
  | none =>
    rw [hcut] at h
    exact .stays h
  | some cut =>
    rw [hcut] at h
    obtain ⟨hw, hf⟩ := h
    rw [← hw, Cut.whole, ← List.append_assoc]
    exact .closes hf

lemma extent_scan_self (hk : k ≠ .code) (text : List Char) :
    Extent k text (scan k text).text (scan k text).rest (scan k text).continuation := by
  have hb : ∀ c ∈ ([] : List Char), isBlank c = true := by simp
  exact extent_scan hk hb text

lemma extent_scan_trimStart (hk : k ≠ .code) (line : List Char) :
    Extent k line (leadingBlanks line ++ (scan k (trimStart line)).text) (scan k (trimStart line)).rest
      (scan k (trimStart line)).continuation := by
  have hb : ∀ c ∈ leadingBlanks line, isBlank c = true := fun _ => isBlank_of_mem_leadingBlanks
  have h := extent_scan hk hb (trimStart line)
  rwa [leadingBlanks_append_trimStart] at h

lemma read_opener (hk : k ≠ .code) (text : List Char) :
    read .code (k.opener ++ text)
      = ⟨k.opener ++ (scan k text).text, (scan k text).rest, k.style?, none,
          (scan k text).continuation⟩ := by
  have hread : read .code (k.opener ++ text)
      = { scan k text with text := k.opener ++ (scan k text).text } := by
    cases k with
    | code => exact absurd rfl hk
    | string q => cases q <;> rfl
    | comment => rfl
  rw [hread, scan_eta hk]

lemma readLine_of_trimStart_ne_nil (k : Continuation) (h : trimStart line ≠ []) :
    readLine k line = indentSpan k line ++ scan k (trimStart line) ::
      readLine (scan k (trimStart line)).continuation (scan k (trimStart line)).rest := by
  have hr : read k (trimStart line) = scan k (trimStart line) :=
    if_pos ⟨startsSolid_trimStart line, h⟩
  rw [readLine_eq_append, readLine_of_ne_nil k h, hr]

/-- A line without a closer is leading blanks and one span of the inside. -/
lemma readLine_of_not_hasCloser (hk : k ≠ .code) (h : ¬HasCloser k line) :
    readLine k line = indentSpan k line ++
      if trimStart line = [] then [] else [⟨trimStart line, [], k.style?, none, k⟩] := by
  by_cases ht : trimStart line = []
  · rw [readLine_eq_append, ht, readLine_nil, if_pos rfl]
  · obtain ⟨htext, hrest, hafter⟩ := (extent_scan_trimStart hk line).unique (.stays h)
    have htext : (scan k (trimStart line)).text = trimStart line :=
      List.append_cancel_left (htext.trans (leadingBlanks_append_trimStart line).symm)
    rw [readLine_of_trimStart_ne_nil k ht, if_neg ht, scan_eta hk, htext, hrest, hafter, readLine_nil]

/-- A line with a closer is leading blanks, one span that ends in the first closer, and a line of code. -/
lemma readLine_of_hasCloser (hk : k ≠ .code) (h : HasCloser k line) :
    ∃ inside rest, line = inside ++ rest ∧ EndsInFirstCloser k inside ∧
      leadingBlanks inside = leadingBlanks line ∧
      readLine k line
        = indentSpan k line ++ ⟨trimStart inside, rest, k.style?, none, .code⟩ :: readLine .code rest := by
  have hne : trimStart line ≠ [] := by
    intro ht
    have hl := leadingBlanks_append_trimStart line
    rw [ht, List.append_nil] at hl
    exact not_hasCloser_of_blank (fun _ hc => isBlank_of_mem_leadingBlanks (hl ▸ hc)) h
  have hsolid : StartsSolid (scan k (trimStart line)).text := by
    have hw : (scan k (trimStart line)).text ++ (scan k (trimStart line)).rest = trimStart line :=
      whole_scan k _
    exact StartsSolid.of_append (hw ▸ startsSolid_trimStart line)
  obtain ⟨hline, hfirst, hafter⟩ := (extent_scan_trimStart hk line).of_hasCloser h
  refine ⟨_, _, hline, hfirst, leadingBlanks_append (fun _ => isBlank_of_mem_leadingBlanks) hsolid, ?_⟩
  rw [readLine_of_trimStart_ne_nil k hne, scan_eta hk, hafter,
    trimStart_append fun _ => isBlank_of_mem_leadingBlanks, hsolid.trimStart_eq]

end Spans

end Lexis

end GoLayout
