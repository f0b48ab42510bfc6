import GoLayout.Proofs.Document.Stability
import Mathlib.Data.List.Forall2

/-!
# Re-indenting keeps the content

Highlighting a document and re-indenting it are two runs over different texts.  Their states differ in
contexts and columns, but what the next line goes on with is the same at each line: it depends on the
tokens, and these do not depend on leading blanks.  Hence a line is kept, emptied or written with other
leading blanks according to what highlighting the document has left open before it, and highlighting the
result gives the same tokens.
-/

namespace GoLayout

open GoLayout.Text GoLayout.Lexis

/-! ## What may happen to a line -/

/-- What re-indenting does to a line that goes on with `k`. -/
inductive Respaced (k : Continuation) (l : Line) : Line → Prop
  /-- A line inside a string or a comment is kept. -/
  | kept (h : k ≠ .code) : Respaced k l l
  /-- Any other line that holds only blanks is emptied. -/
  | emptied (h : k = .code) (ht : trimStart l.text = []) : Respaced k l ⟨[], l.ending⟩
  /-- Any other line gets some blanks in front of its trimmed text. -/
  | indented (h : k = .code) (ht : trimStart l.text ≠ []) {blanks : List Char}
    (hb : ∀ c ∈ blanks, isBlank c = true) : Respaced k l ⟨blanks ++ trimStart l.text, l.ending⟩

namespace Respaced

variable {k : Continuation} {l l' : Line}

lemma ending_eq (h : Respaced k l l') : l'.ending = l.ending := by
  cases h <;> rfl

lemma trimStart_eq (h : Respaced k l l') : trimStart l'.text = trimStart l.text := by
  cases h with
  | kept _ => rfl
  | emptied _ ht => exact ht.symm
  | indented _ _ hb => rw [trimStart_append hb, trimStart_trimStart]

lemma tokens_eq (h : Respaced k l l') : tokens k l'.text = tokens k l.text := by
  rw [tokens_eq_tokens_trimStart, h.trimStart_eq, ← tokens_eq_tokens_trimStart]

lemma continuationAfter_eq (h : Respaced k l l') :
    continuationAfter (readLine k l'.text) k = continuationAfter (readLine k l.text) k := by
  rw [continuationAfter_readLine, h.trimStart_eq, ← continuationAfter_readLine]

end Respaced

/-! ## The tokens of a document -/

/-- The tokens among the spans of a line, each as its text with its style. -/
def LineSpans.tokens (l : LineSpans) : List (List Char × Option Style) :=
  (l.spans.filter (HasSolid ·.text)).map fun x => (x.text, x.style)

/-- The tokens of lines of which the first one goes on with `k`. -/
def tokensFrom : Continuation → List (List Char) → List (List (List Char × Option Style))
  | _, [] => []
  | k, line :: rest =>
    (tokens k line).map (fun r => (r.text, r.style)) ::
      tokensFrom (continuationAfter (readLine k line) k) rest

/-- What is left open before each of some lines and after the last one. -/
def continuationsFrom (k : Continuation) (ls : List (List Char)) : List Continuation :=
  ls.scanl (fun k line => continuationAfter (readLine k line) k) k

lemma continuationsFrom_cons (k : Continuation) (line : List Char) (ls : List (List Char)) :
    continuationsFrom k (line :: ls)
      = k :: continuationsFrom (continuationAfter (readLine k line) k) ls :=
  List.scanl_cons

/-- Lines that are left out at the end take nothing from the tokens of the others. -/
lemma tokensFrom_take (k : Continuation) (ls : List (List Char)) (n : Nat) :
    tokensFrom k (ls.take n) = (tokensFrom k ls).take n := by
  induction ls generalizing k n with
  | nil => simp [tokensFrom]
  | cons line ls ih =>
    cases n with
    | zero => rfl
    | succ n => exact congrArg (_ :: ·) (ih _ n)

lemma continuationsFrom_take (k : Continuation) (ls : List (List Char)) (n : Nat) :
    continuationsFrom k (ls.take n) = (continuationsFrom k ls).take (n + 1) := by
  rw [continuationsFrom, continuationsFrom, List.take_scanl]

lemma tokens_spansFrom (number offset : Nat) (rs : List Scan) :
    LineSpans.tokens ⟨number, spansFrom offset rs⟩
      = (rs.filter (HasSolid ·.text)).map fun r => (r.text, r.style) := by
  unfold LineSpans.tokens
  dsimp only
  induction rs generalizing offset with
  | nil => rfl
  | cons r rs ih =>
    rw [spansFrom, List.filter_cons, List.filter_cons]
    split
    · rw [List.map_cons, List.map_cons, ih]
    · exact ih _

namespace Mode

variable (m : Mode)

/-- The states before each of some lines, and after the last one. -/
def states (s : State) (ls : List (List Char)) : List State :=
  ls.scanl (fun s line => (m.highlightLine line s).2) s

lemma states_cons (s : State) (line : List Char) (ls : List (List Char)) :
    m.states s (line :: ls) = s :: m.states (m.highlightLine line s).2 ls :=
  List.scanl_cons

/-- The lines of a document as they are written. -/
def written (document : String) : List Line :=
  m.reindentLines (m.startState 0) (lines document.toList)

/-- The states before each line that is written for a document, and after the last one. -/
def writtenStates (document : String) : List State :=
  m.states (m.startState 0) ((m.written document).map Line.text)

/-- What highlighting a document leaves open before each line, and after the last one. -/
def continuations (document : String) : List Continuation :=
  (m.states (m.startState 0) ((lines document.toList).map Line.text)).map State.continuation

lemma map_continuation_states (s : State) (ls : List (List Char)) :
    (m.states s ls).map State.continuation = continuationsFrom s.continuation ls := by
  induction ls generalizing s with
  | nil => rfl
  | cons line ls ih =>
    rw [states_cons, List.map_cons, ih, continuation_highlightLine, continuationsFrom_cons]

lemma map_tokens_highlightFrom (number : Nat) (s : State) (ls : List (List Char)) :
    (m.highlightFrom number s ls).map LineSpans.tokens = tokensFrom s.continuation ls := by
  induction ls generalizing number s with
  | nil => rfl
  | cons line ls ih =>
    have hl : m.highlightFrom number s (line :: ls)
        = ⟨number, (m.highlightLine line s).1⟩ ::
          m.highlightFrom (number + 1) (m.highlightLine line s).2 ls := rfl
    rw [hl, List.map_cons, ih, continuation_highlightLine, fst_highlightLine, tokens_spansFrom,
      tokensFrom, tokens]

/-! ## Two runs side by side -/

/-- A line is written as what is open before it allows. -/
lemma respaced_reindentLine (s : State) (l : Line) :
    Respaced s.continuation l ⟨m.reindentLine s l.text, l.ending⟩ := by
  by_cases hk : s.continuation = .code
  · obtain ⟨columns, hs⟩ := m.exists_suggestion?_eq_some hk l.text
    rw [reindentLine_of_some m hs]
    split
    · rename_i ht
      exact .emptied hk ht
    · rename_i ht
      exact .indented hk ht fun _ => Config.isBlank_of_mem_blanks
  · have hs : m.suggestion? s l.text = none := if_pos hk
    rw [reindentLine_of_none m hs]
    exact .kept hk

/-- The run that writes lines and the run that reads the lines as they were have the same left open before
each line, if they have at first. -/
lemma forall₂_respaced (s : State) (ls : List Line) :
    List.Forall₂ (fun p l => Respaced p.1 p.2 l)
      ((continuationsFrom s.continuation (ls.map Line.text)).zip ls) (m.reindentLines s ls) := by
  induction ls generalizing s with
  | nil => exact .nil
  | cons l ls ih =>
    -- the line as it is written leaves the same open as the line as it was
    have hl := m.respaced_reindentLine s l
    have ht := ih (m.highlightLine (m.reindentLine s l.text) s).2
    rw [continuation_highlightLine, hl.continuationAfter_eq] at ht
    rw [List.map_cons, continuationsFrom_cons, List.zip_cons_cons, reindentLines_cons]
    exact .cons hl ht

end Mode

lemma tokensFrom_of_forall₂ {k : Continuation} {ls out : List Line}
    (h : List.Forall₂ (fun p l => Respaced p.1 p.2 l)
      ((continuationsFrom k (ls.map Line.text)).zip ls) out) :
    tokensFrom k (out.map Line.text) = tokensFrom k (ls.map Line.text) ∧
      continuationsFrom k (out.map Line.text) = continuationsFrom k (ls.map Line.text) := by
  induction ls generalizing k out with
  | nil =>
    cases h
    exact ⟨rfl, rfl⟩
  | cons l ls ih =>
    rw [List.map_cons, continuationsFrom_cons, List.zip_cons_cons] at h
    cases h with
    | @cons _ l' _ out hl ht =>
      have hk : continuationAfter (readLine k l'.text) k = continuationAfter (readLine k l.text) k :=
        hl.continuationAfter_eq
      obtain ⟨htokens, hcontinuations⟩ := ih ht
      rw [List.map_cons, tokensFrom, hk, htokens, continuationsFrom_cons, hk, hcontinuations,
        show tokens k l'.text = tokens k l.text from hl.tokens_eq]
      exact ⟨rfl, (continuationsFrom_cons _ _ _).symm⟩

/-- A line that is written as an empty line without a terminator is one that holds only blanks. -/
lemma Respaced.blank_of_nil {k : Continuation} {l : Line} {document : List Char}
    (h : Respaced k l ⟨[], .absent⟩) (hl : l ∈ lines document) :
    k = .code ∧ trimStart l.text = [] ∧ l.ending = .absent := by
  have he : l.ending = .absent := h.ending_eq.symm
  have hn : l.text ≠ [] := text_ne_nil_of_mem_lines hl he
  generalize hw : (⟨[], .absent⟩ : Line) = w at h
  cases h with
  | kept _ => exact absurd (congrArg Line.text hw).symm hn
  | emptied hk ht => exact ⟨hk, ht, he⟩
  | indented _ ht _ => exact absurd (List.append_eq_nil_iff.1 (congrArg Line.text hw).symm).2 ht

namespace Mode

/-- **Re-indenting keeps the content of a document.**

Let each line of the document be taken together with what highlighting the document has left open before
it.  The document that is written consists of the same lines with the same terminators, each respaced as
what is open allows.  It is cut into these lines again; only a last line that is blank, starts in code and
has no terminator disappears.  Line by line, highlighting it gives the same tokens with the same styles and
leaves the same open. -/
theorem highlight_reindent (m : Mode) (document : String) :
    let before := (m.continuations document).zip (lines document.toList)
    let after := lines (m.reindent document).toList
    ∃ out : List Line,
      m.reindent document = String.ofList (unlines out) ∧
      List.Forall₂ (fun p l => Respaced p.1 p.2 l) before out ∧
      (after = out ∨ out = after ++ [⟨[], .absent⟩] ∧ ∃ p, before.getLast? = some p ∧
        p.1 = .code ∧ trimStart p.2.text = [] ∧ p.2.ending = .absent) ∧
      (m.highlight (m.reindent document)).map LineSpans.tokens
        = ((m.highlight document).map LineSpans.tokens).take after.length ∧
      m.continuations (m.reindent document) = (m.continuations document).take (after.length + 1) := by
  intro before after
  have hbefore : before = (continuationsFrom .code ((lines document.toList).map Line.text)).zip
      (lines document.toList) := by
    simp only [before, continuations, map_continuation_states]
    rfl
  have hout := m.forall₂_respaced (m.startState 0) (lines document.toList)
  have hlines := m.lines_reindent document
  have hafter : after
      = (m.reindentLines (m.startState 0) (lines document.toList)).take after.length := by
    rcases hlines with h | h
    · rw [← h, List.take_length]
    · rw [h, List.take_left]
  obtain ⟨htokens, hcontinuations⟩ := tokensFrom_of_forall₂ hout
  refine ⟨m.reindentLines (m.startState 0) (lines document.toList), m.reindent_eq document, hbefore ▸ hout, ?_, ?_, ?_⟩
  · refine hlines.imp_right fun h => ⟨h, ?_⟩
    -- the empty last line has a last line of the document before it
    have hlast := List.forall₂_reverse_iff.2 (hbefore ▸ hout)
    rw [h, List.reverse_append, List.reverse_singleton, List.singleton_append] at hlast
    obtain ⟨p, rest, hp, -, hr⟩ := List.forall₂_cons_right_iff.1 hlast
    have hmem : p ∈ before := List.mem_reverse.1 (hr ▸ List.mem_cons_self)
    refine ⟨p, ?_, hp.blank_of_nil (List.of_mem_zip hmem).2⟩
    rw [← List.head?_reverse, hr, List.head?_cons]
  · rw [highlight_eq, highlight_eq, map_tokens_highlightFrom, map_tokens_highlightFrom, ← htokens,
      ← tokensFrom_take, ← List.map_take, ← hafter]
  · rw [continuations, continuations, map_continuation_states, map_continuation_states, ← hcontinuations,
      ← continuationsFrom_take, ← List.map_take, ← hafter]

end Mode

end GoLayout
