import GoLayout.Proofs.Document.Content

/-!
# What re-indenting does not look at

In code a line is written by its text behind the leading blanks, so the old blanks are forgotten; and terminators
are passed on without a look.  Two documents whose lines agree in everything else are therefore written with the
same texts: the first lines are written the same, so the second lines are written in the same state, and so on.

One case of this is that line feeds may be turned into longer terminators before or after a document is written.
-/

namespace GoLayout

open GoLayout.Text GoLayout.Lexis

/-! ## Terminators -/

namespace Text

/-- The same text with another terminator. -/
def Line.mapEnding (f : Terminator → Terminator) (l : Line) : Line := ⟨l.text, f l.ending⟩

/-- A carriage return before the line feed. -/
def Terminator.crlf : Terminator → Terminator
  | .newline => .carriageNewline
  | e => e

/-- A document with a carriage return before every line feed. -/
def crlf (document : List Char) : List Char :=
  document.flatMap fun c => if c = '\n' then ['\r', '\n'] else [c]

lemma crlf_append (s t : List Char) : crlf (s ++ t) = crlf s ++ crlf t :=
  List.flatMap_append

lemma crlf_of_newline_notMem {s : List Char} (h : '\n' ∉ s) : crlf s = s := by
  induction s with
  | nil => rfl
  | cons c s ih =>
    rw [List.mem_cons, not_or] at h
    have hc : crlf [c] = [c] := by simp [crlf, Ne.symm h.1]
    rw [← List.singleton_append, crlf_append, hc, ih h.2]

lemma zipWith_mk_map (ls : List Line) :
    List.zipWith Line.mk (ls.map Line.text) (ls.map Line.ending) = ls := by
  rw [List.zipWith_map, List.zipWith_self]
  exact List.map_id ls

lemma lines_crlf {s : List Char} (h : '\r' ∉ s) :
    lines (crlf s) = (lines s).map (Line.mapEnding Terminator.crlf) := by
  induction s with
  | nil => rfl
  | cons c s ih =>
    rw [List.mem_cons, not_or] at h
    have ih := ih h.2
    by_cases hc : c = '\n'
    · have hcrlf : crlf (c :: s) = '\r' :: '\n' :: crlf s := by
        rw [hc]
        rfl
      rw [hcrlf, hc, lines_cons, lines_cons, lines_cons, ih]
      rfl
    · have hcrlf : crlf (c :: s) = c :: crlf s := by simp [crlf, hc]
      rw [hcrlf, lines_cons, lines_cons, ih]
      cases lines s with
      | nil => simp [Line.extend, hc, Line.mapEnding, Terminator.crlf]
      | cons l ls => simp [Line.extend, hc, Ne.symm h.1, Line.mapEnding]

/-- Lines without carriage returns are joined to a document, and get them, in either order. -/
lemma unlines_map_crlf {ls : List Line} (h : ∀ l ∈ ls, '\n' ∉ l.text ∧ l.ending ≠ .carriageNewline) :
    unlines (ls.map (Line.mapEnding Terminator.crlf)) = crlf (unlines ls) := by
  induction ls with
  | nil => rfl
  | cons l ls ih =>
    obtain ⟨⟨htext, hending⟩, hls⟩ := List.forall_mem_cons.1 h
    have hl : (Line.mapEnding Terminator.crlf l).chars = crlf l.chars := by
      have htext' : crlf l.text = l.text := crlf_of_newline_notMem htext
      have hending' : l.ending.crlf.chars = crlf l.ending.chars := by
        cases he : l.ending with
        | newline => rfl
        | carriageNewline => exact absurd he hending
        | absent => rfl
      rw [Line.chars, Line.chars, crlf_append, htext', ← hending']
      rfl
    calc unlines ((l :: ls).map (Line.mapEnding Terminator.crlf))
        = (Line.mapEnding Terminator.crlf l).chars ++ unlines (ls.map (Line.mapEnding Terminator.crlf)) := rfl
      _ = crlf l.chars ++ crlf (unlines ls) := by rw [hl, ih hls]
      _ = crlf (unlines (l :: ls)) := (crlf_append _ _).symm

end Text

namespace Mode

/-! ## Lines that are written the same -/

/-- Where the text goes on with `k`, two lines are written the same: they have the same text, or they are code that
differs in the leading blanks alone. -/
def Interchangeable (k : Continuation) (text text' : List Char) : Prop :=
  text = text' ∨ k = .code ∧ trimStart text = trimStart text'

instance (k : Continuation) (text text' : List Char) : Decidable (Interchangeable k text text') :=
  inferInstanceAs (Decidable (_ ∨ _))

variable (m : Mode)

lemma reindentLine_of_interchangeable {s : State} {text text' : List Char}
    (h : Interchangeable s.continuation text text') : m.reindentLine s text = m.reindentLine s text' := by
  rcases h with rfl | ⟨hk, ht⟩
  · rfl
  · obtain ⟨columns, hs⟩ := m.exists_suggestion?_eq_some hk text
    have hs' : m.suggestion? s text' = some columns := by
      rw [← suggestion?_trimStart, ← ht, suggestion?_trimStart, hs]
    rw [reindentLine_of_some m hs, reindentLine_of_some m hs', ht]

lemma map_text_reindentLines_of_interchangeable {s : State} {ls ls' : List Line}
    (h : List.Forall₂ (fun p l => Interchangeable p.1.continuation p.2.text l.text)
      ((m.states s ((m.reindentLines s ls).map Line.text)).zip ls) ls') :
    (m.reindentLines s ls).map Line.text = (m.reindentLines s ls').map Line.text := by
  induction ls generalizing s ls' with
  | nil =>
    cases h
    rfl
  | cons l ls ih =>
    rw [reindentLines_cons, List.map_cons, states_cons, List.zip_cons_cons] at h
    cases h with
    | @cons _ l' _ ls' hl hls =>
      have hline : m.reindentLine s l.text = m.reindentLine s l'.text := m.reindentLine_of_interchangeable hl
      rw [reindentLines_cons, reindentLines_cons, List.map_cons, List.map_cons, ih hls, ← hline]

lemma reindentLines_mapEnding (f : Terminator → Terminator) (s : State) (ls : List Line) :
    m.reindentLines s (ls.map (Line.mapEnding f)) = (m.reindentLines s ls).map (Line.mapEnding f) := by
  induction ls generalizing s with
  | nil => rfl
  | cons l ls ih => exact congrArg (_ :: ·) (ih _)

/-- The written document has the written texts, each with the terminator of the line that it was written for. -/
lemma reindent_eq_zipWith (document : String) :
    m.reindent document = String.ofList (unlines (List.zipWith Line.mk ((m.written document).map Line.text)
      ((lines document.toList).map Line.ending))) := by
  rw [← m.map_ending_reindentLines (m.startState 0), ← written, zipWith_mk_map]
  exact m.reindent_eq document

/-- Carriage returns may be put before the line feeds of a document or before those of the written one. -/
lemma reindent_crlf {document : String} (h : '\r' ∉ document.toList) :
    m.reindent (String.ofList (crlf document.toList)) = String.ofList (crlf (m.reindent document).toList) := by
  have hsep : Separated (m.written document) :=
    m.separated_reindentLines (m.startState 0) (separated_lines document.toList)
  have hwritten : ∀ l ∈ m.written document, '\n' ∉ l.text ∧ l.ending ≠ .carriageNewline := by
    intro l hl
    refine ⟨hsep.newline_notMem l hl, fun he => h ?_⟩
    have hmem : l.ending ∈ (lines document.toList).map Line.ending := by
      rw [← m.map_ending_reindentLines (m.startState 0)]
      exact List.mem_map_of_mem hl
    obtain ⟨l', hl', he'⟩ := List.mem_map.1 hmem
    rw [← unlines_lines document.toList, unlines, List.mem_flatMap]
    exact ⟨l', hl', by simp [Line.chars, he', he, Terminator.chars]⟩
  have hjoin := unlines_map_crlf hwritten
  rw [written, ← reindentLines_mapEnding, ← lines_crlf h] at hjoin
  rw [reindent_eq, reindent_eq, String.toList_ofList, String.toList_ofList, hjoin]

/-- **Re-indenting forgets the old indentation and does not look at terminators.**

Let two documents have equally many lines, and let the lines be pairwise interchangeable where the run over the first
document reaches them.  Then both runs go through the same states and write the same texts, each with the terminator
of its own document.  So carriage returns may also be put before the line feeds of a document that has none, before
or after it is written. -/
theorem reindent_forgets :
    (∀ document document' : String,
      List.Forall₂ (fun p l => Interchangeable p.1.continuation p.2.text l.text)
        ((m.writtenStates document).zip (lines document.toList)) (lines document'.toList) →
      m.writtenStates document = m.writtenStates document' ∧
        ∃ texts : List (List Char), texts.length = (lines document.toList).length ∧
          ∀ d ∈ [document, document'], m.reindent d = String.ofList (unlines
            (List.zipWith Line.mk texts ((lines d.toList).map Line.ending)))) ∧
    ∀ document : String, '\r' ∉ document.toList →
      m.reindent (String.ofList (crlf document.toList)) = String.ofList (crlf (m.reindent document).toList) := by
  refine ⟨fun document document' h => ?_, fun document h => m.reindent_crlf h⟩
  have htexts : (m.written document).map Line.text = (m.written document').map Line.text :=
    m.map_text_reindentLines_of_interchangeable h
  refine ⟨by rw [writtenStates, writtenStates, htexts], (m.written document).map Line.text, ?_, ?_⟩
  · rw [List.length_map, written, length_reindentLines]
  · intro d hd
    rcases List.mem_pair.1 hd with rfl | rfl
    · exact m.reindent_eq_zipWith d
    · rw [htexts]
      exact m.reindent_eq_zipWith d

/-- A call over four lines with other blanks and other terminators than before, and the same raw string in it. -/
theorem reindent_forgets_of_raw_string :
    let document := "f(\x7b\na: `\n\tb`,\n\x7d)\n"
    let document' := "\t f(\x7b\r\n      a: `\r\n\tb`,\r\n  \x7d)\n"
    (List.Forall₂ (fun p l => Interchangeable p.1.continuation p.2.text l.text)
        ((default.writtenStates document).zip (lines document.toList)) (lines document'.toList) ∧
      '\r' ∉ document.toList) ∧
    default.writtenStates document = default.writtenStates document' ∧
    (∃ texts : List (List Char), texts.length = 4 ∧ ∀ d ∈ [document, document'], default.reindent d
      = String.ofList (unlines (List.zipWith Line.mk texts ((lines d.toList).map Line.ending)))) ∧
    default.reindent (String.ofList (crlf document.toList))
      = String.ofList (crlf "f(\x7b\n  a: `\n\tb`,\n\x7d)\n".toList) := by
  intro document document'
  have hlines : List.Forall₂ (fun p l => Interchangeable p.1.continuation p.2.text l.text)
      ((default.writtenStates document).zip (lines document.toList)) (lines document'.toList) := by
    decide +kernel
  have hr : '\r' ∉ document.toList := by decide +kernel
  have hout : default.reindent document = "f(\x7b\n  a: `\n\tb`,\n\x7d)\n" := by decide +kernel
  obtain ⟨hforget, hcrlf⟩ := reindent_forgets default
  obtain ⟨hstates, texts, hlength, htexts⟩ := hforget document document' hlines
  refine ⟨⟨hlines, hr⟩, hstates, ⟨texts, ?_, htexts⟩, ?_⟩
  · exact hlength.trans (by decide +kernel)
  · rw [hcrlf document hr, hout]

end Mode

end GoLayout
