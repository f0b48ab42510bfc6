import GoLayout.Text.Line
import Mathlib.Tactic.Lemma

/-!
# Cutting and joining documents

The proofs about documents cut them character by character (`lines`).  This gives the lines and the texts
that are found by splitting a document into pieces and looking at the end of each piece
(`lines_eq_map_ofPiece`, `map_text_lines`), so that both ways of splitting are known from one.

A list of lines comes from a document if no text holds a line feed, no text that is ended by a line feed
alone has a carriage return before it, and only the last line may be unterminated.  Such lines are given
back when they are joined and the document is cut again; only an unterminated line without a text gets
lost, because it leaves no trace in the document.
-/

namespace GoLayout.Text

namespace Line

/-- Put one character in front of a document that is already cut into lines. -/
def extend (c : Char) (ls : List Line) : List Line :=
  if c = '\n' then ⟨[], .newline⟩ :: ls
  else
    match ls with
    | [] => [⟨[c], .absent⟩]
    | l :: ls =>
      if c = '\r' ∧ l = ⟨[], .newline⟩ then ⟨[], .carriageNewline⟩ :: ls
      else ⟨c :: l.text, l.ending⟩ :: ls

end Line

/-- The lines of a document, cut off character by character. -/
def lines (document : List Char) : List Line := document.foldr Line.extend []

@[simp] lemma lines_nil : lines [] = [] := rfl

@[simp] lemma lines_cons (c : Char) (s : List Char) : lines (c :: s) = Line.extend c (lines s) := rfl

lemma unlines_extend (c : Char) (ls : List Line) :
    unlines (Line.extend c ls) = c :: unlines ls := by
  unfold Line.extend
  split
  · rename_i h
    subst h
    rfl
  · split
    · rfl
    · split
      · rename_i h
        obtain ⟨rfl, rfl⟩ := h
        rfl
      · rfl

@[simp] lemma unlines_lines (document : List Char) : unlines (lines document) = document := by
  induction document with
  | nil => rfl
  | cons c s ih => rw [lines_cons, unlines_extend, ih]

namespace Line

/-- A line whose terminator is recognized when it follows the text of the line. -/
structure Sound (l : Line) : Prop where
  newline_notMem : '\n' ∉ l.text
  not_suffix : l.ending = .newline → ¬['\r'] <:+ l.text

/-- What a character in front of a document does to its lines: it ends a line, is a line of its own, turns
a line feed into a longer terminator, or belongs to the text of the first line. -/
lemma extend_cases (c : Char) (ls : List Line) :
    c = '\n' ∧ extend c ls = ⟨[], .newline⟩ :: ls ∨
    c ≠ '\n' ∧ ls = [] ∧ extend c ls = [⟨[c], .absent⟩] ∨
    (∃ rest, c = '\r' ∧ ls = ⟨[], .newline⟩ :: rest ∧ extend c ls = ⟨[], .carriageNewline⟩ :: rest) ∨
    ∃ l rest, c ≠ '\n' ∧ ls = l :: rest ∧ ¬(c = '\r' ∧ l = ⟨[], .newline⟩) ∧
      extend c ls = ⟨c :: l.text, l.ending⟩ :: rest := by
  by_cases hc : c = '\n'
  · exact .inl ⟨hc, if_pos hc⟩
  · right
    cases ls with
    | nil => exact .inl ⟨hc, rfl, if_neg hc⟩
    | cons l rest =>
      right
      by_cases hr : c = '\r' ∧ l = ⟨[], .newline⟩
      · obtain ⟨rfl, rfl⟩ := hr
        exact .inl ⟨rest, rfl, rfl, rfl⟩
      · exact .inr ⟨l, rest, hc, rfl, hr, by simp only [extend, if_neg hc, if_neg hr]⟩

lemma extend_cons_of_sound {c : Char} {l : Line} {ls : List Line}
    (h : Sound ⟨c :: l.text, l.ending⟩) :
    extend c (l :: ls) = ⟨c :: l.text, l.ending⟩ :: ls := by
  have hc : c ≠ '\n' := fun e => h.newline_notMem (e ▸ List.mem_cons_self)
  have hr : ¬(c = '\r' ∧ l = ⟨[], .newline⟩) := by
    rintro ⟨rfl, rfl⟩
    exact h.not_suffix rfl List.suffix_rfl
  simp only [extend, if_neg hc, if_neg hr]

lemma Sound.tail {c : Char} {text : List Char} {ending : Terminator}
    (h : Sound ⟨c :: text, ending⟩) : Sound ⟨text, ending⟩ := by
  refine ⟨fun hn => h.newline_notMem (List.mem_cons_of_mem c hn), fun he hr => ?_⟩
  exact h.not_suffix he (hr.trans (List.suffix_cons c text))

/-- A terminated line is the first one of a document that starts with it. -/
lemma lines_chars_append {l : Line} (h : l.Sound) (he : l.ending ≠ .absent) (s : List Char) :
    lines (l.chars ++ s) = l :: lines s := by
  obtain ⟨text, ending⟩ := l
  induction text with
  | nil =>
    cases ending with
    | newline => rfl
    | carriageNewline => rfl
    | absent => exact absurd rfl he
  | cons c text ih =>
    have ht : lines (chars ⟨text, ending⟩ ++ s) = ⟨text, ending⟩ :: lines s := ih h.tail he
    calc lines (chars ⟨c :: text, ending⟩ ++ s)
        = extend c (lines (chars ⟨text, ending⟩ ++ s)) := rfl
      _ = ⟨c :: text, ending⟩ :: lines s := by
        rw [ht]
        exact extend_cons_of_sound h

end Line

lemma lines_of_newline_notMem {text : List Char} (h : '\n' ∉ text) :
    lines text = if text = [] then [] else [⟨text, .absent⟩] := by
  induction text with
  | nil => rfl
  | cons c text ih =>
    rw [List.mem_cons, not_or] at h
    rw [lines_cons, ih h.2, if_neg (List.cons_ne_nil c text)]
    split
    · rename_i ht
      subst ht
      simp only [Line.extend, if_neg (Ne.symm h.1)]
    · simp [Line.extend, Ne.symm h.1]

/-- A character in front of some lines does not reach the lines behind them. -/
lemma Line.extend_append {c : Char} {ls : List Line} (h : c = '\n' ∨ ls ≠ []) (rest : List Line) :
    Line.extend c (ls ++ rest) = Line.extend c ls ++ rest := by
  unfold Line.extend
  split
  · rfl
  · rename_i hc
    obtain ⟨l, ls, rfl⟩ := List.exists_cons_of_ne_nil (h.resolve_left hc)
    simp only [List.cons_append]
    split <;> rfl

lemma lines_eq_nil_iff {s : List Char} : lines s = [] ↔ s = [] := by
  constructor
  · intro h
    rw [← unlines_lines s, h]
    rfl
  · rintro rfl
    rfl

/-- Behind a line feed a document is cut on its own. -/
lemma lines_append {s : List Char} (h : s = [] ∨ ['\n'] <:+ s) (t : List Char) :
    lines (s ++ t) = lines s ++ lines t := by
  induction s with
  | nil => rfl
  | cons c s ih =>
    rcases List.suffix_cons_iff.1 (h.resolve_left (List.cons_ne_nil c s)) with e | hs
    · obtain ⟨rfl, rfl⟩ := List.cons.inj e
      rfl
    · have hne : lines s ≠ [] := by
        rw [Ne, lines_eq_nil_iff]
        rintro rfl
        exact absurd hs (by simp)
      rw [List.cons_append, lines_cons, ih (.inr hs), Line.extend_append (.inr hne), lines_cons]

/-! ## Lines that keep apart -/

/-- Lines that are told apart when they are joined: those before the last one are terminated.  An
unterminated line at the end may be empty. -/
inductive Separated : List Line → Prop
  | nil : Separated []
  | last {text : List Char} (h : '\n' ∉ text) : Separated [⟨text, .absent⟩]
  | cons {l : Line} {ls : List Line} (h : l.Sound) (he : l.ending ≠ .absent) (hs : Separated ls) :
    Separated (l :: ls)

lemma Separated.extend {c : Char} {ls : List Line} (h : Separated ls) :
    Separated (Line.extend c ls) := by
  rcases Line.extend_cases c ls with ⟨-, e⟩ | ⟨hc, -, e⟩ | ⟨rest, -, rfl, e⟩ | ⟨l, rest, hc, rfl, hr, e⟩ <;>
    rw [e]
  · exact .cons ⟨by simp, by simp⟩ (by simp) h
  · exact .last (by simp [Ne.symm hc])
  · cases h with
    | cons _ _ hs => exact .cons ⟨by simp, by simp⟩ (by simp) hs
  · cases h with
    | last h => exact .last (by simp [h, Ne.symm hc])
    | cons h he hs =>
      refine .cons ⟨by simp [h.newline_notMem, Ne.symm hc], fun hn hl => ?_⟩ he hs
      -- a carriage return is taken for a part of the terminator only where no text follows it
      rcases List.suffix_cons_iff.1 hl with e | hl
      · obtain ⟨rfl, ht⟩ := List.cons.inj e
        exact hr ⟨rfl, by rw [ht, ← hn]⟩
      · exact h.not_suffix hn hl

lemma Separated.newline_notMem {ls : List Line} (h : Separated ls) : ∀ l ∈ ls, '\n' ∉ l.text := by
  induction h with
  | nil => simp
  | last h => simpa using h
  | cons h he hs ih => exact List.forall_mem_cons.2 ⟨h.newline_notMem, ih⟩

lemma separated_lines (document : List Char) : Separated (lines document) := by
  induction document with
  | nil => exact .nil
  | cons c s ih => exact ih.extend

/-- Separated lines are given back, but for an empty unterminated line at the end. -/
lemma lines_unlines {ls : List Line} (h : Separated ls) :
    lines (unlines ls) = ls ∨ ls = lines (unlines ls) ++ [⟨[], .absent⟩] := by
  induction h with
  | nil => exact .inl rfl
  | @last text h =>
    -- only here a line can get lost: the last one, if it is empty
    have hu : unlines [⟨text, .absent⟩] = text := by simp [unlines, Line.chars, Terminator.chars]
    rw [hu, lines_of_newline_notMem h]
    split
    · rename_i ht
      exact .inr (by rw [ht, List.nil_append])
    · exact .inl rfl
  | @cons l ls h he hs ih =>
    have hl : lines (unlines (l :: ls)) = l :: lines (unlines ls) := by
      rw [unlines, List.flatMap_cons]
      exact Line.lines_chars_append h he _
    rw [hl, List.cons_append]
    exact ih.imp (congrArg (l :: ·)) (congrArg (l :: ·))

lemma text_ne_nil_of_mem_lines {document : List Char} {l : Line} (h : l ∈ lines document)
    (he : l.ending = .absent) : l.text ≠ [] := by
  induction document with
  | nil => simp at h
  | cons c s ih =>
    rw [lines_cons] at h
    rcases Line.extend_cases c (lines s) with
        ⟨-, e⟩ | ⟨-, -, e⟩ | ⟨rest, -, hs, e⟩ | ⟨l₀, rest, -, hs, -, e⟩ <;>
      rw [e, List.mem_cons] at h <;> rcases h with rfl | h
    · exact absurd he (by simp)
    · exact ih h
    · simp
    · simp at h
    · exact absurd he (by simp)
    · exact ih (hs ▸ List.mem_cons_of_mem _ h)
    · simp
    · exact ih (hs ▸ List.mem_cons_of_mem _ h)

lemma Separated.lines_unlines_eq_filter {ls : List Line} (h : Separated ls) :
    lines (unlines ls) = ls.filter (· ≠ ⟨[], .absent⟩) := by
  have hf : (lines (unlines ls)).filter (· ≠ ⟨[], .absent⟩) = lines (unlines ls) := by
    refine List.filter_eq_self.2 fun l hl => decide_eq_true ?_
    rintro rfl
    exact text_ne_nil_of_mem_lines hl rfl rfl
  have hl := lines_unlines h
  generalize lines (unlines ls) = out at hf hl ⊢
  rcases hl with rfl | rfl
  · exact hf.symm
  · rw [List.filter_append, hf]
    simp

/-! ## Pieces -/

lemma map_chars_lines (document : List Char) :
    (lines document).map Line.chars = pieces document := by
  induction document with
  | nil => rfl
  | cons c s ih =>
    have hp : pieces (c :: s) = extendPieces c ((lines s).map Line.chars) := by rw [ih]; rfl
    rw [hp, lines_cons]
    rcases Line.extend_cases c (lines s) with
        ⟨hc, e⟩ | ⟨hc, hs, e⟩ | ⟨rest, rfl, hs, e⟩ | ⟨l, rest, hc, hs, -, e⟩ <;> rw [e]
    · rw [hc]
      rfl
    · simp [hs, extendPieces, hc, Line.chars, Terminator.chars]
    · rw [hs]
      rfl
    · simp [hs, extendPieces, hc, Line.chars]

lemma carriageNewline_suffix_iff {s : List Char} :
    ['\r', '\n'] <:+ s ++ ['\n'] ↔ ['\r'] <:+ s := by
  have h : ['\r'] ++ ['\n'] <:+ s ++ ['\n'] ↔ ['\r'] <:+ s := List.suffix_append_self_iff
  exact h

lemma Separated.ofPiece_chars {ls : List Line} (h : Separated ls) :
    ∀ l ∈ ls, Line.ofPiece l.chars = l := by
  induction h with
  | nil => simp
  | @last text h =>
    intro l hl
    obtain rfl := List.mem_singleton.1 hl
    have hn : ¬['\n'] <:+ text := fun hs => h (hs.subset List.mem_cons_self)
    have hr : ¬['\r', '\n'] <:+ text := fun hs => hn (.trans ⟨['\r'], rfl⟩ hs)
    simp [Line.chars, Terminator.chars, Line.ofPiece, hn, hr]
  | @cons l ls hl he hs ih =>
    intro l' hl'
    rcases List.mem_cons.1 hl' with rfl | hl'
    · obtain ⟨text, ending⟩ := l'
      cases ending with
      | newline =>
        have hr : ¬['\r', '\n'] <:+ text ++ ['\n'] := fun hr =>
          hl.not_suffix rfl (carriageNewline_suffix_iff.1 hr)
        simp [Line.chars, Terminator.chars, Line.ofPiece, hr]
      | carriageNewline => simp [Line.chars, Terminator.chars, Line.ofPiece]
      | absent => exact absurd rfl he
    · exact ih l' hl'

/-- **Cutting a document into lines is splitting it behind its line feeds and taking the terminators
off.** -/
theorem lines_eq_map_ofPiece (document : List Char) :
    lines document = (pieces document).map Line.ofPiece := by
  rw [← map_chars_lines, List.map_map]
  have h := (separated_lines document).ofPiece_chars
  exact (List.map_congr_left (g := id) h).trans (List.map_id _) |>.symm

/-- The text of a piece is what is left when its line feed and its carriage return are taken off one after
the other. -/
lemma Line.text_ofPiece (piece : List Char) : (Line.ofPiece piece).text = chomp piece := by
  by_cases h : ['\n'] <:+ piece
  · obtain ⟨q, rfl⟩ := h
    by_cases hq : ['\r'] <:+ q <;> simp [Line.ofPiece, chomp, carriageNewline_suffix_iff, hq]
  · have hr : ¬['\r', '\n'] <:+ piece := fun hr => h (.trans ⟨['\r'], rfl⟩ hr)
    rw [Line.ofPiece, chomp, if_neg hr, if_neg h, if_neg h]

/-- **The texts of the lines are the pieces of the document without what ends them.** -/
theorem map_text_lines (document : List Char) :
    (lines document).map Line.text = (pieces document).map chomp := by
  rw [lines_eq_map_ofPiece, List.map_map]
  exact List.map_congr_left fun p _ => Line.text_ofPiece p

end GoLayout.Text
