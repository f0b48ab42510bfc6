import GoLayout.Lexis.Word
import Mathlib.Data.List.MinMax
import Mathlib.Tactic.Lemma

/-!
# Words and their tables

No word is an entry of two tables, so a word has a class exactly if it is an entry of the table of that class.

A lexer that is generated from tables does not ask this.  It reads the longest entry that it finds at the front
of a text, and many entries are beginnings of others.  If only what covers the whole text counts, the class is
still the same: `LongestMatch.wholeMatch?_eq`.
-/

namespace GoLayout.Lexis

/-- The entries of the table of a class. -/
def WordClass.words : WordClass → List String
  | .label => labelWords
  | .keyword => keywords
  | .atom => atoms

/-- The text is an entry of the table of a class. -/
def IsEntry (w : WordClass) (text : List Char) : Prop := String.ofList text ∈ w.words

instance (w : WordClass) (text : List Char) : Decidable (IsEntry w text) :=
  inferInstanceAs (Decidable (_ ∈ w.words))

lemma IsEntry.unique {w w' : WordClass} {text : List Char} (h : IsEntry w text) (h' : IsEntry w' text) :
    w = w' := by
  have hlk : ∀ x ∈ labelWords, x ∉ keywords := by decide +kernel
  have hla : ∀ x ∈ labelWords, x ∉ atoms := by decide +kernel
  have hka : ∀ x ∈ keywords, x ∉ atoms := by decide +kernel
  cases w <;> cases w'
  · rfl
  · exact absurd h' (hlk _ h)
  · exact absurd h' (hla _ h)
  · exact absurd h (hlk _ h')
  · rfl
  · exact absurd h' (hka _ h)
  · exact absurd h (hla _ h')
  · exact absurd h (hka _ h')
  · rfl

lemma wordClass?_spec (text : List Char) :
    match wordClass? text with
    | some w => IsEntry w text
    | none => ∀ w, ¬IsEntry w text := by
  -- the tables are looked up in the order of the classes
  unfold wordClass?
  dsimp only
  by_cases hl : labelWords.contains (String.ofList text) = true
  · rw [if_pos hl]
    exact List.contains_iff_mem.1 hl
  · by_cases hk : keywords.contains (String.ofList text) = true
    · rw [if_neg hl, if_pos hk]
      exact List.contains_iff_mem.1 hk
    · by_cases ha : atoms.contains (String.ofList text) = true
      · rw [if_neg hl, if_neg hk, if_pos ha]
        exact List.contains_iff_mem.1 ha
      · rw [if_neg hl, if_neg hk, if_neg ha]
        intro w hw
        cases w with
        | label => exact hl (List.contains_iff_mem.2 hw)
        | keyword => exact hk (List.contains_iff_mem.2 hw)
        | atom => exact ha (List.contains_iff_mem.2 hw)

/-- A word has a class exactly if it is an entry of the table of the class. -/
lemma wordClass?_eq_some_iff {w : WordClass} {text : List Char} :
    wordClass? text = some w ↔ IsEntry w text := by
  have hs := wordClass?_spec text
  cases hc : wordClass? text with
  | none =>
    rw [hc] at hs
    exact iff_of_false (by simp) (hs w)
  | some w' =>
    rw [hc] at hs
    rw [Option.some.injEq]
    exact ⟨fun h => h ▸ hs, fun h => hs.unique h⟩

/-! ## Longest matches -/

/-- A lookup that reads the longest entry of any table from the front of a text, with its class. -/
structure LongestMatch (lookup : List Char → Option (WordClass × List Char)) : Prop where
  entry : ∀ {text word : List Char} {w : WordClass}, lookup text = some (w, word) →
    IsEntry w word ∧ word <+: text
  longest : ∀ {text word : List Char} {w : WordClass}, IsEntry w word → word <+: text →
    ∃ w' word', lookup text = some (w', word') ∧ word.length ≤ word'.length

/-- The class of what a lookup reads, if that is the whole text. -/
def wholeMatch? (lookup : List Char → Option (WordClass × List Char)) (text : List Char) :
    Option WordClass :=
  match lookup text with
  | some (w, word) => if word = text then some w else none
  | none => none

/-- **A longest match that covers a word has the class of the word.** -/
theorem LongestMatch.wholeMatch?_eq {lookup : List Char → Option (WordClass × List Char)}
    (h : LongestMatch lookup) (text : List Char) : wholeMatch? lookup text = wordClass? text := by
  refine Option.ext fun w => ?_
  rw [wordClass?_eq_some_iff]
  constructor
  · intro hw
    unfold wholeMatch? at hw
    split at hw
    · rename_i w' word hl
      split at hw
      · rename_i he
        cases hw
        exact he ▸ (h.entry hl).1
      · cases hw
    · cases hw
  · intro hw
    obtain ⟨w', word, hl, hlen⟩ := h.longest hw List.prefix_rfl
    obtain ⟨hword, hpre⟩ := h.entry hl
    -- the entry that is found is at least as long as the whole text
    have he : word = text := hpre.eq_of_length_le hlen
    subst he
    rw [hword.unique hw] at hl
    simp [wholeMatch?, hl]

/-- All entries with their classes. -/
def entries : List (WordClass × List Char) :=
  [WordClass.label, .keyword, .atom].flatMap fun w => w.words.map fun word => (w, word.toList)

lemma mem_entries_iff {w : WordClass} {word : List Char} : (w, word) ∈ entries ↔ IsEntry w word := by
  have ho : ∀ x : String, x.toList = word ↔ x = String.ofList word := fun x => by
    rw [← String.toList_inj, String.toList_ofList]
  cases w <;> simp [entries, IsEntry, ho]

/-- The longest entry at the front of a text. -/
def longestMatch? (text : List Char) : Option (WordClass × List Char) :=
  (entries.filter fun e => e.2.isPrefixOf text).argmax fun e => e.2.length

theorem longestMatch_longestMatch? : LongestMatch longestMatch? := by
  constructor
  · intro text word w h
    have hm := List.mem_filter.1 (List.argmax_mem h)
    exact ⟨mem_entries_iff.1 hm.1, List.isPrefixOf_iff_prefix.1 hm.2⟩
  · intro text word w hw hp
    have hm : (w, word) ∈ entries.filter fun e => e.2.isPrefixOf text :=
      List.mem_filter.2 ⟨mem_entries_iff.2 hw, List.isPrefixOf_iff_prefix.2 hp⟩
    cases hl : longestMatch? text with
    | none =>
      rw [List.argmax_eq_none.1 hl] at hm
      cases hm
    | some e => exact ⟨e.1, e.2, rfl, List.le_of_mem_argmax (f := fun e => e.2.length) hm hl⟩

end GoLayout.Lexis
