import GoLayout.Proofs.Lexis.Grammar
import Mathlib.Computability.RegularExpressions

/-!
# Numerals are longest matches

What a numeral may look like is said here by regular expressions, and a recognizer is measured against its expression: it
takes the longest part at the front of a text that the expression matches, and fails where there is none.

A recognizer that is put together from others looks ahead by one part only, so that it takes the longest part is not for
free.  What makes it work is `Reads.andThen`: if the first part takes more of a word than it has to, then what is left of
the word still is one for the second part.
-/

namespace GoLayout.Lexis

open GoLayout.Text RegularExpression

/-! ## Regular expressions -/

/-- One of some characters. -/
def oneOf (cs : String) : RegularExpression Char := (cs.toList.map char).sum

/-- A match, or nothing. -/
def optional (P : RegularExpression Char) : RegularExpression Char := 1 + P

/-- One match or more of them. -/
def many (P : RegularExpression Char) : RegularExpression Char := P * P.star

/-- `[eE][-+]?[0-9_]+` -/
def exponentExpr : RegularExpression Char := oneOf "eE" * (optional (oneOf "-+") * many (oneOf "0123456789_"))

/-- `[0-9_]+([eE][-+]?[0-9_]+)?` -/
def fractionExpr : RegularExpression Char := many (oneOf "0123456789_") * optional exponentExpr

/-- `[xX][0-9a-fA-F_]+` -/
def hexExpr : RegularExpression Char := oneOf "xX" * many (oneOf "0123456789abcdefABCDEF_")

/-- `[0-7_]+` -/
def octalExpr : RegularExpression Char := many (oneOf "01234567_")

/-- `[0-9_]*[.]?[0-9_]*([eE][-+]?[0-9_]+)?` -/
def decimalExpr : RegularExpression Char :=
  (oneOf "0123456789_").star * (optional (oneOf ".") * ((oneOf "0123456789_").star * optional exponentExpr))

/-- The numerals: `0[xX][0-9a-fA-F_]+`, `0[0-7_]*`, `[1-9][0-9_]*[.]?[0-9_]*([eE][-+]?[0-9_]+)?` and
`[.]([0-9_]+([eE][-+]?[0-9_]+)?)?`. -/
def numeralExpr : RegularExpression Char :=
  oneOf "0" * hexExpr + oneOf "0" * (oneOf "01234567_").star + oneOf "123456789" * decimalExpr +
    oneOf "." * optional fractionExpr

variable {cs : String} {P Q : RegularExpression Char} {s t u w : List Char} {c : Char}

lemma mem_oneOf : w ∈ (oneOf cs).matches' ↔ ∃ c ∈ cs.toList, w = [c] := by
  unfold oneOf
  induction cs.toList with
  | nil => simp [Language.notMem_zero]
  | cons c cs ih =>
    have hc : w ∈ ({[c]} : Language Char) ↔ w = [c] := Set.mem_singleton_iff
    rw [List.map_cons, List.sum_cons, matches'_add, Language.mem_add, ih, matches'_char, hc]
    simp

lemma mem_oneOf_mul : w ∈ (oneOf cs * P).matches' ↔ ∃ c ∈ cs.toList, ∃ v ∈ P.matches', w = c :: v := by
  rw [matches'_mul, Language.mem_mul]
  constructor
  · rintro ⟨x, hx, v, hv, rfl⟩
    obtain ⟨c, hc, rfl⟩ := mem_oneOf.1 hx
    exact ⟨c, hc, v, hv, rfl⟩
  · rintro ⟨c, hc, v, hv, rfl⟩
    exact ⟨[c], mem_oneOf.2 ⟨c, hc, rfl⟩, v, hv, rfl⟩

lemma mem_star_oneOf : w ∈ (oneOf cs).star.matches' ↔ ∀ c ∈ w, c ∈ cs.toList := by
  rw [matches'_star, Language.mem_kstar]
  constructor
  · rintro ⟨words, rfl, hwords⟩ c hc
    obtain ⟨word, hword, hcw⟩ := List.mem_flatten.1 hc
    obtain ⟨c', hc', rfl⟩ := mem_oneOf.1 (hwords word hword)
    rwa [List.mem_singleton.1 hcw]
  · intro hw
    refine ⟨w.map fun c => [c], by rw [← List.flatMap_def, List.flatMap_singleton'], fun word hword => ?_⟩
    obtain ⟨c, hc, rfl⟩ := List.mem_map.1 hword
    exact mem_oneOf.2 ⟨c, hw c hc, rfl⟩

lemma mem_many_oneOf : w ∈ (many (oneOf cs)).matches' ↔ w ≠ [] ∧ ∀ c ∈ w, c ∈ cs.toList := by
  rw [many, mem_oneOf_mul]
  constructor
  · rintro ⟨c, hc, v, hv, rfl⟩
    exact ⟨List.cons_ne_nil c v, List.forall_mem_cons.2 ⟨hc, mem_star_oneOf.1 hv⟩⟩
  · rintro ⟨hne, hw⟩
    obtain ⟨c, v, rfl⟩ := List.exists_cons_of_ne_nil hne
    obtain ⟨hc, hv⟩ := List.forall_mem_cons.1 hw
    exact ⟨c, hc, v, mem_star_oneOf.2 hv, rfl⟩

lemma mem_optional : w ∈ (optional P).matches' ↔ w = [] ∨ w ∈ P.matches' := by
  rw [optional, matches'_add, Language.mem_add, matches'_epsilon, Language.mem_one]

lemma mem_optional_oneOf_of_append (h : w ++ u ∈ (optional (oneOf cs)).matches') : u ∈ (optional (oneOf cs)).matches' := by
  cases w with
  | nil => exact h
  | cons c w =>
    rcases mem_optional.1 h with h | h
    · cases h
    · obtain ⟨c', -, heq⟩ := mem_oneOf.1 h
      obtain ⟨-, rfl⟩ := List.append_eq_nil_iff.1 (List.cons.inj heq).2
      exact mem_optional.2 (.inl rfl)

lemma mem_mul : w ∈ (P * Q).matches' ↔ ∃ u ∈ P.matches', ∃ v ∈ Q.matches', u ++ v = w := by
  rw [matches'_mul, Language.mem_mul]

/-! ## Longest matches -/

/-- A text at the front of another one that an expression matches, and the longest of its kind. -/
structure IsLongestPrefix (P : RegularExpression Char) (s w : List Char) : Prop where
  isPrefix : w <+: s
  accepts : w ∈ P.matches'
  longest : ∀ w', w' <+: s → w' ∈ P.matches' → w'.length ≤ w.length

/-- A recognizer takes the longest match at the front of each text, and fails where nothing matches. -/
structure TakesLongest (f : List Char → Option Cut) (P : RegularExpression Char) : Prop where
  takes : ∀ s k, f s = some k → k.whole = s ∧ IsLongestPrefix P s k.taken
  fails : ∀ s, f s = none ↔ ∀ w, w <+: s → w ∉ P.matches'

/-- A recognizer takes matches only, and at least as much as there is of any match. -/
structure Reads (f : List Char → Option Cut) (P : RegularExpression Char) : Prop where
  whole : ∀ {s k}, f s = some k → k.whole = s
  sound : ∀ {s k}, f s = some k → k.taken ∈ P.matches'
  greedy : ∀ {w} (t : List Char), w ∈ P.matches' → ∃ k, f (w ++ t) = some k ∧ w <+: k.taken

variable {f : List Char → Option Cut} {g : List Char → Cut} {p : Char → Bool}

lemma Reads.takesLongest (h : Reads f P) : TakesLongest f P where
  takes := by
    intro s k hk
    refine ⟨h.whole hk, ⟨k.rest, h.whole hk⟩, h.sound hk, ?_⟩
    rintro w ⟨t, rfl⟩ hw
    obtain ⟨k', hk', hle⟩ := h.greedy t hw
    rw [hk] at hk'
    obtain rfl := Option.some.inj hk'
    exact hle.length_le
  fails := by
    intro s
    constructor
    · rintro hs w ⟨t, rfl⟩ hw
      obtain ⟨k, hk, -⟩ := h.greedy t hw
      rw [hs] at hk
      cases hk
    · intro hs
      rw [Option.eq_none_iff_forall_ne_some]
      intro k hk
      exact hs k.taken ⟨k.rest, h.whole hk⟩ (h.sound hk)

/-! ## Parts -/

lemma reads_span (hp : ∀ c, p c = true ↔ c ∈ cs.toList) : Reads (fun s => some (Cut.span p s)) (oneOf cs).star where
  whole := by
    rintro s _ ⟨⟩
    exact Cut.whole_span p s
  sound := by
    rintro s _ ⟨⟩
    exact mem_star_oneOf.2 fun c hc => (hp c).1 ((maximalRun_span p s).all c hc)
  greedy := by
    intro w t hw
    refine ⟨_, rfl, ?_⟩
    have hall : ∀ c ∈ w, p c = true := fun c hc => (hp c).2 (mem_star_oneOf.1 hw c hc)
    rw [Cut.span, List.takeWhile_append_of_pos hall]
    exact List.prefix_append _ _

lemma reads_span? (hp : ∀ c, p c = true ↔ c ∈ cs.toList) : Reads (Cut.span? p) (many (oneOf cs)) where
  whole := Cut.whole_of_span?
  sound := by
    intro s k hk
    unfold Cut.span? at hk
    split at hk
    · cases hk
    · rename_i hne
      cases hk
      exact mem_many_oneOf.2 ⟨hne, mem_star_oneOf.1 ((reads_span hp).sound rfl)⟩
  greedy := by
    intro w t hw
    obtain ⟨hne, hall⟩ := mem_many_oneOf.1 hw
    obtain ⟨k, hk, hle⟩ := (reads_span hp).greedy t (mem_star_oneOf.2 hall)
    obtain rfl := Option.some.inj hk
    refine ⟨_, if_neg fun h => hne ?_, hle⟩
    exact List.prefix_nil.1 (h ▸ hle)

lemma reads_one (hp : ∀ c, p c = true ↔ c ∈ cs.toList) : Reads (fun s => some (Cut.one p s)) (optional (oneOf cs)) where
  whole := by
    rintro s _ ⟨⟩
    exact Cut.whole_one p s
  sound := by
    rintro s _ ⟨⟩
    cases s with
    | nil => exact mem_optional.2 (.inl rfl)
    | cons c s =>
      rw [Cut.one]
      split
      · rename_i hc
        exact mem_optional.2 (.inr (mem_oneOf.2 ⟨c, (hp c).1 hc, rfl⟩))
      · exact mem_optional.2 (.inl rfl)
  greedy := by
    intro w t hw
    refine ⟨_, rfl, ?_⟩
    rcases mem_optional.1 hw with rfl | hw
    · exact List.nil_prefix
    · obtain ⟨c, hc, rfl⟩ := mem_oneOf.1 hw
      rw [List.singleton_append, Cut.one, if_pos ((hp c).2 hc)]

/-- Where the failure of a recognizer is let pass, it reads a match or nothing. -/
lemma Reads.orStay (h : Reads f P) : Reads (fun s => some (Cut.orStay f s)) (optional P) where
  whole := by
    rintro s _ ⟨⟩
    exact Cut.whole_orStay fun k => h.whole
  sound := by
    rintro s _ ⟨⟩
    unfold Cut.orStay
    cases hk : f s with
    | none => exact mem_optional.2 (.inl rfl)
    | some k => exact mem_optional.2 (.inr (h.sound hk))
  greedy := by
    intro w t hw
    refine ⟨_, rfl, ?_⟩
    rcases mem_optional.1 hw with rfl | hw
    · exact List.nil_prefix
    · obtain ⟨k, hk, hle⟩ := h.greedy t hw
      rwa [Cut.orStay, hk]

lemma Reads.cons (hp : ∀ c, p c = true ↔ c ∈ cs.toList) (h : Reads f P) {f' : List Char → Option Cut}
    (hnil : f' [] = none) (hcons : ∀ c s, f' (c :: s) = if p c then (f s).map (Cut.cons c) else none) :
    Reads f' (oneOf cs * P) where
  whole := by
    intro s k hk
    cases s with
    | nil => cases hnil.symm.trans hk
    | cons c s =>
      rw [hcons] at hk
      split at hk
      · obtain ⟨k', hk', rfl⟩ := Option.map_eq_some_iff.1 hk
        rw [Cut.whole_cons, h.whole hk']
      · cases hk
  sound := by
    intro s k hk
    cases s with
    | nil => cases hnil.symm.trans hk
    | cons c s =>
      rw [hcons] at hk
      split at hk
      · rename_i hc
        obtain ⟨k', hk', rfl⟩ := Option.map_eq_some_iff.1 hk
        exact mem_oneOf_mul.2 ⟨c, (hp c).1 hc, k'.taken, h.sound hk', rfl⟩
      · cases hk
  greedy := by
    intro w t hw
    obtain ⟨c, hc, v, hv, rfl⟩ := mem_oneOf_mul.1 hw
    obtain ⟨k, hk, hle⟩ := h.greedy t hv
    refine ⟨k.cons c, ?_, List.cons_prefix_cons.2 ⟨rfl, hle⟩⟩
    rw [List.cons_append, hcons, if_pos ((hp c).2 hc), hk]
    rfl

/-- **One recognizer behind another.**  The first one may take more of a word than its own part, if what is then left of
the word is a part for the second one. -/
lemma Reads.andThen (hf : Reads f P) (hg : Reads (fun s => some (g s)) Q)
    (hrest : ∀ w u v, w ∈ P.matches' → w ++ u ∈ P.matches' → u ++ v ∈ Q.matches' → v ∈ Q.matches') :
    Reads (fun s => (f s).map fun k => k.andThen g) (P * Q) where
  whole := by
    intro s k hk
    obtain ⟨k', hk', rfl⟩ := Option.map_eq_some_iff.1 hk
    rw [Cut.whole_andThen (hg.whole rfl), hf.whole hk']
  sound := by
    intro s k hk
    obtain ⟨k', hk', rfl⟩ := Option.map_eq_some_iff.1 hk
    exact mem_mul.2 ⟨k'.taken, hf.sound hk', (g k'.rest).taken, hg.sound rfl, rfl⟩
  greedy := by
    intro w t hw
    obtain ⟨w₁, h₁, w₂, h₂, rfl⟩ := mem_mul.1 hw
    obtain ⟨k, hk, ⟨u, hu⟩⟩ := hf.greedy (w₂ ++ t) h₁
    have hcut : u ++ k.rest = w₂ ++ t := by
      have hw := hf.whole hk
      rw [Cut.whole, ← hu, List.append_assoc] at hw
      exact List.append_cancel_left hw
    refine ⟨k.andThen g, by rw [List.append_assoc, hk]; rfl, ?_⟩
    rw [Cut.andThen, ← hu, List.append_assoc]
    refine List.prefix_append_right_inj _ |>.2 ?_
    rcases List.append_eq_append_iff.1 hcut with ⟨v, rfl, hv⟩ | ⟨v, rfl, -⟩
    · -- the first part stops inside of the word
      have hsound : w₁ ++ u ∈ P.matches' := hu ▸ hf.sound hk
      obtain ⟨k', hk', hle⟩ := hg.greedy t (hrest w₁ u v h₁ hsound h₂)
      rw [← hv] at hk'
      obtain rfl := Option.some.inj hk'
      exact (List.prefix_append_right_inj u).2 hle
    · exact (List.prefix_append _ _).trans (List.prefix_append _ _)

/-- Two recognizers for words that start differently, the second where the first one fails. -/
lemma Reads.or {f' : List Char → Option Cut} (hf : Reads f P) (hf' : Reads f' Q)
    (hhead : ∀ c u v, c :: u ∈ P.matches' → c :: v ∉ Q.matches') (hP : [] ∉ P.matches') (hQ : [] ∉ Q.matches') :
    Reads (fun s => (f s).or (f' s)) (P + Q) where
  whole := by
    intro s k hk
    rcases Option.or_eq_some_iff.1 hk with hk | ⟨-, hk⟩
    · exact hf.whole hk
    · exact hf'.whole hk
  sound := by
    intro s k hk
    rw [matches'_add, Language.mem_add]
    rcases Option.or_eq_some_iff.1 hk with hk | ⟨-, hk⟩
    · exact .inl (hf.sound hk)
    · exact .inr (hf'.sound hk)
  greedy := by
    intro w t hw
    rw [matches'_add, Language.mem_add] at hw
    rcases hw with hw | hw
    · obtain ⟨k, hk, hle⟩ := hf.greedy t hw
      exact ⟨k, by rw [hk]; rfl, hle⟩
    · obtain ⟨k', hk', hle⟩ := hf'.greedy t hw
      refine ⟨k', Option.or_eq_some_iff.2 (.inr ⟨?_, hk'⟩), hle⟩
      -- the first recognizer fails, since no word of its own starts like this one
      rw [Option.eq_none_iff_forall_ne_some]
      intro k hk
      have hwhole := hf.whole hk
      have hsound := hf.sound hk
      cases w with
      | nil => exact hQ hw
      | cons c v =>
        cases htaken : k.taken with
        | nil => exact hP (htaken ▸ hsound)
        | cons c' u =>
          rw [Cut.whole, htaken, List.cons_append, List.cons_append] at hwhole
          obtain ⟨rfl, -⟩ := List.cons.inj hwhole
          exact hhead c' u v (htaken ▸ hsound) hw

/-! ## Characters of numerals -/

lemma mem_of_toNat {cs : List Char} {lo hi : Nat} (h : ∀ n < hi + 1, lo ≤ n → Char.ofNat n ∈ cs) (hlo : lo ≤ c.toNat)
    (hhi : c.toNat ≤ hi) : c ∈ cs := by
  have hc := h c.toNat (Nat.lt_succ_of_le hhi) hlo
  rwa [Char.ofNat_toNat] at hc

lemma holds_of_mem {cs : List Char} (h : cs.all p = true) (hc : c ∈ cs) : p c = true := List.all_eq_true.1 h c hc

lemma notMem_of_mem {cs ds : List Char} (h : (cs.all fun c => !ds.contains c) = true) (hc : c ∈ cs) : c ∉ ds := by
  simpa using holds_of_mem h hc

lemma isDecimalDigit_iff (c : Char) : isDecimalDigit c = true ↔ c ∈ "0123456789_".toList := by
  constructor
  · intro h
    rcases Bool.or_eq_true_iff.1 h with h | h
    · obtain ⟨hlo, hhi⟩ := Char.isDigit_iff_toNat.1 h
      exact mem_of_toNat (by decide) hlo hhi
    · rw [beq_iff_eq.1 h]
      decide
  · exact fun h => holds_of_mem (by decide) h

lemma isOctalDigit_iff (c : Char) : isOctalDigit c = true ↔ c ∈ "01234567_".toList := by
  constructor
  · intro h
    simp only [isOctalDigit, Bool.or_eq_true, Bool.and_eq_true, decide_eq_true_eq, beq_iff_eq] at h
    rcases h with ⟨hlo, hhi⟩ | rfl
    · exact mem_of_toNat (by decide) (Char.le_def.1 hlo) (Char.le_def.1 hhi)
    · decide
  · exact fun h => holds_of_mem (by decide) h

lemma isHexDigit_iff (c : Char) : isHexDigit c = true ↔ c ∈ "0123456789abcdefABCDEF_".toList := by
  constructor
  · intro h
    simp only [isHexDigit, Bool.or_eq_true, Bool.and_eq_true, decide_eq_true_eq, beq_iff_eq] at h
    rcases h with ((h | ⟨hlo, hhi⟩) | ⟨hlo, hhi⟩) | rfl
    · obtain ⟨hlo, hhi⟩ := Char.isDigit_iff_toNat.1 h
      exact mem_of_toNat (by decide) hlo hhi
    · exact mem_of_toNat (by decide) (Char.le_def.1 hlo) (Char.le_def.1 hhi)
    · exact mem_of_toNat (by decide) (Char.le_def.1 hlo) (Char.le_def.1 hhi)
    · decide
  · exact fun h => holds_of_mem (by decide) h

lemma isExponentMark_iff (c : Char) : isExponentMark c = true ↔ c ∈ "eE".toList := by
  simp [isExponentMark]

lemma isHexMark_iff (c : Char) : isHexMark c = true ↔ c ∈ "xX".toList := by
  simp [isHexMark]

lemma isSign_iff (c : Char) : isSign c = true ↔ c ∈ "-+".toList := by
  simp [isSign, or_comm]

lemma isPoint_iff (c : Char) : isPoint c = true ↔ c ∈ ".".toList := by
  simp [isPoint]

lemma isDigit_iff_mem (c : Char) : c.isDigit = true ↔ c = '0' ∨ c ∈ "123456789".toList := by
  constructor
  · intro h
    obtain ⟨hlo, hhi⟩ := Char.isDigit_iff_toNat.1 h
    have hmem : c ∈ '0' :: "123456789".toList := mem_of_toNat (by decide) hlo hhi
    exact List.mem_cons.1 hmem
  · rintro (rfl | h)
    · decide
    · exact holds_of_mem (by decide) h

/-! ## The recognizers -/

lemma reads_octalTail? : Reads octalTail? octalExpr := reads_span? isOctalDigit_iff

lemma reads_hexTail? : Reads hexTail? hexExpr :=
  (reads_span? isHexDigit_iff).cons isHexMark_iff rfl fun _ _ => rfl

/-- What follows the mark of an exponent: an optional sign and digits.  Digits are no signs, so a sign that is taken is the
sign of the word. -/
lemma reads_signed : Reads (fun s => (Cut.span? isDecimalDigit (Cut.one isSign s).rest).map fun digits =>
      ⟨(Cut.one isSign s).taken ++ digits.taken, digits.rest⟩)
    (optional (oneOf "-+") * many (oneOf "0123456789_")) where
  whole := by
    intro s k hk
    obtain ⟨digits, hd, rfl⟩ := Option.map_eq_some_iff.1 hk
    have hw := Cut.whole_of_span? hd
    rw [Cut.whole] at hw ⊢
    rw [List.append_assoc, hw]
    exact Cut.whole_one isSign s
  sound := by
    intro s k hk
    obtain ⟨digits, hd, rfl⟩ := Option.map_eq_some_iff.1 hk
    exact mem_mul.2 ⟨_, (reads_one isSign_iff).sound rfl, digits.taken, (reads_span? isDecimalDigit_iff).sound hd, rfl⟩
  greedy := by
    intro w t hw
    obtain ⟨sign, hsign, digits, hdigits, rfl⟩ := mem_mul.1 hw
    -- what is taken as a sign is the sign of the word, as no digit is a sign
    have hone : Cut.one isSign (sign ++ (digits ++ t)) = ⟨sign, digits ++ t⟩ := by
      rcases mem_optional.1 hsign with rfl | hsign
      · obtain ⟨hne, hall⟩ := mem_many_oneOf.1 hdigits
        obtain ⟨d, ds, rfl⟩ := List.exists_cons_of_ne_nil hne
        have hd : ¬isSign d = true := by
          rw [isSign_iff]
          exact notMem_of_mem (by decide) (hall d (List.mem_cons_self ..))
        rw [List.nil_append, List.cons_append, Cut.one, if_neg hd]
        rfl
      · obtain ⟨c, hc, rfl⟩ := mem_oneOf.1 hsign
        rw [List.singleton_append, Cut.one, if_pos ((isSign_iff c).2 hc)]
    obtain ⟨k, hk, hle⟩ := (reads_span? isDecimalDigit_iff).greedy t hdigits
    refine ⟨⟨sign ++ k.taken, k.rest⟩, ?_, (List.prefix_append_right_inj sign).2 hle⟩
    rw [List.append_assoc, hone, hk]
    rfl

lemma reads_exponent? : Reads exponent? exponentExpr := by
  refine reads_signed.cons isExponentMark_iff rfl fun c s => ?_
  simp only [exponent?, Option.map_map]
  rfl

/-- An exponent does not start with a digit, so digits in front of it are no part of it. -/
lemma mem_optional_exponentExpr_of_append {v : List Char} (hu : ∀ c ∈ u, c ∈ "0123456789_".toList)
    (h : u ++ v ∈ (optional exponentExpr).matches') : v ∈ (optional exponentExpr).matches' := by
  cases u with
  | nil => exact h
  | cons c u =>
    rcases mem_optional.1 h with h | h
    · cases h
    · obtain ⟨c', hc', _, -, heq⟩ := mem_oneOf_mul.1 h
      obtain ⟨rfl, -⟩ := List.cons.inj heq
      exact absurd hc' (notMem_of_mem (by decide) (hu c (List.mem_cons_self ..)))

lemma reads_fractionTail? : Reads fractionTail? fractionExpr := by
  refine (reads_span? isDecimalDigit_iff).andThen reads_exponent?.orStay fun w u v _ hwu huv => ?_
  have hall := (mem_many_oneOf.1 hwu).2
  exact mem_optional_exponentExpr_of_append (fun c hc => hall c (List.mem_append_right w hc)) huv

/-- Digits in front of digits and an exponent are of the same kind. -/
lemma mem_digits_exponentExpr_of_append {v : List Char} (hu : ∀ c ∈ u, c ∈ "0123456789_".toList)
    (h : u ++ v ∈ ((oneOf "0123456789_").star * optional exponentExpr).matches') :
    v ∈ ((oneOf "0123456789_").star * optional exponentExpr).matches' := by
  obtain ⟨digits, hd, e, he, heq⟩ := mem_mul.1 h
  rcases List.append_eq_append_iff.1 heq with ⟨x, rfl, rfl⟩ | ⟨x, rfl, rfl⟩
  · refine mem_mul.2 ⟨[], mem_star_oneOf.2 (by simp), v, ?_, rfl⟩
    exact mem_optional_exponentExpr_of_append (fun c hc => hu c (List.mem_append_right digits hc)) he
  · refine mem_mul.2 ⟨x, mem_star_oneOf.2 fun c hc => ?_, e, he, rfl⟩
    exact mem_star_oneOf.1 hd c (List.mem_append_right u hc)

/-- Digits in front of an optional point, digits and an exponent are of the same kind: they are digits behind the point that
is not there. -/
lemma mem_point_digits_of_append {v : List Char} (hu : ∀ c ∈ u, c ∈ "0123456789_".toList)
    (h : u ++ v ∈ (optional (oneOf ".") * ((oneOf "0123456789_").star * optional exponentExpr)).matches') :
    v ∈ (optional (oneOf ".") * ((oneOf "0123456789_").star * optional exponentExpr)).matches' := by
  cases u with
  | nil => exact h
  | cons c u =>
    obtain ⟨point, hp, w, hw, heq⟩ := mem_mul.1 h
    rcases mem_optional.1 hp with rfl | hp
    · refine mem_mul.2 ⟨[], mem_optional.2 (.inl rfl), v, mem_digits_exponentExpr_of_append hu ?_, rfl⟩
      rwa [← heq]
    · obtain ⟨c', hc', rfl⟩ := mem_oneOf.1 hp
      obtain ⟨rfl, -⟩ := List.cons.inj heq
      exact absurd hc' (notMem_of_mem (by decide) (hu c' (List.mem_cons_self ..)))

/-- A point does not stand in front of digits and an exponent, so a point that is taken is that of the word. -/
lemma mem_digits_of_point_append {v : List Char} (hu : u ∈ (optional (oneOf ".")).matches')
    (h : u ++ v ∈ ((oneOf "0123456789_").star * optional exponentExpr).matches') :
    v ∈ ((oneOf "0123456789_").star * optional exponentExpr).matches' := by
  rcases mem_optional.1 hu with rfl | hu
  · exact h
  · obtain ⟨c, hc, rfl⟩ := mem_oneOf.1 hu
    obtain ⟨digits, hd, e, he, heq⟩ := mem_mul.1 h
    cases digits with
    | cons d digits =>
      obtain ⟨rfl, -⟩ := List.cons.inj heq
      exact absurd (mem_star_oneOf.1 hd d (List.mem_cons_self ..)) (notMem_of_mem (by decide) hc)
    | nil =>
      rcases mem_optional.1 he with rfl | he
      · cases heq
      · obtain ⟨m, hm, _, -, rfl⟩ := mem_oneOf_mul.1 he
        obtain ⟨rfl, -⟩ := List.cons.inj heq
        exact absurd hm (notMem_of_mem (by decide) hc)

lemma reads_decimalTail : Reads (fun s => some (decimalTail s)) decimalExpr := by
  have hfraction : Reads (fun s => some ((Cut.span isDecimalDigit s).andThen (Cut.orStay exponent?)))
      ((oneOf "0123456789_").star * optional exponentExpr) :=
    (reads_span isDecimalDigit_iff).andThen reads_exponent?.orStay fun w u v _ hwu huv =>
      mem_optional_exponentExpr_of_append (fun c hc => mem_star_oneOf.1 hwu c (List.mem_append_right w hc)) huv
  have hpoint := (reads_one isPoint_iff).andThen hfraction fun w u v _ hwu huv =>
    mem_digits_of_point_append (mem_optional_oneOf_of_append hwu) huv
  have hdecimal := (reads_span isDecimalDigit_iff).andThen hpoint fun w u v _ hwu huv =>
    mem_point_digits_of_append (fun c hc => mem_star_oneOf.1 hwu c (List.mem_append_right w hc)) huv
  have hassoc : decimalTail = fun s => (Cut.span isDecimalDigit s).andThen fun s => (Cut.one isPoint s).andThen fun s =>
      (Cut.span isDecimalDigit s).andThen (Cut.orStay exponent?) := by
    funext s
    rw [decimalTail, Cut.andThen_assoc, Cut.andThen_assoc]
  rw [hassoc]
  exact hdecimal

/-! ## Whole numerals -/

/-- The expression of numerals, by the first character: a zero, another digit or a point. -/
lemma mem_numeralExpr : w ∈ numeralExpr.matches' ↔
    (∃ v ∈ (optional (hexExpr + octalExpr)).matches', w = '0' :: v) ∨
    (∃ c ∈ "123456789".toList, ∃ v ∈ decimalExpr.matches', w = c :: v) ∨
    ∃ v ∈ (optional fractionExpr).matches', w = '.' :: v := by
  have hstar : ∀ v, v ∈ (oneOf "01234567_").star.matches' ↔ v = [] ∨ v ∈ octalExpr.matches' := by
    intro v
    rw [octalExpr, mem_many_oneOf, mem_star_oneOf]
    by_cases hv : v = [] <;> simp [hv]
  have hzero : ∀ v, v ∈ (optional (hexExpr + octalExpr)).matches' ↔
      v ∈ hexExpr.matches' ∨ v ∈ (oneOf "01234567_").star.matches' := by
    intro v
    rw [mem_optional, matches'_add, Language.mem_add, hstar, or_left_comm]
  simp only [numeralExpr, matches'_add, Language.mem_add, mem_oneOf_mul, hzero, or_and_right, exists_or]
  simp [or_assoc]

lemma reads_zeroTail :
    Reads (fun s => some (Cut.orStay (fun s => (hexTail? s).or (octalTail? s)) s)) (optional (hexExpr + octalExpr)) := by
  refine (reads_hexTail?.or reads_octalTail? (fun c u v hu hv => ?_) (fun h => ?_) fun h => ?_).orStay
  · obtain ⟨c', hc, _, -, heq⟩ := mem_oneOf_mul.1 hu
    obtain ⟨rfl, -⟩ := List.cons.inj heq
    exact notMem_of_mem (by decide) hc ((mem_many_oneOf.1 hv).2 c (List.mem_cons_self ..))
  · obtain ⟨_, -, _, -, heq⟩ := mem_oneOf_mul.1 h
    cases heq
  · exact (mem_many_oneOf.1 h).1 rfl

/-- A numeral, if the text starts with a digit or a point. -/
def numeral? : List Char → Option Cut
  | [] => none
  | c :: s => if c.isDigit || c == '.' then some (numeral c s) else none

lemma numeral_of_ne {c : Char} (hpoint : c ≠ '.') (hzero : c ≠ '0') (s : List Char) :
    numeral c s = (decimalTail s).cons c := by
  rw [numeral, if_neg hpoint, if_neg hzero]

/-- Behind its first character, a numeral takes at least as much as there is of any match. -/
lemma Reads.cons_prefix {v : List Char} (h : Reads (fun s => some (g s)) P) (c : Char) (t : List Char)
    (hv : v ∈ P.matches') : c :: v <+: ((g (v ++ t)).cons c).taken := by
  obtain ⟨k, hk, hle⟩ := h.greedy t hv
  obtain rfl := Option.some.inj hk
  exact List.cons_prefix_cons.2 ⟨rfl, hle⟩

/-- **Numerals are read as their expression says.** -/
lemma reads_numeral? : Reads numeral? numeralExpr where
  whole := by
    intro s k hk
    cases s with
    | nil => cases hk
    | cons c s =>
      rw [numeral?] at hk
      split at hk
      · cases hk
        exact whole_numeral c s
      · cases hk
  sound := by
    intro s k hk
    cases s with
    | nil => cases hk
    | cons c s =>
      rw [numeral?] at hk
      split at hk
      · rename_i hc
        cases hk
        rw [mem_numeralExpr]
        -- the first character tells which tail has been read
        by_cases hpoint : c = '.'
        · subst hpoint
          exact .inr (.inr ⟨_, reads_fractionTail?.orStay.sound rfl, rfl⟩)
        · by_cases hzero : c = '0'
          · subst hzero
            exact .inl ⟨_, reads_zeroTail.sound rfl, rfl⟩
          · have hdigit : c.isDigit = true := by simpa [hpoint] using hc
            have hmem : c ∈ "123456789".toList := ((isDigit_iff_mem c).1 hdigit).resolve_left hzero
            rw [numeral_of_ne hpoint hzero]
            exact .inr (.inl ⟨c, hmem, _, reads_decimalTail.sound rfl, rfl⟩)
      · cases hk
  greedy := by
    intro w t hw
    rcases mem_numeralExpr.1 hw with ⟨v, hv, rfl⟩ | ⟨c, hc, v, hv, rfl⟩ | ⟨v, hv, rfl⟩
    · exact ⟨numeral '0' (v ++ t), rfl, reads_zeroTail.cons_prefix '0' t hv⟩
    · have hpoint : c ≠ '.' := by
        rintro rfl
        exact absurd hc (by decide)
      have hzero : c ≠ '0' := by
        rintro rfl
        exact absurd hc (by decide)
      have hdigit : c.isDigit = true := (isDigit_iff_mem c).2 (.inr hc)
      refine ⟨numeral c (v ++ t), if_pos (by rw [hdigit, Bool.true_or]), ?_⟩
      rw [numeral_of_ne hpoint hzero]
      exact reads_decimalTail.cons_prefix c t hv
    · exact ⟨numeral '.' (v ++ t), rfl, reads_fractionTail?.orStay.cons_prefix '.' t hv⟩

/-! ## Numbers in code -/

/-- A digit or a point in code starts a number. -/
lemma read_of_digit_or_point {c : Char} (hc : c.isDigit = true ∨ c = '.') (s : List Char) :
    read .code (c :: s) = .styled .number (numeral c s) := by
  have hr := (Lexeme.number hc : Lexeme (.styled .number (numeral c s))).read_eq
  rwa [Scan.whole_styled, whole_numeral] at hr

/-- A number is read in code only, and where the text starts with a digit or a point. -/
lemma style_read_eq_number_iff (k : Continuation) (s : List Char) :
    (read k s).style = some .number ↔ k = .code ∧ ∃ c ∈ s.head?, c.isDigit = true ∨ c = '.' := by
  constructor
  · intro h
    have hs : s ≠ [] := by
      rintro rfl
      cases h
    have hk : k = .code := by
      unfold read at h
      split at h
      · cases k with
        | code => rfl
        | string q => cases (style_scanString q s).symm.trans h
        | comment => cases (style_scanComment s).symm.trans h
      · cases h
    subst hk
    refine ⟨rfl, ?_⟩
    have hw : (read .code s).whole = s := whole_read .code s
    have hl : Lexeme (read .code s) := lexeme_read hs
    generalize read .code s = r at h hw hl
    subst hw
    -- no span of another form has the style of numbers; a word has that of its class
    cases hl with
    | blanks => cases h
    | mark => cases h
    | lineComment => cases h
    | blockComment => cases h
    | operator => cases h
    | string => cases h
    | @number c text hc =>
      rw [Scan.whole_styled, whole_numeral]
      exact ⟨c, rfl, hc⟩
    | @word c run rest style signal hc hrun hword =>
      cases h
      have hvariable := hword.variable_iff.2 ⟨fun e => ?_, fun e => ?_, fun e => ?_⟩
      · cases hvariable
      · cases hword.keyword_iff.2 (.inl e)
      · cases hword.keyword_iff.2 (.inr e)
      · cases hword.atom_iff.2 e
  · rintro ⟨rfl, c, hc, hdigit⟩
    obtain ⟨s, rfl⟩ := List.head?_eq_some_iff.1 hc
    rw [read_of_digit_or_point hdigit]
    rfl

end GoLayout.Lexis

namespace GoLayout.Mode

open GoLayout.Text GoLayout.Lexis GoLayout.Layout

/-- **Numerals are longest matches.**  Each recognizer takes the longest match of its expression at the front of a text, and
fails where nothing matches.  A token is a number if and only if it stands in code and starts with a digit or a point, and then
it is the longest numeral at the front of what is left of the line. -/
theorem numerals_longest :
    TakesLongest fractionTail? fractionExpr ∧ TakesLongest hexTail? hexExpr ∧ TakesLongest octalTail? octalExpr ∧
    TakesLongest (fun s => some (decimalTail s)) decimalExpr ∧
    ∀ (c : Cursor) (s : State),
      let t := token c s
      (t.scan.style = some .number ↔ s.continuation = .code ∧ ∃ ch ∈ c.rest.head?, ch.isDigit = true ∨ ch = '.') ∧
      (t.scan.style = some .number → IsLongestPrefix numeralExpr c.rest t.cursor.token) := by
  refine ⟨reads_fractionTail?.takesLongest, reads_hexTail?.takesLongest, reads_octalTail?.takesLongest,
    reads_decimalTail.takesLongest, ?_⟩
  intro c s t
  have hscan : t.scan = read s.continuation c.rest := scan_token c s
  have hiff : t.scan.style = some .number ↔
      s.continuation = .code ∧ ∃ ch ∈ c.rest.head?, ch.isDigit = true ∨ ch = '.' := by
    rw [hscan]
    exact style_read_eq_number_iff _ _
  refine ⟨hiff, fun h => ?_⟩
  obtain ⟨hcode, ch, hhead, hch⟩ := hiff.1 h
  obtain ⟨text, hrest⟩ := List.head?_eq_some_iff.1 hhead
  have htoken : t.cursor.token = (numeral ch text).taken := by
    rw [show t.cursor.token = (read s.continuation c.rest).text from cursor_token c s, hcode, hrest,
      read_of_digit_or_point hch]
    rfl
  have hnumeral : numeral? c.rest = some (numeral ch text) := by
    rw [hrest]
    exact if_pos (by simpa using hch)
  rw [htoken]
  exact (reads_numeral?.takesLongest.takes _ _ hnumeral).2

/-- A mark without digits behind it is given back: that of an exponent with its sign, and that of hexadecimal digits. -/
example : (numeral '1' "2.e+".toList).taken = "12.".toList ∧ (numeral '0' "xg".toList).taken = "0".toList := by decide

end GoLayout.Mode
