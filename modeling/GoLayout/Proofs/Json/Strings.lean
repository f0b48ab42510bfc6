import GoLayout.Json.Reader
import GoLayout.Proofs.Json.Grammar

/-!
# Reading strings

The reader of strings takes what stands between the quotes character by character.  Whatever is spelled there it reads
as the characters that are meant, and leaves what follows the closing quote; of the other strings of the grammar, in
which half of a surrogate pair stands alone, it reads none.  So what a string spells is settled by its text.
-/

namespace GoLayout.Json

variable {c d : Char} {q q' t s rest : List Char} {n n' : Nat}

/-! ## One character -/

lemma stringBody_quote (s : List Char) : stringBody ('\x22' :: s) = .ok ([], s) := by
  rw [stringBody]
  rfl

lemma stringBody_plain (hc : IsPlain c) (s : List Char) :
    stringBody (c :: s) = (stringBody s).map fun r => (c :: r.1, r.2) := by
  have hn := hc.not_control
  rw [stringBody, if_neg hc.not_quote, if_neg hc.not_backslash, if_neg (by omega)]

lemma stringBody_backslash (s : List Char) :
    stringBody ('\\' :: s) = match escape s with
      | .error e => .error e
      | .ok (d, rest) => (stringBody rest).map fun r => (d :: r.1, r.2) := by
  rw [stringBody, if_neg (by decide), if_pos rfl]
  split <;> simp_all

lemma escape_short (h : ShortEscape d c) (s : List Char) : escape (d :: s) = .ok (c, s) := by
  cases h <;> rfl

lemma escape_u (s : List Char) : escape ('u' :: s) = codePoint s := by
  rw [escape, if_pos rfl]

/-! ## Code points -/

lemma hexValue?_of_hexDigit {v : Nat} (h : HexDigit c v) : hexValue? c = some v := by
  have hvalues : ∀ v < 16, "0123456789abcdef".toList[v]?.bind hexValue? = some v ∧
      "0123456789ABCDEF".toList[v]?.bind hexValue? = some v := by decide
  rcases h with h | h
  · have hv := (hvalues v (List.getElem?_eq_some_iff.1 h).1).1
    rwa [h] at hv
  · have hv := (hvalues v (List.getElem?_eq_some_iff.1 h).1).2
    rwa [h] at hv

lemma quad_append (h : HexQuad q n) (s : List Char) : quad (q ++ s) = .ok (n, s) := by
  cases h with
  | @mk a b c d va vb vc vd ha hb hc hd =>
    have hvalue : ((va * 16 + vb) * 16 + vc) * 16 + vd = Nat.ofDigits 16 [vd, vc, vb, va] := by
      simp only [Nat.ofDigits_cons, Nat.ofDigits_nil]
      push_cast
      omega
    have hquad : hexQuad? a b c d = some (Nat.ofDigits 16 [vd, vc, vb, va]) := by
      simp only [hexQuad?, hexValue?_of_hexDigit ha, hexValue?_of_hexDigit hb, hexValue?_of_hexDigit hc,
        hexValue?_of_hexDigit hd, ← hvalue]
      rfl
    simp only [List.cons_append, List.nil_append, quad, hquad]

/-- The second half of a surrogate pair and what it makes of the first one. -/
def secondHalf (n : Nat) : Reader Char :=
  andThen (pairMark '\\') fun _ => andThen (pairMark 'u') fun _ => andThen quad fun n' =>
    if isTrailing n' then yields (ofSurrogates n n') else fail .loneSurrogate

lemma codePoint_append (h : HexQuad q n) (s : List Char) :
    codePoint (q ++ s) = if isTrailing n then fail .loneSurrogate s
      else if isLeading n then secondHalf n s else .ok (Char.ofNat n, s) := by
  simp only [codePoint, andThen, quad_append h]
  split
  · rfl
  · split <;> rfl

lemma isLeading_iff : isLeading n = true ↔ 0xD800 ≤ n ∧ n ≤ 0xDBFF := by simp [isLeading]

lemma isTrailing_iff : isTrailing n = true ↔ 0xDC00 ≤ n ∧ n ≤ 0xDFFF := by simp [isTrailing]

/-- The second half of a pair stands behind a backslash and the letter `u`. -/
lemma of_secondHalf (h : secondHalf n s = .ok (c, rest)) :
    ∃ s' n', s = '\\' :: 'u' :: s' ∧ quad s' = .ok (n', rest) ∧ isTrailing n' = true ∧ c = ofSurrogates n n' := by
  have hmark : ∀ {mark : Char} {s rest : List Char} {u : Unit},
      pairMark mark s = .ok (u, rest) → s = mark :: rest := by
    intro mark s rest u h
    cases s with
    | nil => cases h
    | cons c s =>
      simp only [pairMark] at h
      split at h
      · rename_i hc
        rw [hc, (Prod.mk.inj (Except.ok.inj h)).2]
      · cases h
  obtain ⟨_, s₁, h₁, h⟩ := of_andThen h
  obtain ⟨_, s₂, h₂, h⟩ := of_andThen h
  obtain ⟨n', s₃, h₃, h⟩ := of_andThen h
  split at h
  · rename_i ht
    obtain ⟨rfl, rfl⟩ := Prod.mk.inj (Except.ok.inj h)
    exact ⟨s₂, n', by rw [hmark h₁, hmark h₂], h₃, ht, rfl⟩
  · cases h

lemma secondHalf_pair (hq : HexQuad q n') (hn : 0xDC00 ≤ n' ∧ n' ≤ 0xDFFF) (n : Nat) (s : List Char) :
    secondHalf n ('\\' :: 'u' :: (q ++ s)) = .ok (ofSurrogates n n', s) := by
  simp only [secondHalf, andThen, pairMark, if_true, quad_append hq, isTrailing_iff.2 hn, yields]

lemma stringBody_unit (hq : HexQuad q n) (s : List Char) :
    stringBody ('\\' :: 'u' :: (q ++ s)) =
      match if isTrailing n then fail .loneSurrogate s
        else if isLeading n then secondHalf n s else .ok (Char.ofNat n, s) with
      | .error e => .error e
      | .ok (d, rest) => (stringBody rest).map fun r => (d :: r.1, r.2) := by
  rw [stringBody_backslash, escape_u, codePoint_append hq]

/-! ## Whole strings -/

/-- **What is spelled is read.** -/
lemma stringBody_of_spells (h : Spells t s) (rest : List Char) : stringBody (t ++ '\x22' :: rest) = .ok (s, rest) := by
  -- along the spelling; only a pair of surrogates takes two units at once
  induction h with
  | nil => exact stringBody_quote rest
  | plain hc _ ih =>
    rw [List.cons_append, stringBody_plain hc, ih]
    rfl
  | short he _ ih =>
    rw [List.cons_append, stringBody_backslash, List.cons_append, escape_short he]
    simp only [ih]
    rfl
  | @unit q t s n hq hn _ ih =>
    have ht : isTrailing n = false := by
      rw [← Bool.not_eq_true, isTrailing_iff]
      omega
    have hl : isLeading n = false := by
      rw [← Bool.not_eq_true, isLeading_iff]
      omega
    rw [List.cons_append, List.cons_append, List.append_assoc, stringBody_unit hq, ht, hl]
    simp only [Bool.false_eq_true, if_false, ih]
    rfl
  | @pair q q' t s n n' hq hn hq' hn' _ ih =>
    have ht : isTrailing n = false := by
      rw [← Bool.not_eq_true, isTrailing_iff]
      omega
    rw [List.cons_append, List.cons_append, List.append_assoc, stringBody_unit hq, ht, isLeading_iff.2 hn,
      List.cons_append, List.cons_append, List.append_assoc, secondHalf_pair hq' hn']
    simp only [Bool.false_eq_true, if_false, if_true, ih]
    rfl

/-- What is spelled is settled by the text. -/
lemma Spells.unique {s' : List Char} (h : Spells t s) (h' : Spells t s') : s = s' := by
  have heq := (stringBody_of_spells h []).symm.trans (stringBody_of_spells h' [])
  exact (Prod.mk.inj (Except.ok.inj heq)).1

/-- In a string, a backslash and the letter `u` stand before four digits. -/
lemma exists_quad_of_isString (h : IsString t) (hs : t ++ '\x22' :: rest = '\\' :: 'u' :: s) :
    ∃ q n u, HexQuad q n ∧ IsString u ∧ t = '\\' :: 'u' :: (q ++ u) ∧ s = q ++ (u ++ '\x22' :: rest) := by
  cases h with
  | nil => cases hs
  | plain hc _ => exact absurd (List.cons.inj hs).1 hc.not_backslash
  | short he _ =>
    obtain ⟨rfl, -⟩ := List.cons.inj (List.cons.inj hs).2
    cases he
  | @unit q u n hq hu =>
    refine ⟨q, n, u, hq, hu, rfl, ?_⟩
    rw [← List.append_assoc]
    exact (List.cons.inj (List.cons.inj hs).2).2.symm

lemma of_map_cons {x : Except Fault (List Char × List Char)} {r : List Char × List Char}
    (h : x.map (fun r => (c :: r.1, r.2)) = .ok r) : ∃ r', x = .ok r' ∧ r = (c :: r'.1, r'.2) := by
  cases x with
  | error => cases h
  | ok r' => exact ⟨r', rfl, (Except.ok.inj h).symm⟩

/-- A unit that is read stands for a character of its own, or it is the first half of a surrogate pair. -/
lemma of_stringBody_unit (hq : HexQuad q n) {r : List Char × List Char}
    (h : stringBody ('\\' :: 'u' :: (q ++ s)) = .ok r) :
    ∃ c s' r', stringBody s' = .ok r' ∧ r = (c :: r'.1, r'.2) ∧
      ((n < 0xD800 ∨ 0xDFFF < n) ∧ c = Char.ofNat n ∧ s' = s ∨
        (0xD800 ≤ n ∧ n ≤ 0xDBFF) ∧ secondHalf n s = .ok (c, s')) := by
  rw [stringBody_unit hq] at h
  by_cases ht : isTrailing n = true
  · rw [if_pos ht] at h
    cases h
  · rw [if_neg ht] at h
    by_cases hl : isLeading n = true
    · rw [if_pos hl] at h
      split at h
      · cases h
      · rename_i c s' hc
        obtain ⟨r', hr', rfl⟩ := of_map_cons h
        exact ⟨c, s', r', hr', rfl, .inr ⟨isLeading_iff.1 hl, hc⟩⟩
    · rw [if_neg hl] at h
      obtain ⟨r', hr', rfl⟩ := of_map_cons h
      rw [isTrailing_iff] at ht
      rw [isLeading_iff] at hl
      exact ⟨_, s, r', hr', rfl, .inl ⟨by omega, rfl, rfl⟩⟩

/-- **A string of the grammar that is read spells something**, and what follows the closing quote is left. -/
lemma exists_spells_of_stringBody (h : IsString t) {r : List Char × List Char}
    (hr : stringBody (t ++ '\x22' :: rest) = .ok r) : ∃ s, Spells t s ∧ r = (s, rest) := by
  -- by the length of the text, since a surrogate pair is two escapes of the grammar
  induction hlen : t.length using Nat.strong_induction_on generalizing t r with
  | _ len ih =>
    cases h with
    | nil =>
      rw [List.nil_append, stringBody_quote] at hr
      exact ⟨[], .nil, (Except.ok.inj hr).symm⟩
    | plain hc h =>
      rw [List.cons_append, stringBody_plain hc] at hr
      obtain ⟨r', hr', rfl⟩ := of_map_cons hr
      obtain ⟨s, hs, rfl⟩ := ih _ (by simp only [← hlen, List.length_cons]; omega) h hr' rfl
      exact ⟨_, .plain hc hs, rfl⟩
    | short he h =>
      rw [List.cons_append, stringBody_backslash, List.cons_append, escape_short he] at hr
      obtain ⟨r', hr', rfl⟩ := of_map_cons hr
      obtain ⟨s, hs, rfl⟩ := ih _ (by simp only [← hlen, List.length_cons]; omega) h hr' rfl
      exact ⟨_, .short he hs, rfl⟩
    | @unit q u n hq h =>
      rw [List.cons_append, List.cons_append, List.append_assoc] at hr
      obtain ⟨c, s', r', hr', rfl, ⟨hn, rfl, rfl⟩ | ⟨hn, hsecond⟩⟩ := of_stringBody_unit hq hr
      · have hlt : u.length < len := by
          simp only [← hlen, List.length_cons, List.length_append]
          omega
        obtain ⟨s, hs, rfl⟩ := ih _ hlt h hr' rfl
        exact ⟨_, .unit hq hn hs, rfl⟩
      · obtain ⟨s'', n', hs'', hquad, htrail, hc⟩ := of_secondHalf hsecond
        obtain ⟨q', m, u', hq', hu', rfl, rfl⟩ := exists_quad_of_isString h hs''
        rw [quad_append hq'] at hquad
        obtain ⟨rfl, rfl⟩ := Prod.mk.inj (Except.ok.inj hquad)
        have hlt : u'.length < len := by
          simp only [← hlen, List.length_cons, List.length_append]
          omega
        obtain ⟨s, hs, rfl⟩ := ih _ hlt hu' hr' rfl
        rw [hc]
        exact ⟨_, .pair hq hn hq' (isTrailing_iff.1 htrail) hs, rfl⟩

end GoLayout.Json
